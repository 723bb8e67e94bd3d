import Querywright.Error

/-! Database engines seen from outside. An engine decides how each call is answered; the world
around it numbers the connections, remembers which are closed, and keeps a record of every call
and message in order. -/
namespace Querywright

inductive Target where
  | sqlite (path : String)
  | mysql (host user password database : Option String) (port : Nat)
deriving DecidableEq, Repr

/-- What an engine reports of one statement, before it is looked at. -/
structure Answer where
  columns : List Value := []
  rows : List (List Value) := []
  rowcount : Value := .integer 0
  lastrowid : Value := .null

/-- How the outside answers: suppliers of addresses, attempts to connect, statements on a
connection, and attempts to close one. -/
structure Engine (σ : Type) where
  resolve : Nat → σ → Except Error String × σ
  connect : Target → σ → Option Fault × σ
  execute : Nat → Value → List Value → σ → Except Error Answer × σ
  close : Nat → σ → Option Fault × σ

inductive Severity where
  | information
  | warning
deriving DecidableEq, Repr

inductive Event where
  | connected (number : Option Nat) (target : Target)
  | executed (connection : Nat) (statement : Value) (arguments : List Value)
  | closed (connection : Nat)
  | resolved (address : String)
  | logged (severity : Severity) (message : String)

/-- Connections are numbered from one in the order of their opening. -/
structure World (σ : Type) where
  outside : σ
  targets : List Target := []
  closed : List Nat := []
  events : List Event := []

namespace World

variable {σ : Type}

def note (event : Event) (world : World σ) : World σ :=
  { world with events := world.events ++ [event] }

def log (severity : Severity) (message : String) (world : World σ) : World σ :=
  world.note (.logged severity message)

def target? (connection : Nat) (world : World σ) : Option Target :=
  if connection == 0 then none else world.targets[connection - 1]?

def resolve (engine : Engine σ) (supplier : Nat) (world : World σ) :
    Except Error String × World σ :=
  let (result, outside) := engine.resolve supplier world.outside
  let world := { world with outside := outside }
  match result with
  | .ok address => (.ok address, world.note (.resolved address))
  | .error reason => (.error reason, world)

def connect (engine : Engine σ) (target : Target) (world : World σ) :
    Except Error Nat × World σ :=
  let (refusal, outside) := engine.connect target world.outside
  let world := { world with outside := outside }
  match refusal with
  | some fault => (.error (.fault fault), world.note (.connected none target))
  | none =>
    let number := world.targets.length + 1
    (.ok number,
      { world with targets := world.targets ++ [target] }.note (.connected (some number) target))

def closedFault : Option Target → Fault
  | some (.mysql ..) => ⟨.mysqlInterface, [.integer 0, .text ""]⟩
  | _ => ⟨.sqliteProgramming, [.text "Cannot operate on a closed database."]⟩

/-- A closed connection takes no statement. -/
def readiness (connection : Nat) (world : World σ) : Except Fault Unit :=
  if world.closed.contains connection then .error (closedFault (world.target? connection))
  else .ok ()

def execute (engine : Engine σ) (connection : Nat) (statement : Value) (arguments : List Value)
    (world : World σ) : Except Error Answer × World σ :=
  let (result, outside) := engine.execute connection statement arguments world.outside
  (result, { world with outside := outside }.note (.executed connection statement arguments))

/-- A connection counts as closed even when closing it fails. -/
def close (engine : Engine σ) (connection : Nat) (world : World σ) : Except Error Unit × World σ :=
  let (failure, outside) := engine.close connection world.outside
  let world := { world with outside := outside, closed := connection :: world.closed }
  (match failure with
    | some fault => .error (.fault fault)
    | none => .ok (), world.note (.closed connection))

/-- Closes connections that nobody needs; failures do not matter. -/
def discard (engine : Engine σ) (connections : List Nat) (world : World σ) : World σ :=
  connections.foldl (fun world connection => (world.close engine connection).2) world

end World
end Querywright
