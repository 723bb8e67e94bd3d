import Querywright.Placeholder.Pieces
import Querywright.Report

/-! The connections to one database address. Connections are opened when they are needed and kept
idle between statements; whoever takes one has it alone until it is given back. A failure that
means a lost connection marks the whole pool, and the next one to take a connection closes every
idle one first. -/
namespace Querywright

/-- An address as it is, or a supplier asked anew for every connection. -/
inductive Source where
  | fixed (address : String)
  | supplied (number : Nat)
deriving DecidableEq, Repr

def Source.resolve {σ : Type} (engine : Engine σ) (source : Source) (world : World σ) :
    Except Error String × World σ :=
  match source with
  | .fixed address => (.ok address, world)
  | .supplied number => world.resolve engine number

/-- Idle connections are listed from the one that has waited longest. -/
structure Pool where
  source : Source
  url : String
  dialect : Dialect
  healthy : Bool := true
  idle : List Nat := []
  used : Bool := false
  checked : Bool := false
deriving DecidableEq, Repr

def Dialect.handedOver (dialect : Dialect) (statement parameters : Value) :
    Except Error (Value × List Value) := do
  let statement ← Placeholder.statementInStyle dialect.style statement
  return (statement, ← parameters.items)

namespace Pool

variable {σ : Type}

def ofUrl (source : Source) (url : String) : Except Error Pool := do
  let address ← Address.parse url
  let dialect ← Dialect.ofScheme address.scheme
  return { source := source, url := url, dialect := dialect }

def make (engine : Engine σ) (source : Source) (world : World σ) :
    Except Error Pool × World σ :=
  match source.resolve engine world with
  | (.error reason, world) => (.error reason, world)
  | (.ok url, world) => (ofUrl source url, world)

/-- How messages call the pool: user, password, port and query of its address stay hidden. -/
def label (pool : Pool) : Except Error String :=
  (Address.parse pool.url).map fun address =>
    "PooledConnection(" ++ address.scheme ++ "://" ++ address.host?.getD "" ++ address.path ++ ")"

def labelText (pool : Pool) : String :=
  match pool.label with
  | .ok text => text
  | .error _ => pool.url

def outline (pool : Pool) : Outline :=
  [("url", .text pool.url), ("healthy", .truth pool.healthy),
    ("idle", .list (pool.idle.map fun (connection : Nat) => Value.integer connection)),
    ("used", .truth pool.used), ("checked", .truth pool.checked)]

def asValue (pool : Pool) : Value :=
  .thing "PooledConnection" [] pool.outline pool.labelText pool.labelText

def openConnection (engine : Engine σ) (pool : Pool) (world : World σ) :
    Except Error Nat × Pool × World σ :=
  match pool.source.resolve engine world with
  | (.error reason, world) => (.error reason, pool, world)
  | (.ok url, world) =>
    let pool := { pool with url := url }
    match pool.dialect.connect engine url world with
    | (.error reason, world) => (.error reason, pool, world)
    | (.ok none, world) => (.error (.misuse (.noSuchOperation "cursor")), pool, world)
    | (.ok (some connection), world) =>
      (.ok connection, { pool with healthy := true, used := true },
        world.log .information ("Opened connection to " ++ pool.labelText))

/-- Takes the connection that became idle last, or opens one. -/
def checkout (engine : Engine σ) (pool : Pool) (world : World σ) :
    Except Error Nat × Pool × World σ :=
  if pool.healthy then
    match pool.idle.getLast? with
    | some connection =>
      (.ok connection, { pool with idle := pool.idle.dropLast, used := true }, world)
    | none => openConnection engine pool world
  else openConnection engine { pool with idle := [] } (world.discard engine pool.idle)

/-- Gives a connection back; one that is discarded, or whose pool is marked, is closed. -/
def checkin (engine : Engine σ) (connection : Nat) (discarded : Bool) (pool : Pool)
    (world : World σ) : Pool × World σ :=
  if discarded || !pool.healthy then (pool, world.discard engine [connection])
  else ({ pool with idle := pool.idle ++ [connection] }, world)

/-- Marks the pool when a failure means that the connection is lost. -/
def notice (fault : Fault) (pool : Pool) (world : World σ) : Pool × World σ :=
  if pool.dialect.isDisconnect fault then
    ({ pool with healthy := false }, world.log .warning ("Connection to " ++ pool.labelText ++
      " lost: " ++ fault.message))
  else (pool, world)

def run (engine : Engine σ) (connection : Nat) (statement parameters : Value) (pool : Pool)
    (world : World σ) : Except Error Report × Pool × World σ :=
  match world.readiness connection with
  | .error fault => (.error (.fault fault), pool.notice fault world)
  | .ok () =>
    match pool.dialect.handedOver statement parameters with
    | .error reason => (.error reason, pool, world)
    | .ok (statement, values) =>
      match world.execute engine connection statement values with
      | (.error (.fault fault), world) => (.error (.fault fault), pool.notice fault world)
      | (.error reason, world) => (.error reason, pool, world)
      | (.ok answer, world) => (Report.ofAnswer pool.dialect answer, pool, world)

/-- Takes a connection for one statement and gives it back whatever comes of it. -/
def execute (engine : Engine σ) (statement parameters : Value) (pool : Pool)
    (world : World σ) : Except Error Report × Pool × World σ :=
  match pool.checkout engine world with
  | (.error reason, pool, world) => (.error reason, pool, world)
  | (.ok connection, pool, world) =>
    let (result, pool, world) := pool.run engine connection statement parameters world
    (result, pool.checkin engine connection false world)

def ping (engine : Engine σ) (pool : Pool) (world : World σ) :
    Except Error Unit × Pool × World σ :=
  match pool.execute engine (.text "SELECT 1") (.tuple []) world with
  | (.error reason, pool, world) => (.error reason, pool, world)
  | (.ok _, pool, world) => (.ok (), { pool with healthy := true, checked := true }, world)

def close (engine : Engine σ) (pool : Pool) (world : World σ) : Pool × World σ :=
  ({ pool with idle := [] }, world.discard engine pool.idle)

end Pool
end Querywright
