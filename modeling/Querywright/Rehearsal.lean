import Querywright.Engine
import Querywright.Text.Search
import Querywright.Value.Items

/-! A rehearsed engine: it opens no database and answers by rules. The first rule that fits a
statement decides the answer; a rule may be good for a number of times only. -/
namespace Querywright

/-- A rule fits statements that hold a text, on one connection or on all. -/
structure Rule where
  part : String := ""
  connection : Option Nat := none
  times : Option Int := none
  outcome : Except Fault Answer

/-- A rule for attempts to connect, by a part of the path or of the host. -/
structure ConnectRule where
  part : String := ""
  times : Option Int := none
  refusal : Option Fault := none

structure Rehearsal where
  rules : List Rule := []
  connectRules : List ConnectRule := []
  stubborn : List Nat := []
  suppliers : List (List String) := []

def isLeft (times : Option Int) : Bool :=
  (times.map fun count => decide (0 < count)).getD true

/-- Whether a statement holds a text: as a part of it, or as one of its elements when it is no
text. -/
def holdsPart (part : String) (statement : Value) : Except Error Bool :=
  match statement with
  | .text text => .ok (Text.contains text part)
  | .octets _ => .error (.misuse .octetsRequired)
  | other => other.items.map fun items => items.any (Value.sameKey (.text part))

namespace Rule

def fits (connection : Nat) (statement : Value) (rule : Rule) : Except Error Bool := do
  let holds ← holdsPart rule.part statement
  return holds && (rule.connection.map (· == connection)).getD true && isLeft rule.times

def spent (rule : Rule) : Rule :=
  { rule with times := rule.times.map (· - 1) }

def answer (connection : Nat) (statement : Value) :
    List Rule → Except Error Answer × List Rule
  | [] => (.ok {}, [])
  | rule :: rest =>
    match rule.fits connection statement with
    | .error reason => (.error reason, rule :: rest)
    | .ok true => (rule.outcome.mapError .fault, rule.spent :: rest)
    | .ok false =>
      let (result, others) := answer connection statement rest
      (result, rule :: others)

end Rule

namespace ConnectRule

def placeOf : Target → String
  | .sqlite path => path
  | .mysql host .. => host.getD "None"

def fits (target : Target) (rule : ConnectRule) : Bool :=
  Text.contains (placeOf target) rule.part && isLeft rule.times

def spent (rule : ConnectRule) : ConnectRule :=
  { rule with times := rule.times.map (· - 1) }

def answer (target : Target) : List ConnectRule → Option Fault × List ConnectRule
  | [] => (none, [])
  | rule :: rest =>
    if rule.fits target then (rule.refusal, rule.spent :: rest)
    else
      let (result, others) := answer target rest
      (result, rule :: others)

end ConnectRule

namespace Rehearsal

/-- A supplier gives its addresses in turn and its last one again and again. -/
def supply : List String → Option (String × List String)
  | [] => none
  | [last] => some (last, [last])
  | first :: rest => some (first, rest)

def addSupplier (addresses : List String) (rehearsal : Rehearsal) : Nat × Rehearsal :=
  (rehearsal.suppliers.length,
    { rehearsal with suppliers := rehearsal.suppliers ++ [addresses] })

def resolve (supplier : Nat) (rehearsal : Rehearsal) : Except Error String × Rehearsal :=
  match (rehearsal.suppliers[supplier]?).bind supply with
  | none => (.error (.misuse .rowTooShort), rehearsal)
  | some (address, rest) =>
    (.ok address, { rehearsal with suppliers := rehearsal.suppliers.set supplier rest })

def connect (target : Target) (rehearsal : Rehearsal) : Option Fault × Rehearsal :=
  let (refusal, rules) := ConnectRule.answer target rehearsal.connectRules
  (refusal, { rehearsal with connectRules := rules })

def execute (connection : Nat) (statement : Value) (_arguments : List Value)
    (rehearsal : Rehearsal) : Except Error Answer × Rehearsal :=
  let (result, rules) := Rule.answer connection statement rehearsal.rules
  (result, { rehearsal with rules := rules })

def close (connection : Nat) (rehearsal : Rehearsal) : Option Fault × Rehearsal :=
  (if rehearsal.stubborn.contains connection
    then some ⟨.sqliteOperational, [.text "close failed"]⟩ else none, rehearsal)

def engine : Engine Rehearsal :=
  ⟨resolve, connect, execute, close⟩

end Rehearsal
end Querywright
