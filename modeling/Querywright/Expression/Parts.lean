import Querywright.Condition
import Querywright.Record.Validation

/-! Expressions from loose parts. Each part is fitted to its declared kind, and all flaws are
told; what a part says is not looked at. -/
namespace Querywright

def invalidOr {α : Type} : Except Flaws α → Except Error α
  | .ok result => .ok result
  | .error flaws => .error (.invalid flaws)

def Expression.functionOf (template : Value) (arguments : List Value) : Except Error Expression :=
  (invalidOr (fitNamed "template" .text template)).map fun fitted =>
    .function fitted.plain arguments

/-- A condition whose arguments are looked at before its connector. -/
def Condition.ofParts (connector : Value) (arguments : List Value) : Except Error Condition := do
  let body ← ConditionBody.build arguments
  let connector ← Connector.ofValue connector
  return ⟨connector, body⟩

def Order.ofParts (column direction : Value) (ranking : List Value) : Except Error Order :=
  (invalidOr (besides (fitNamed "column" .text column)
    (fitNamed "direction" (.optional .text) direction))).map fun (column, direction) =>
      ⟨column.plain, direction.asText?, ranking⟩

/-- Directions are taken word for word. -/
def directionOf (direction : Value) : Except Flaws JoinDirection :=
  match direction.asText?.bind JoinDirection.ofText? with
  | some found => .ok found
  | none => .error [(.notAmongChoices, [.field "direction"])]

/-- Any text is a table here, and a nested select needs no alias. -/
def looseTarget (target : Value) : Except Error JoinTarget :=
  match target with
  | .text name => .ok (.table name)
  | .expression (.subquery subquery) => .ok (.derived subquery)
  | _ => .error (.misuse (.noSuchOperation "alias"))

/-- A join without a target: its direction and base condition, then the conditions added to it. -/
def Join.termsOf (direction condition : Value) : Except Error (JoinDirection × String) :=
  (invalidOr (besides (directionOf direction) (fitNamed "condition" .text condition))).map
    fun (direction, condition) => (direction, condition.plain)

end Querywright
