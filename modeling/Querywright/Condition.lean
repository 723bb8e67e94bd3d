import Querywright.Expression.Rendering
import Querywright.Text.Keyword

/-! Conditions from loose arguments: raw SQL with its values, a sub-query with `EXISTS`, a column
with a value, or a column with an operator and its values. -/
namespace Querywright

def Connector.ofValue (value : Value) : Except Error Connector :=
  match value with
  | .text "AND" => .ok .both
  | .text "OR" => .ok .either
  | _ => .error (.invalid [(.notAmongChoices, [.field "connector"])])

/-- One list or row in place of the values of a range stands for its items. -/
def spreadRow : List Value → List Value
  | [.list items] => items
  | [.tuple items] => items
  | values => values

/-- For membership a set may stand for the values as well. -/
def spreadCollection : List Value → List Value
  | [.set _ items] => items
  | values => spreadRow values

namespace ConditionBody

def existenceOf (subquery : Subquery) : List Value → Except Error ConditionBody
  | [.text operator] =>
    match Text.upper (Text.trim operator) with
    | "EXISTS" => .ok (.existence false subquery)
    | "NOT EXISTS" => .ok (.existence true subquery)
    | _ => .error .misplacedExistence
  | _ => .error .misplacedExistence

def rangeOf (column : String) (negated : Bool) (values : List Value) :
    Except Error ConditionBody :=
  match spreadRow values with
  | [low, high] => .ok (.range column negated low.asExpression high.asExpression)
  | others => .error (.rangeCount (rangeOperator negated) others.length)

def membershipOf (column : String) (negated : Bool) (values : List Value) :
    Except Error ConditionBody :=
  match spreadCollection values with
  | [] => .error (.emptyMembership (membershipOperator negated))
  | operands => .ok (.membership column negated (operands.map Value.asExpression))

def operatorOf (column operator : String) (values : List Value) : Except Error ConditionBody :=
  match Text.keyword operator with
  | "BETWEEN" => rangeOf column false values
  | "NOT BETWEEN" => rangeOf column true values
  | "IN" => membershipOf column false values
  | "NOT IN" => membershipOf column true values
  | keyword =>
    match values with
    | [value] => .ok (.comparison column keyword value.asExpression)
    | others => .error (.operandCount keyword others.length)

def columnOf (column : String) : List Value → Except Error ConditionBody
  | [] => .ok (.raw column [])
  | first :: rest =>
    if 0 < Placeholder.count column then .ok (.raw column (first :: rest))
    else match rest, first with
      | [], value => .ok (.comparison column "=" value.asExpression)
      | values, .text operator =>
        if Text.isBlankText operator then .error (.invalidOperator column first.shown)
        else operatorOf column operator values
      | _, other => .error (.invalidOperator column other.shown)

def build : List Value → Except Error ConditionBody
  | [] => .error .emptyCondition
  | .expression (.subquery subquery) :: rest => existenceOf subquery rest
  | .text column :: rest =>
    if Text.isBlankText column then .error (.invalidConditionColumn (Text.quoted column))
    else columnOf column rest
  | other :: _ => .error (.invalidConditionColumn other.shown)

end ConditionBody

def Condition.build (connector : Connector) (arguments : List Value) : Except Error Condition :=
  (ConditionBody.build arguments).map (Condition.mk connector)

def Condition.row (conditions : List Condition) : Except Error Fragment :=
  (Condition.fragments true conditions).map Fragment.spaced

end Querywright
