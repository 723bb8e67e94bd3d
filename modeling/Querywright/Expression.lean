import Querywright.Record.FieldType

/-! The language of statements: values that callers bind, expressions made of SQL text with
placeholders, conditions, joins, orderings, and the clauses of one statement. A sub-query is a set
of clauses used as an expression, so the types are defined together. -/
namespace Querywright

inductive Connector where
  | both
  | either
deriving DecidableEq, Repr

def Connector.text : Connector → String
  | .both => "AND"
  | .either => "OR"

inductive JoinDirection where
  | left
  | right
  | inner
  | natural
  | cross
  | leftOuter
  | rightOuter
deriving DecidableEq, Repr

namespace JoinDirection

def text : JoinDirection → String
  | .left => "LEFT"
  | .right => "RIGHT"
  | .inner => "INNER"
  | .natural => "NATURAL"
  | .cross => "CROSS"
  | .leftOuter => "LEFT OUTER"
  | .rightOuter => "RIGHT OUTER"

def all : List JoinDirection :=
  [.left, .right, .inner, .natural, .cross, .leftOuter, .rightOuter]

def ofText? (text : String) : Option JoinDirection :=
  all.find? (·.text == text)

end JoinDirection

inductive TimePart where
  | date
  | year
  | month
  | day
  | weekday
  | hour
  | minute
  | second
deriving DecidableEq, Repr

def TimePart.function : TimePart → String
  | .date => "DATE"
  | .year => "YEAR"
  | .month => "MONTH"
  | .day => "DAY"
  | .weekday => "WEEKDAY"
  | .hour => "HOUR"
  | .minute => "MINUTE"
  | .second => "SECOND"

inductive ConditionForm where
  | raw
  | column
  | existence
deriving DecidableEq, Repr

def ConditionForm.name : ConditionForm → String
  | .raw => "raw"
  | .column => "column"
  | .existence => "exists"

def ConditionForm.ofName? : String → Option ConditionForm
  | "raw" => some .raw
  | "column" => some .column
  | "exists" => some .existence
  | _ => none

mutual

/-- What a caller may hand over: plain data, declared types, suppliers of addresses, open
connections, holders, and expressions. Anything else is a thing known by its kind, the fields that
going through it yields, its outline and its two texts; a shared value stands at a place where
others may change it. -/
inductive Value where
  | null
  | truth (value : Bool)
  | integer (value : Int)
  | decimal (value : Float)
  | text (value : String)
  | octets (value : List UInt8)
  | list (items : List Value)
  | tuple (items : List Value)
  | set (frozen : Bool) (items : List Value)
  | mapping (entries : List (Value × Value))
  | record (name : String) (fields : List (String × Value))
  | holder (content : Value)
  | declared (type : FieldType)
  | supplier (number : Nat)
  | connection (number : Nat)
  | expression (expression : Expression)
  | thing (kind : String) (fields outline : List (String × Value)) (shown plain : String)
  | shared (place : Nat)

/-- A patterned expression is a comparison like that of a timestamp, written by any pattern. -/
inductive Expression where
  | base
  | null
  | literal (value : Value)
  | function (template : String) (arguments : List Value)
  | timestamp (part : TimePart) (value : Value)
  | patterned (pattern : String) (value : Value)
  | condition (condition : Condition)
  | order (order : Order)
  | subquery (subquery : Subquery)

/-- A loose body has whatever was put into its fields, be it fit to be written or not. -/
inductive ConditionBody where
  | raw (text : String) (arguments : List Value)
  | comparison (column operator : String) (operand : Expression)
  | range (column : String) (negated : Bool) (low high : Expression)
  | membership (column : String) (negated : Bool) (operands : List Expression)
  | existence (negated : Bool) (subquery : Subquery)
  | loose (form : ConditionForm) (raw : String) (rawArguments : List Value)
      (column operator : String) (operands : List Value)

structure Condition where
  connector : Connector
  body : ConditionBody

/-- An ordering term; with a ranking, rows are ordered by the place of the column in it. -/
structure Order where
  column : String
  direction : Option String
  ranking : List Value

inductive JoinTarget where
  | table (name : String)
  | derived (subquery : Subquery)

structure Join where
  direction : JoinDirection
  target : JoinTarget
  condition : String
  conditions : List Condition

/-- The clauses gathered for the next statement. Tables, groups and upsert columns are kept as
they were given and looked at when the statement is rendered. -/
structure Clauses where
  tables : List Value := []
  conditions : List Condition := []
  groupConditions : List Condition := []
  joins : List Join := []
  orders : List Order := []
  groups : List Value := []
  limit : List Value := []
  options : List String := []
  upsertColumns : List Value := []
  insertIdColumn : Option Value := none
  totalRequested : Bool := false

/-- A nested select. A recorded one stands for the statement of its last terminal call, any
other for the select of all columns from its clauses. -/
structure Subquery where
  clauses : Clauses
  pageLimit : Int
  derivedName : Option String
  recorded : Option (String × List Value)

end

instance : Inhabited Value := ⟨.null⟩
instance : Inhabited Expression := ⟨.null⟩

def ConditionBody.form : ConditionBody → ConditionForm
  | .raw .. => .raw
  | .existence .. => .existence
  | .loose form .. => form
  | _ => .column

def ConditionBody.rawText : ConditionBody → String
  | .raw text _ => text
  | .loose _ text .. => text
  | _ => ""

def ConditionBody.rawArguments : ConditionBody → List Value
  | .raw _ arguments => arguments
  | .loose _ _ rawArguments .. => rawArguments
  | _ => []

def rangeOperator (negated : Bool) : String :=
  if negated then "NOT BETWEEN" else "BETWEEN"

def membershipOperator (negated : Bool) : String :=
  if negated then "NOT IN" else "IN"

def existenceOperator (negated : Bool) : String :=
  if negated then "NOT EXISTS" else "EXISTS"

def ConditionBody.operator : ConditionBody → String
  | .raw .. => "="
  | .comparison _ operator _ => operator
  | .range _ negated .. => rangeOperator negated
  | .membership _ negated _ => membershipOperator negated
  | .existence negated _ => existenceOperator negated
  | .loose _ _ _ _ operator _ => operator

def ConditionBody.column : ConditionBody → String
  | .raw .. | .existence .. => ""
  | .comparison column .. => column
  | .range column .. => column
  | .membership column .. => column
  | .loose _ _ _ column _ _ => column

def ConditionBody.operands : ConditionBody → List Value
  | .raw .. => []
  | .comparison _ _ operand => [.expression operand]
  | .range _ _ low high => [.expression low, .expression high]
  | .membership _ _ operands => operands.map Value.expression
  | .existence _ subquery => [.expression (.subquery subquery)]
  | .loose _ _ _ _ _ operands => operands

def JoinTarget.key : JoinTarget → Option String
  | .table name => some name
  | .derived subquery => subquery.derivedName

def Value.isNull : Value → Bool
  | .null => true
  | _ => false

def Value.asText? : Value → Option String
  | .text value => some value
  | _ => none

def Value.asExpression? : Value → Option Expression
  | .expression inner => some inner
  | _ => none

def Value.asSubquery? : Value → Option Subquery
  | .expression (.subquery subquery) => some subquery
  | _ => none

/-- Whether a value counts as true where a condition is asked of it. -/
def Value.isTrue : Value → Bool
  | .null => false
  | .truth value => value
  | .integer value => value != 0
  | .decimal value => value != 0.0
  | .text value => !value.isEmpty
  | .octets value => !value.isEmpty
  | .list items | .tuple items | .set _ items => !items.isEmpty
  | .mapping entries => !entries.isEmpty
  | _ => true

/-- Truth values count as the integers zero and one. -/
def Value.asInteger? : Value → Option Int
  | .integer value => some value
  | .truth value => some (if value then 1 else 0)
  | _ => none

def FieldType.kindName (type : FieldType) : String :=
  match type.reduced with
  | .record _ => "ModelMetaclass"
  | .anything => "_AnyMeta"
  | .listOf _ => "GenericAlias"
  | .choice _ => "_LiteralGenericAlias"
  | .union .named _ => "_UnionGenericAlias"
  | .union .barred branches =>
    if FieldType.areBarred branches then "UnionType" else "_UnionGenericAlias"
  | _ => "type"

def Expression.kindName : Expression → String
  | .base => "Expression"
  | .null => "NullExpression"
  | .literal _ => "LiteralExpression"
  | .function .. => "FunctionExpression"
  | .timestamp .. | .patterned .. => "TimestampExpression"
  | .condition _ => "ConditionExpression"
  | .order _ => "OrderExpression"
  | .subquery _ => "SubQuery"

def Value.kindName : Value → String
  | .null => "NoneType"
  | .truth _ => "bool"
  | .integer _ => "int"
  | .decimal _ => "float"
  | .text _ => "str"
  | .octets _ => "bytes"
  | .list _ => "list"
  | .tuple _ => "tuple"
  | .set frozen _ => if frozen then "frozenset" else "set"
  | .mapping _ => "dict"
  | .record name _ => name
  | .holder _ => "Value"
  | .declared type => type.kindName
  | .supplier _ => "function"
  | .connection _ => "Connection"
  | .expression inner => inner.kindName
  | .thing kind .. => kind
  | .shared _ => "list"

end Querywright
