import Querywright.Expression
import Querywright.Number.Shortest
import Querywright.Text.Quoted

/-! The text of a value in messages. `shown` is the form inside a collection, where text is
quoted; `plain` differs from it at the top only, where text stands as it is and an expression
lists its parts without a name in front. -/
namespace Querywright

/-- Positional notation reaches from four zeros after the point to sixteen digits before it. -/
def shownDigits (digits : List Char) (position : Int) : List Char :=
  if -4 < position && position ≤ 0 then
    ['0', '.'] ++ List.replicate (-position).toNat '0' ++ digits
  else if 0 < position && position ≤ 16 then
    let whole := digits.take position.toNat
    let fraction := digits.drop position.toNat
    whole ++ List.replicate (position.toNat - whole.length) '0' ++ ['.'] ++
      (if fraction.isEmpty then ['0'] else fraction)
  else
    let power := position - 1
    let size := Nat.toDigits 10 power.natAbs
    let mantissa := match digits with
      | first :: second :: rest => first :: '.' :: second :: rest
      | few => few
    mantissa ++ ['e', if power < 0 then '-' else '+'] ++
      List.replicate (2 - size.length) '0' ++ size

def shownFloat (value : Float) : String :=
  match Number.reading value with
  | .undefined => "nan"
  | .infinite negative => if negative then "-inf" else "inf"
  | .finite negative size =>
    let (digits, position) := Number.shortestDigits size
    let text := String.ofList (shownDigits digits position)
    if negative then "-" ++ text else text

def inBrackets (opening closing : String) (items : List String) : String :=
  opening ++ ", ".intercalate items ++ closing

/-- A row of one item keeps a comma behind it. -/
def shownTuple : List String → String
  | [item] => "(" ++ item ++ ",)"
  | items => inBrackets "(" ")" items

def shownSet (frozen : Bool) (items : List String) : String :=
  match frozen, items with
  | false, [] => "set()"
  | true, [] => "frozenset()"
  | false, items => inBrackets "\x7b" "\x7d" items
  | true, items => inBrackets "frozenset(\x7b" "\x7d)" items

def shownTruth (value : Bool) : String :=
  if value then "True" else "False"

def shownTextOption : Option String → String
  | none => "None"
  | some text => Text.quoted text

namespace FieldType

/-- Alternatives behind their common name; a lone one beside the absent value is optional. -/
def shownNamed : List String → String
  | ["NoneType", other] | [other, "NoneType"] => "typing.Optional[" ++ other ++ "]"
  | names => inBrackets "typing.Union[" "]" names

mutual

def innerName : FieldType → String
  | .integer => "int"
  | .text => "str"
  | .decimal => "float"
  | .truth => "bool"
  | .octets => "bytes"
  | .mapping => "dict"
  | .sequence => "list"
  | .absent => "NoneType"
  | .choice options => inBrackets "typing.Literal[" "]" (options.map Text.quoted)
  | .anything => "typing.Any"
  | .record name => "__main__." ++ name
  | .listOf element => "list[" ++ element.innerName ++ "]"
  | .rowOf element => "tuple[" ++ element.innerName ++ ", ...]"
  | .union .barred branches =>
    if areBarred branches
    then " | ".intercalate (alternativeNames "None" branches).eraseDups
    else shownNamed (alternativeNames "NoneType" branches).eraseDups
  | .union .named branches => shownNamed (alternativeNames "NoneType" branches).eraseDups

def alternativeNames (absent : String) : List FieldType → List String
  | [] => []
  | .union _ branches :: rest => alternativeNames absent branches ++ alternativeNames absent rest
  | .absent :: rest => absent :: alternativeNames absent rest
  | type :: rest => type.innerName :: alternativeNames absent rest

end

def shown (type : FieldType) : String :=
  match type.reduced with
  | .anything | .choice _ | .listOf _ | .union .. => type.reduced.innerName
  | plain => "<class '" ++ plain.innerName ++ "'>"

end FieldType

/-- The settings and results of a builder that has rendered a statement and sent none. -/
def restingParts (pageLimit : Int) (query arguments : String) : List String :=
  ["page_limit=" ++ toString pageLimit, "lock_method='WRITE'", "tracing=False",
    "last_query=" ++ query, "last_params=" ++ arguments, "count=0", "last_insert_id=None",
    "last_insert_ids=[]", "total_count=0", "total_page=0", "traces=[]"]

mutual

def Value.shown : Value → String
  | .null => "None"
  | .truth value => shownTruth value
  | .integer value => toString value
  | .decimal value => shownFloat value
  | .text value => Text.quoted value
  | .octets value => Text.quotedOctets value
  | .list items => inBrackets "[" "]" (Value.shownAll items)
  | .tuple items => shownTuple (Value.shownAll items)
  | .set frozen items => shownSet frozen (Value.shownAll items)
  | .mapping entries => inBrackets "\x7b" "\x7d" (Value.shownEntries entries)
  | .record name fields => name ++ inBrackets "(" ")" (Value.shownFields fields)
  | .holder content => "Value(" ++ content.shown ++ ")"
  | .declared type => type.shown
  | .supplier number => "<supplier object at 0x" ++ toString number ++ ">"
  | .connection number => "<connection object at 0x" ++ toString number ++ ">"
  | .expression expression => expression.shown
  | .thing _ _ _ full _ => full
  | .shared _ => "..."

def Value.shownAll : List Value → List String
  | [] => []
  | value :: rest => value.shown :: Value.shownAll rest

def Value.shownEntries : List (Value × Value) → List String
  | [] => []
  | (key, value) :: rest => (key.shown ++ ": " ++ value.shown) :: Value.shownEntries rest

def Value.shownFields : List (String × Value) → List String
  | [] => []
  | (name, value) :: rest => (name ++ "=" ++ value.shown) :: Value.shownFields rest

def Expression.shown : Expression → String
  | .subquery subquery => "SubQuery" ++ inBrackets "(" ")" subquery.parts
  | .base => "Expression()"
  | .null => "NullExpression()"
  | .literal value => "LiteralExpression(value=" ++ value.shown ++ ")"
  | .function template arguments =>
    "FunctionExpression(template=" ++ Text.quoted template ++ ", arguments=" ++
      shownTuple (Value.shownAll arguments) ++ ")"
  | .timestamp part value =>
    "TimestampExpression(template='" ++ part.function ++
      "(FROM_UNIXTIME(\x7bcolumn\x7d)) = ?', value=" ++ value.shown ++ ")"
  | .patterned pattern value =>
    "TimestampExpression(template=" ++ Text.quoted pattern ++ ", value=" ++ value.shown ++ ")"
  | .condition condition => "ConditionExpression" ++ inBrackets "(" ")" condition.parts
  | .order order => "OrderExpression" ++ inBrackets "(" ")" order.parts

def Expression.shownAll : List Expression → List String
  | [] => []
  | expression :: rest => expression.shown :: Expression.shownAll rest

def ConditionBody.parts : ConditionBody → List String
  | .raw text arguments =>
    ["kind='raw'", "raw=" ++ Text.quoted text,
      "raw_values=" ++ shownTuple (Value.shownAll arguments),
      "column=''", "operator='='", "operands=()"]
  | .comparison column operator operand =>
    ["kind='column'", "raw=''", "raw_values=()", "column=" ++ Text.quoted column,
      "operator=" ++ Text.quoted operator, "operands=" ++ shownTuple [operand.shown]]
  | .range column negated low high =>
    ["kind='column'", "raw=''", "raw_values=()", "column=" ++ Text.quoted column,
      "operator=" ++ Text.quoted (rangeOperator negated),
      "operands=" ++ shownTuple [low.shown, high.shown]]
  | .membership column negated operands =>
    ["kind='column'", "raw=''", "raw_values=()", "column=" ++ Text.quoted column,
      "operator=" ++ Text.quoted (membershipOperator negated),
      "operands=" ++ shownTuple (Expression.shownAll operands)]
  | .existence negated subquery =>
    ["kind='exists'", "raw=''", "raw_values=()", "column=''",
      "operator=" ++ Text.quoted (existenceOperator negated),
      "operands=" ++ shownTuple ["SubQuery" ++ inBrackets "(" ")" subquery.parts]]
  | .loose form text rawArguments column operator operands =>
    ["kind=" ++ Text.quoted form.name, "raw=" ++ Text.quoted text,
      "raw_values=" ++ shownTuple (Value.shownAll rawArguments),
      "column=" ++ Text.quoted column, "operator=" ++ Text.quoted operator,
      "operands=" ++ shownTuple (Value.shownAll operands)]

def Condition.parts : Condition → List String
  | ⟨connector, body⟩ => ("connector=" ++ Text.quoted connector.text) :: body.parts

def Condition.shownAll : List Condition → List String
  | [] => []
  | condition :: rest =>
    ("ConditionExpression" ++ inBrackets "(" ")" condition.parts) :: Condition.shownAll rest

def Order.parts : Order → List String
  | ⟨column, direction, ranking⟩ =>
    ["column=" ++ Text.quoted column, "direction=" ++ shownTextOption direction,
      "field_values=" ++ shownTuple (Value.shownAll ranking)]

def Order.shownAll : List Order → List String
  | [] => []
  | order :: rest =>
    ("OrderExpression" ++ inBrackets "(" ")" order.parts) :: Order.shownAll rest

def JoinTarget.shown : JoinTarget → String
  | .table name => Text.quoted name
  | .derived subquery => "SubQuery" ++ inBrackets "(" ")" subquery.parts

def Join.parts : Join → List String
  | ⟨direction, target, condition, conditions⟩ =>
    ["direction=" ++ Text.quoted direction.text, "target=" ++ target.shown,
      "condition=" ++ Text.quoted condition,
      "conditions=" ++ inBrackets "[" "]" (Condition.shownAll conditions)]

def Join.shownAll : List Join → List String
  | [] => []
  | join :: rest =>
    (shownTextOption join.target.key ++ ": JoinExpression" ++ inBrackets "(" ")" join.parts) ::
      Join.shownAll rest

def Clauses.parts : Clauses → List String
  | ⟨tables, conditions, groupConditions, joins, orders, groups, limit, options, upsertColumns,
      insertIdColumn, totalRequested⟩ =>
    ["tables=" ++ inBrackets "[" "]" (Value.shownAll tables),
      "where_conditions=" ++ inBrackets "[" "]" (Condition.shownAll conditions),
      "having_conditions=" ++ inBrackets "[" "]" (Condition.shownAll groupConditions),
      "joins=" ++ inBrackets "\x7b" "\x7d" (Join.shownAll joins),
      "orders=" ++ inBrackets "[" "]" (Order.shownAll orders),
      "group_by_columns=" ++ inBrackets "[" "]" (Value.shownAll groups),
      "limit_value=" ++ shownTuple (Value.shownAll limit),
      "query_options=" ++ inBrackets "[" "]" (options.map Text.quoted),
      "on_duplicate_columns=" ++ inBrackets "[" "]" (Value.shownAll upsertColumns),
      "last_insert_id_column=" ++ (match insertIdColumn with
        | none => "None"
        | some column => column.shown),
      "total_count_requested=" ++ shownTruth totalRequested]

def Subquery.parts : Subquery → List String
  | ⟨clauses, pageLimit, derivedName, recorded⟩ =>
    let (query, arguments, statement) := match recorded with
      | none => ("''", "()", "None")
      | some (text, values) =>
        (Text.quoted text, shownTuple (Value.shownAll values), Text.quoted text)
    ["builder=Builder" ++ inBrackets "(" ")" (clauses.parts ++
        restingParts pageLimit query arguments),
      "alias=" ++ shownTextOption derivedName, "statement=" ++ statement, "arguments=" ++ arguments]

end

def Subquery.builderParts (subquery : Subquery) : List String :=
  let (text, values) := subquery.recorded.getD ("", [])
  subquery.clauses.parts ++
    restingParts subquery.pageLimit (Text.quoted text) (shownTuple (Value.shownAll values))

def Expression.plain : Expression → String
  | .base | .null => ""
  | .literal value => "value=" ++ value.shown
  | .function template arguments =>
    "template=" ++ Text.quoted template ++ " arguments=" ++
      shownTuple (Value.shownAll arguments)
  | .timestamp part value =>
    "template='" ++ part.function ++ "(FROM_UNIXTIME(\x7bcolumn\x7d)) = ?' value=" ++ value.shown
  | .patterned pattern value =>
    "template=" ++ Text.quoted pattern ++ " value=" ++ value.shown
  | .condition inner => " ".intercalate inner.parts
  | .order inner => " ".intercalate inner.parts
  | .subquery inner => " ".intercalate inner.parts

def Value.plain : Value → String
  | .text value => value
  | .record _ fields => " ".intercalate (Value.shownFields fields)
  | .expression inner => inner.plain
  | .thing _ _ _ _ short => short
  | value => value.shown

end Querywright
