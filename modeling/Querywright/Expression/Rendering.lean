import Querywright.Fragment
import Querywright.Pattern
import Querywright.Text.Blank

/-! The SQL text and the bound values of every expression. A sub-query renders its clauses as a
select of all columns and checks that select before it is embedded. -/
namespace Querywright

def TimePart.render (part : TimePart) (column : String) : String :=
  part.function ++ "(FROM_UNIXTIME(" ++ column ++ ")) = ?"

/-- How an expression writes itself around a column, if it is one that does. -/
def Expression.around? : Expression → Option (String → Except Error String)
  | .timestamp part _ => some fun column => .ok (part.render column)
  | .patterned pattern _ => some (Pattern.fill pattern)
  | _ => none

def Expression.isSubquery : Expression → Bool
  | .subquery _ => true
  | _ => false

def loneAround? : List Expression → Option (String → Except Error String)
  | [operand] => operand.around?
  | _ => none

def isRangeOperator (operator : String) : Bool :=
  operator == "BETWEEN" || operator == "NOT BETWEEN"

def isMembershipOperator (operator : String) : Bool :=
  operator == "IN" || operator == "NOT IN"

def isLoneSubquery : List Expression → Bool
  | [operand] => operand.isSubquery
  | _ => false

/-- The expression that a caller's value stands for: itself, `NULL`, or a bound literal. -/
def Value.asExpression : Value → Expression
  | .expression inner => inner
  | .null => .null
  | value => .literal value

def Order.text (order : Order) : String :=
  match order.ranking, order.direction with
  | [], none => order.column
  | [], some direction =>
    if direction.isEmpty then order.column else order.column ++ " " ++ direction
  | ranking, direction =>
    let shown := (direction.filter (!·.isEmpty)).getD "ASC"
    "FIELD(" ++ order.column ++ ", " ++ Placeholder.row ranking.length ++ ") " ++ shown

def Order.fragment (order : Order) : Fragment :=
  ⟨order.text, order.ranking⟩

/-- Every condition but the first is led by its connector. -/
def connected (texts : List (Connector × String)) : List String :=
  match texts with
  | [] => []
  | (_, first) :: rest => first :: rest.map fun (connector, text) => connector.text ++ " " ++ text

def ledBy (keyword : String) (fragments : List Fragment) : List Fragment :=
  match fragments with
  | [] => []
  | present => [Fragment.surrounded (keyword ++ " ") "" (Fragment.spaced present)]

def groupFragments (groups : List Value) : Except Error (List Fragment) := do
  if groups.isEmpty then return []
  let names ← groups.mapM fun
    | .text name => .ok name
    | other => .error (.misuse (.notText other.kindName))
  return [Fragment.plain ("GROUP BY " ++ ", ".intercalate names)]

def leadingOptions : List String :=
  ["ALL", "DISTINCT", "DISTINCTROW", "HIGH_PRIORITY", "STRAIGHT_JOIN", "SQL_SMALL_RESULT",
    "SQL_BIG_RESULT", "SQL_BUFFER_RESULT", "SQL_CACHE", "SQL_NO_CACHE", "SQL_CALC_FOUND_ROWS",
    "LOW_PRIORITY", "QUICK", "IGNORE", "DELAYED"]

def trailingOptions : List String :=
  ["FOR UPDATE", "LOCK IN SHARE MODE"]

def Clauses.leading (clauses : Clauses) : List String :=
  clauses.options.filter leadingOptions.contains

def Clauses.trailing (clauses : Clauses) : List String :=
  clauses.options.filter trailingOptions.contains

def orderFragments (orders : List Order) : List Fragment :=
  match orders with
  | [] => []
  | present =>
    [Fragment.surrounded "ORDER BY " "" (Fragment.listed (present.map Order.fragment))]

def limitFragments (limit : List Value) : List Fragment :=
  match limit with
  | [] => []
  | present => [Fragment.plain ("LIMIT " ++ ", ".intercalate (present.map Value.plain))]

/-- Ordering and limit, the end that updates and deletes share with selects. -/
def Clauses.window (clauses : Clauses) : List Fragment :=
  orderFragments clauses.orders ++ limitFragments clauses.limit

def isTableName (table : Value) : Bool :=
  match table with
  | .text name => !Text.isBlankText name
  | _ => false

def isDerivedTable (table : Value) : Bool :=
  match table with
  | .expression (.subquery subquery) => (subquery.derivedName.getD "") != ""
  | _ => false

/-- A statement needs a table; only one that reads may use an aliased sub-query for it. -/
def Clauses.requireTable (clauses : Clauses) (writes : Bool) : Except Error Unit :=
  if clauses.tables.isEmpty then .error .noTable
  else match clauses.tables.find? fun table =>
      !(isTableName table || (!writes && isDerivedTable table)) with
    | none => .ok ()
    | some table => .error (.invalidTable table.shown)

def assembleSelect (options : List String) (columns sources : Fragment)
    (ending : List Fragment) : Fragment :=
  Fragment.spaced (Fragment.plain "SELECT" :: options.map Fragment.plain ++
    columns :: sources :: ending)

def Clauses.selectEnding (clauses : Clauses) : List Fragment :=
  clauses.window ++ clauses.trailing.map Fragment.plain

/-- What stands behind an operator: a range of two, a list in brackets, or one operand. -/
def Value.operandsText (operator : String) (operands : List Value)
    (texts : Except Error (List String)) (first : Except Error String) : Except Error String :=
  if isRangeOperator operator then
    if operands.length == 2 then texts.map (" AND ".intercalate ·)
    else .error (.misuse (.notPair operands.length))
  else if isMembershipOperator operator then do
    let row := ", ".intercalate (← texts)
    return if isLoneSubquery (operands.filterMap Value.asExpression?) && operands.length == 1
      then row else "(" ++ row ++ ")"
  else first

mutual

def Expression.values : Expression → Except Error (List Value)
  | .base | .null => .ok []
  | .literal value => .ok [value]
  | .function _ arguments => .ok arguments
  | .timestamp _ value | .patterned _ value => .ok [value]
  | .condition condition => condition.values
  | .order order => .ok order.ranking
  | .subquery subquery => subquery.rendered.map (·.arguments)
termination_by structural item => item

def Expression.text : Expression → Except Error String
  | .base => .error .baseExpression
  | .null => .ok "NULL"
  | .literal _ => .ok "?"
  | .function template _ => if template.isEmpty then .error .emptyTemplate else .ok template
  | .timestamp .. | .patterned .. => .error .timestampAlone
  | .condition condition => condition.text
  | .order order => .ok order.text
  | .subquery subquery => subquery.rendered.map fun fragment => "(" ++ fragment.text ++ ")"
termination_by structural item => item

def Expression.valuesOfAll : List Expression → Except Error (List Value)
  | [] => .ok []
  | expression :: rest => do
    let first ← expression.values
    let others ← Expression.valuesOfAll rest
    return first ++ others
termination_by structural item => item

def Expression.textsOfAll : List Expression → Except Error (List String)
  | [] => .ok []
  | expression :: rest => do
    let first ← expression.text
    let others ← Expression.textsOfAll rest
    return first :: others
termination_by structural item => item

def Value.valuesOfOperands : List Value → Except Error (List Value)
  | [] => .ok []
  | .expression inner :: rest => do
    let first ← inner.values
    let others ← Value.valuesOfOperands rest
    return first ++ others
  | .mapping _ :: _ => .error (.misuse (.notJoinable "tuple" "builtin_function_or_method"))
  | _ :: _ => .error (.misuse (.noSuchOperation "values"))
termination_by structural item => item

def Value.operandText : Value → Except Error String
  | .expression inner => inner.text
  | _ => .error (.misuse (.noSuchOperation "sql"))
termination_by structural item => item

def Value.operandTexts : List Value → Except Error (List String)
  | [] => .ok []
  | operand :: rest => do
    let first ← operand.operandText
    let others ← Value.operandTexts rest
    return first :: others
termination_by structural item => item

def Value.firstOperandText : List Value → Except Error String
  | [] => .error (.misuse .rowTooShort)
  | operand :: _ => operand.operandText
termination_by structural item => item

def ConditionBody.values : ConditionBody → Except Error (List Value)
  | .raw _ arguments => .ok arguments
  | .comparison _ _ operand => operand.values
  | .range _ _ low high => do
    let first ← low.values
    let second ← high.values
    return first ++ second
  | .membership _ _ operands => Expression.valuesOfAll operands
  | .existence _ subquery => subquery.rendered.map (·.arguments)
  | .loose form _ rawArguments _ _ operands =>
    if form == .raw then .ok rawArguments else Value.valuesOfOperands operands
termination_by structural item => item

/-- A lone timestamp comparison writes itself around the column. -/
def ConditionBody.text : ConditionBody → Except Error String
  | .raw text _ => .ok text
  | .comparison column operator operand =>
    match operand.around? with
    | some write => write column
    | none => do return column ++ " " ++ operator ++ " " ++ (← operand.text)
  | .range column negated low high => do
    let first ← low.text
    let second ← high.text
    return column ++ " " ++ rangeOperator negated ++ " " ++ first ++ " AND " ++ second
  | .membership column negated operands =>
    match loneAround? operands with
    | some write => write column
    | none => do
      let texts ← Expression.textsOfAll operands
      let row := ", ".intercalate texts
      return column ++ " " ++ membershipOperator negated ++ " " ++
        (if isLoneSubquery operands then row else "(" ++ row ++ ")")
  | .existence negated subquery =>
    subquery.rendered.map fun fragment =>
      existenceOperator negated ++ " (" ++ fragment.text ++ ")"
  | .loose .raw text .. => .ok text
  | .loose .existence _ _ _ operator operands => do
    return operator ++ " " ++ (← Value.firstOperandText operands)
  | .loose .column _ _ column operator operands =>
    match loneAround? (operands.filterMap Value.asExpression?), operands.length with
    | some write, 1 => write column
    | _, _ => do
      let written ← Value.operandsText operator operands (Value.operandTexts operands)
        (Value.firstOperandText operands)
      return column ++ " " ++ operator ++ " " ++ written
termination_by structural item => item

def Condition.values : Condition → Except Error (List Value)
  | ⟨_, body⟩ => body.values
termination_by structural item => item

def Condition.text : Condition → Except Error String
  | ⟨_, body⟩ => body.text
termination_by structural item => item

def Condition.valuesOfAll : List Condition → Except Error (List Value)
  | [] => .ok []
  | condition :: rest => do
    let first ← condition.values
    let others ← Condition.valuesOfAll rest
    return first ++ others
termination_by structural item => item

def Condition.textsOfAll : List Condition → Except Error (List (Connector × String))
  | [] => .ok []
  | condition :: rest => do
    let first ← condition.text
    let others ← Condition.textsOfAll rest
    return (condition.connector, first) :: others
termination_by structural item => item

/-- Each condition as a fragment of its own, all but the first led by the connector. -/
def Condition.fragments (isFirst : Bool) : List Condition → Except Error (List Fragment)
  | [] => .ok []
  | condition :: rest => do
    let fragment ← Fragment.bind condition.values condition.text
    let others ← Condition.fragments false rest
    let led := if isFirst then fragment
      else Fragment.surrounded (condition.connector.text ++ " ") "" fragment
    return led :: others
termination_by structural conditions => conditions

def JoinTarget.values : JoinTarget → Except Error (List Value)
  | .table _ => .ok []
  | .derived subquery => subquery.rendered.map (·.arguments)
termination_by structural item => item

def JoinTarget.text : JoinTarget → Except Error String
  | .table name => .ok name
  | .derived subquery =>
    subquery.rendered.map fun fragment =>
      "(" ++ fragment.text ++ ") AS " ++ subquery.derivedName.getD "None"
termination_by structural item => item

def Join.values : Join → Except Error (List Value)
  | ⟨_, target, _, conditions⟩ => do
    let first ← target.values
    let others ← Condition.valuesOfAll conditions
    return first ++ others
termination_by structural item => item

/-- What stands between the brackets of the join, empty when nothing is asked of it. -/
def Join.matching : Join → Except Error String
  | ⟨_, _, condition, conditions⟩ => do
    let texts ← Condition.textsOfAll conditions
    return " ".intercalate
      (if condition.isEmpty then connected texts
       else connected ((Connector.both, condition) :: texts))

def Join.text : Join → Except Error String
  | ⟨direction, target, condition, conditions⟩ => do
    let joined ← target.text
    let texts ← Condition.textsOfAll conditions
    let matching := " ".intercalate
      (if condition.isEmpty then connected texts
       else connected ((Connector.both, condition) :: texts))
    return direction.text ++ " JOIN " ++ joined ++
      (if matching.isEmpty then "" else " ON (" ++ matching ++ ")")
termination_by structural item => item

def Join.fragments : List Join → Except Error (List Fragment)
  | [] => .ok []
  | join :: rest => do
    let fragment ← Fragment.bind join.values join.text
    let others ← Join.fragments rest
    return fragment :: others
termination_by structural item => item

def Value.tableFragment : Value → Except Error Fragment
  | .text name => .ok (Fragment.plain name)
  | .expression (.subquery subquery) =>
    subquery.rendered.map (Fragment.surrounded "(" (") AS " ++ subquery.derivedName.getD "None"))
  | other => .error (.invalidTable other.shown)
termination_by structural item => item

def Value.tableFragments : List Value → Except Error (List Fragment)
  | [] => .ok []
  | table :: rest => do
    let fragment ← table.tableFragment
    let others ← Value.tableFragments rest
    return fragment :: others
termination_by structural item => item

def Clauses.sources : Clauses → Except Error Fragment
  | ⟨tables, conditions, groupConditions, joins, _, groups, _, _, _, _, _⟩ => do
    let tables ← Value.tableFragments tables
    let joins ← Join.fragments joins
    let conditions ← Condition.fragments true conditions
    let groups ← groupFragments groups
    let groupConditions ← Condition.fragments true groupConditions
    return Fragment.spaced (Fragment.surrounded "FROM " "" (Fragment.listed tables) ::
      joins ++ ledBy "WHERE" conditions ++ groups ++ ledBy "HAVING" groupConditions)
termination_by structural item => item

def Subquery.rendered : Subquery → Except Error Fragment
  | ⟨_, _, _, some (text, arguments)⟩ => .ok ⟨text, arguments⟩
  | ⟨clauses, _, _, none⟩ => do
    clauses.requireTable false
    let sources ← clauses.sources
    (assembleSelect clauses.leading (Fragment.plain "*") sources clauses.selectEnding).checked
termination_by structural item => item

end

def Expression.fragment (expression : Expression) : Except Error Fragment :=
  Fragment.bind expression.values expression.text

def Condition.fragment (condition : Condition) : Except Error Fragment :=
  Fragment.bind condition.values condition.text

end Querywright
