import Querywright.Clauses

/-! Whole statements from clauses: selects, the count of the rows that a select would give,
inserts and replacements, updates, deletes. Each is a fragment, so text and values go together. -/
namespace Querywright

def columnFragment (column : Value) : Except Error Fragment :=
  match column with
  | .expression inner => inner.fragment
  | .text name =>
    if Text.isBlankText name then .error (.invalidColumn column.shown)
    else .ok (Fragment.plain name)
  | _ => .error (.invalidColumn column.shown)

def columnsFragment (columns : List Value) : Except Error Fragment := do
  match columns with
  | [] => return Fragment.plain "*"
  | present => return Fragment.listed (← present.mapM columnFragment)

/-- Options that change which rows a derived table holds. -/
def countingOptions : List String :=
  ["DISTINCT", "DISTINCTROW", "STRAIGHT_JOIN"]

def isDistinct (options : List String) : Bool :=
  options.contains "DISTINCT" || options.contains "DISTINCTROW"

abbrev Payload := List (String × Value)

def payloadKey (key : Value) : Except Error String :=
  match key with
  | .text name =>
    if Text.isBlankText name then .error (.invalidColumn key.shown) else .ok name
  | _ => .error (.invalidColumn key.shown)

def payloadOf (data : Value) : Except Error Payload :=
  match data with
  | .mapping [] => .error .noColumnToWrite
  | .mapping entries => entries.mapM fun (key, value) => do return (← payloadKey key, value)
  | _ => .error (.payloadNotMapping data.kindName)

def Payload.columns (payload : Payload) : List String :=
  payload.map (·.1)

def Payload.value (payload : Payload) (column : String) : Value :=
  (payload.lookup column).getD .null

def sameColumns (left right : List String) : Bool :=
  left.length == right.length && left.all right.contains

def rowFragment (columns : List String) (row : Payload) : Except Error Fragment := do
  if !sameColumns row.columns columns then .error .unevenRows
  else
    let values ← columns.mapM fun column => (row.value column).asExpression.fragment
    return Fragment.surrounded "(" ")" (Fragment.listed values)

def assignmentFragment (assignment : String × Value) : Except Error Fragment := do
  let value ← assignment.2.asExpression.fragment
  return Fragment.surrounded (assignment.1 ++ " = ") "" value

/-- Columns from anything that can be gone through; what counts as false stands for all. -/
def looseColumnsFragment (columns : Value) : Except Error Fragment := do
  if columns.isTrue then return Fragment.listed (← (← columns.items).mapM columnFragment)
  else return Fragment.plain "*"

namespace Clauses

/-- A select of columns that are written out once it is known that there is a table. -/
def selectWith (columns : Except Error Fragment) (clauses : Clauses) : Except Error Fragment := do
  clauses.requireTable false
  let columns ← columns
  let sources ← clauses.sources
  return assembleSelect clauses.leading columns sources clauses.selectEnding

def select (columns : List Value) (clauses : Clauses) : Except Error Fragment :=
  clauses.selectWith (columnsFragment columns)

/-- The select whose rows are counted: no ordering, limit or locking. Unless equal rows count
once, the columns do not matter and a constant stands for them. -/
def selectCountingWith (columns : Except Error Fragment) (clauses : Clauses) :
    Except Error Fragment := do
  clauses.requireTable false
  let options := clauses.leading.filter countingOptions.contains
  let columns ← if isDistinct options then columns else columnsFragment [.text "1"]
  let sources ← clauses.sources
  return assembleSelect options columns sources []

def selectCounting (columns : List Value) (clauses : Clauses) : Except Error Fragment :=
  clauses.selectCountingWith (columnsFragment columns)

def countRows (columns : List Value) (clauses : Clauses) : Except Error Fragment :=
  (clauses.selectCounting columns).map
    (Fragment.surrounded "SELECT COUNT(*) FROM (" ") AS counted")

def tableTexts (clauses : Clauses) : List String :=
  clauses.tables.map Value.plain

def firstTable (clauses : Clauses) : String :=
  clauses.tableTexts.headD ""

def hasUpsert (clauses : Clauses) : Bool :=
  !clauses.upsertColumns.isEmpty || (clauses.insertIdColumn.map Value.isTrue).getD false

def upsertText (clauses : Clauses) : String :=
  let kept := match clauses.insertIdColumn with
    | none => []
    | some column =>
      if column.isTrue then [column.plain ++ " = LAST_INSERT_ID(" ++ column.plain ++ ")"] else []
  let renewed := clauses.upsertColumns.map fun column =>
    column.plain ++ " = VALUES(" ++ column.plain ++ ")"
  ", ".intercalate (kept ++ renewed)

/-- Inserts and replacements; the first row decides the columns and their order. -/
def insert (keyword : String) (rows : List Value) (clauses : Clauses) :
    Except Error Fragment := do
  clauses.requireTable true
  let payloads ← rows.mapM payloadOf
  match payloads with
  | [] => .error (.misuse .rowTooShort)
  | first :: _ =>
    let columns := Payload.columns first
    let tuples ← payloads.mapM (rowFragment columns)
    let upsert := if keyword == "INSERT" && clauses.hasUpsert
      then [Fragment.plain ("ON DUPLICATE KEY UPDATE " ++ clauses.upsertText)] else []
    return Fragment.spaced (Fragment.plain keyword :: clauses.leading.map Fragment.plain ++
      [Fragment.plain "INTO", Fragment.plain clauses.firstTable,
        Fragment.plain ("(" ++ ", ".intercalate columns ++ ")"), Fragment.plain "VALUES",
        Fragment.listed tuples] ++ upsert)

def update (data : Value) (clauses : Clauses) : Except Error Fragment := do
  clauses.requireTable true
  let payload ← payloadOf data
  let joins ← Join.fragments clauses.joins
  let assignments ← payload.mapM assignmentFragment
  let conditions ← Condition.fragments true clauses.conditions
  return Fragment.spaced (Fragment.plain "UPDATE" :: clauses.leading.map Fragment.plain ++
    [Fragment.plain clauses.firstTable] ++ joins ++
    [Fragment.surrounded "SET " "" (Fragment.listed assignments)] ++
    ledBy "WHERE" conditions ++ clauses.window)

/-- Several tables or joins take the form that names the tables twice and has no window. -/
def delete (clauses : Clauses) : Except Error Fragment := do
  clauses.requireTable true
  let names := ", ".intercalate clauses.tableTexts
  let options := clauses.leading.map Fragment.plain
  if 1 < clauses.tables.length || !clauses.joins.isEmpty then
    let joins ← Join.fragments clauses.joins
    let conditions ← Condition.fragments true clauses.conditions
    return Fragment.spaced (Fragment.plain "DELETE" :: options ++
      [Fragment.plain names, Fragment.plain "FROM", Fragment.plain names] ++ joins ++
      ledBy "WHERE" conditions)
  else
    let conditions ← Condition.fragments true clauses.conditions
    return Fragment.spaced (Fragment.plain "DELETE" :: options ++
      [Fragment.plain "FROM", Fragment.plain names] ++ ledBy "WHERE" conditions ++
      clauses.window)

end Clauses
end Querywright
