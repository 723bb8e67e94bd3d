import Querywright.Dialect
import Querywright.Record.Validation

/-! What a statement returned, every part brought into its declared shape. -/
namespace Querywright

structure Report where
  columns : List String := []
  rows : List (List Value) := []
  rowcount : Int := -1
  lastrowid : Option Int := none
  insertIds : List Int := []

namespace Report

def textsOf : Value → List String
  | .list items => items.filterMap Value.asText?
  | _ => []

/-- An unknown count is reported as minus one. -/
def reportedCount : Value → Value
  | .null => .integer (-1)
  | count => count

/-- An id that counts as false is no id. -/
def reportedId (lastrowid : Value) : Value :=
  if lastrowid.isTrue then lastrowid else .null

def fitted (answer : Answer) (insertIds : List Int) : Except Flaws Report := do
  let columns := fitNamed "columns" (.listOf .text) (.list answer.columns)
  let count := fitNamed "rowcount" .integer (reportedCount answer.rowcount)
  let id := fitNamed "lastrowid" (.optional .integer) (reportedId answer.lastrowid)
  let (columns, count, id) ← besides columns (besides count id)
  return { columns := textsOf columns
           rows := if answer.columns.isEmpty then [] else answer.rows
           rowcount := (count.asInteger?).getD (-1)
           lastrowid := id.asInteger?
           insertIds := insertIds }

def recordType : RecordType :=
  { name := "ExecutionResult"
    fields :=
      [{ name := "columns", type := .rowOf .text, fallback := some (.tuple []) },
        { name := "rows", type := .listOf (.rowOf .anything), fallback := some (.list []) },
        { name := "rowcount", type := .integer, fallback := some (.integer (-1)) },
        { name := "lastrowid", type := .optional .integer, fallback := some .null },
        { name := "insert_ids", type := .rowOf .integer, fallback := some (.tuple []) }] }

def asValue (report : Report) : Value :=
  .record recordType.name
    [("columns", .tuple (report.columns.map Value.text)),
      ("rows", .list (report.rows.map Value.tuple)), ("rowcount", .integer report.rowcount),
      ("lastrowid", (report.lastrowid.map Value.integer).getD .null),
      ("insert_ids", .tuple (report.insertIds.map Value.integer))]

/-- Ids are worked out only for statements without result columns. -/
def ofAnswer (dialect : Dialect) (answer : Answer) : Except Error Report := do
  let insertIds ← if answer.columns.isEmpty
    then dialect.insertIds answer.lastrowid (reportedCount answer.rowcount) else .ok []
  match fitted answer insertIds with
  | .ok report => .ok report
  | .error flaws => .error (.invalid flaws)

end Report
end Querywright
