import Querywright.Value.Equality
import Querywright.Value.Shown

/-! Outlines: what is seen of a thing from outside, by name. Of a builder only that is told which
differs from a new one; conditions and orderings are counted, a join is told by its key, its
direction and the number of conditions added to it. -/
namespace Querywright

abbrev Outline := List (String × Value)

namespace Outline

def many (name : String) (values : List Value) : Outline :=
  if values.isEmpty then [] else [(name, .list values)]

def count (name : String) (number : Int) : Outline :=
  if number == 0 then [] else [(name, .integer number)]

def unlessSame (name : String) (pristine value : Value) : Outline :=
  if value.sameKey pristine then [] else [(name, value)]

/-- A value that is told by parts of its own. -/
def nested (parts : Outline) : Value :=
  .thing "" [] parts "" ""

end Outline

def Value.ofText? (text : Option String) : Value :=
  (text.map Value.text).getD .null

/-- Among the tables a nested select is told by its alias. -/
def Value.tableOutline (table : Value) : Value :=
  match table.asSubquery? with
  | some subquery => Outline.nested [("alias", .ofText? subquery.derivedName)]
  | none => table

def Join.outline (join : Join) : Value :=
  .list [.ofText? join.target.key, .text join.direction.text, .integer join.conditions.length]

def Clauses.outline (clauses : Clauses) : Outline :=
  Outline.many "tables" (clauses.tables.map Value.tableOutline) ++
    Outline.count "where_conditions" clauses.conditions.length ++
    Outline.count "having_conditions" clauses.groupConditions.length ++
    Outline.many "joins" (clauses.joins.map Join.outline) ++
    Outline.count "orders" clauses.orders.length ++
    Outline.many "group_by_columns" clauses.groups ++
    Outline.many "limit_value" clauses.limit ++
    Outline.many "query_options" (clauses.options.map Value.text) ++
    Outline.many "on_duplicate_columns" clauses.upsertColumns ++
    (clauses.insertIdColumn.map fun column => ("last_insert_id_column", column)).toList ++
    (if clauses.totalRequested then [("total_count_requested", .truth true)] else [])

def defaultPageLimit : Int := 20

/-- Settings and last statement, as far as they differ from those of a new builder. -/
def statementOutline (pageLimit query : Value) (arguments : List Value) : Outline :=
  Outline.unlessSame "page_limit" (.integer defaultPageLimit) pageLimit ++
    Outline.unlessSame "last_query" (.text "") query ++
    Outline.many "last_params" arguments

/-- A thing whose texts tell its parts: with its name and brackets around them, or bare. -/
def Value.ofParts (kind : String) (fields : List (String × Value)) (outline : Outline)
    (parts : List String) : Value :=
  .thing kind fields outline (kind ++ inBrackets "(" ")" parts) (" ".intercalate parts)

def Value.ofCondition (condition : Condition) : Value :=
  .expression (.condition condition)

def Value.ofOrder (order : Order) : Value :=
  .expression (.order order)

def JoinTarget.asValue : JoinTarget → Value
  | .table name => .text name
  | .derived subquery => .expression (.subquery subquery)

def Join.asValue (join : Join) : Value :=
  .ofParts "JoinExpression" [("direction", .text join.direction.text),
    ("target", join.target.asValue), ("condition", .text join.condition),
    ("conditions", .list (join.conditions.map Value.ofCondition))] [] join.parts

def Clauses.fields (clauses : Clauses) : List (String × Value) :=
  [("tables", .list clauses.tables),
    ("where_conditions", .list (clauses.conditions.map Value.ofCondition)),
    ("having_conditions", .list (clauses.groupConditions.map Value.ofCondition)),
    ("joins", .mapping (clauses.joins.map fun join => (.ofText? join.target.key, join.asValue))),
    ("orders", .list (clauses.orders.map Value.ofOrder)),
    ("group_by_columns", .list clauses.groups), ("limit_value", .tuple clauses.limit),
    ("query_options", .list (clauses.options.map Value.text)),
    ("on_duplicate_columns", .list clauses.upsertColumns),
    ("last_insert_id_column", clauses.insertIdColumn.getD .null),
    ("total_count_requested", .truth clauses.totalRequested)]

def restingFields (pageLimit : Int) (query : Value) (arguments : List Value) :
    List (String × Value) :=
  [("page_limit", .integer pageLimit), ("lock_method", .text "WRITE"), ("tracing", .truth false),
    ("last_query", query), ("last_params", .tuple arguments), ("count", .integer 0),
    ("last_insert_id", .null), ("last_insert_ids", .list []), ("total_count", .integer 0),
    ("total_page", .integer 0), ("traces", .list [])]

def Subquery.builder (subquery : Subquery) : Value :=
  let (text, values) := subquery.recorded.getD ("", [])
  .ofParts "Builder"
    (subquery.clauses.fields ++ restingFields subquery.pageLimit (.text text) values)
    (subquery.clauses.outline ++ statementOutline (.integer subquery.pageLimit) (.text text) values)
    subquery.builderParts

end Querywright
