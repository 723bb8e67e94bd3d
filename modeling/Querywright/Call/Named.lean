import Querywright.Subquery

/-! Calls by name, with their arguments in order. A name that no call has is told apart from a
wrong number of arguments. -/
namespace Querywright

abbrev Named (α : Type) := Option (Except Error α)

def wrongCount {α : Type} : Named α :=
  some (.error (.misuse .argumentCount))

def accepted {α : Type} (call : α) : Named α :=
  some (.ok call)

namespace ClauseCall

def joinNamed (direction : JoinDirection) : List Value → Named ClauseCall
  | [target] => accepted (.join target (.text "") (.text direction.text))
  | [target, condition] => accepted (.join target condition (.text direction.text))
  | _ => wrongCount

def joinWhereNamed (connector : Connector) : List Value → Named ClauseCall
  | target :: arguments => accepted (.restrictJoin connector target arguments)
  | [] => wrongCount

def ofName (name : String) (arguments : List Value) : Named ClauseCall :=
  match name, arguments with
  | "table", names => accepted (.table names)
  | "where", arguments => accepted (.restrict .both arguments)
  | "or_where", arguments => accepted (.restrict .either arguments)
  | "having", arguments => accepted (.restrictGroups .both arguments)
  | "or_having", arguments => accepted (.restrictGroups .either arguments)
  | "join", [target, condition, direction] => accepted (.join target condition direction)
  | "join", arguments => joinNamed .inner arguments
  | "left_join", arguments => joinNamed .left arguments
  | "right_join", arguments => joinNamed .right arguments
  | "inner_join", arguments => joinNamed .inner arguments
  | "natural_join", arguments => joinNamed .natural arguments
  | "cross_join", arguments => joinNamed .cross arguments
  | "join_where", arguments => joinWhereNamed .both arguments
  | "join_or_where", arguments => joinWhereNamed .either arguments
  | "order_by", [column] => accepted (.orderBy column .null [])
  | "order_by", column :: direction :: ranking => accepted (.orderBy column direction ranking)
  | "order_by", [] => wrongCount
  | "group_by", columns => accepted (.groupBy columns)
  | "limit", values => accepted (.limit values)
  | "set_query_option", chosen => accepted (.options chosen)
  | "on_duplicate", [columns] => accepted (.onDuplicate columns .null)
  | "on_duplicate", [columns, insertIdColumn] => accepted (.onDuplicate columns insertIdColumn)
  | "on_duplicate", _ => wrongCount
  | "with_total_count", [] => accepted .requestTotal
  | "with_total_count", _ => wrongCount
  | _, _ => none

end ClauseCall

namespace TerminalCall

def withText (call : Value → List Value → TerminalCall) : List Value → Named TerminalCall
  | text :: values => accepted (call text values)
  | [] => wrongCount

def withOne (call : Value → TerminalCall) : List Value → Named TerminalCall
  | [argument] => accepted (call argument)
  | _ => wrongCount

def withNone (call : TerminalCall) : List Value → Named TerminalCall
  | [] => accepted call
  | _ => wrongCount

def ofName (name : String) (arguments : List Value) : Named TerminalCall :=
  match name with
  | "get" => accepted (.get arguments)
  | "get_one" => accepted (.getOne arguments)
  | "get_value" => withOne .getValue arguments
  | "get_values" => withOne .getValues arguments
  | "paginate" => withText .paginate arguments
  | "has" => withNone .has arguments
  | "insert" => withOne .insert arguments
  | "insert_multi" => withOne .insertMulti arguments
  | "replace" => withOne .replace arguments
  | "update" => withOne .update arguments
  | "delete" => withNone .delete arguments
  | "raw_query" => withText .rawQuery arguments
  | "raw_query_one" => withText .rawQueryOne arguments
  | "raw_query_value" => withText .rawQueryValue arguments
  | "raw_query_values" => withText .rawQueryValues arguments
  | "lock" => accepted (.lock arguments)
  | "unlock" => withNone .unlock arguments
  | _ => none

end TerminalCall

namespace BuilderCall

def ofName (name : String) (arguments : List Value) : Named BuilderCall :=
  match name, arguments with
  | "set_lock_method", [method] => accepted (.setLockMethod method)
  | "set_lock_method", _ => wrongCount
  | "set_trace", [] => accepted (.setTrace (.truth true))
  | "set_trace", [enabled] => accepted (.setTrace enabled)
  | "set_trace", _ => wrongCount
  | name, arguments =>
    match ClauseCall.ofName name arguments with
    | some call => some (call.map .clause)
    | none => (TerminalCall.ofName name arguments).map fun call => call.map .terminal

end BuilderCall

namespace Subquery

def clauseNames : List String :=
  ["table", "where", "or_where", "having", "or_having", "join", "left_join", "right_join",
    "inner_join", "natural_join", "cross_join", "join_where", "join_or_where", "order_by",
    "group_by", "limit", "set_query_option"]

def terminalNames : List String :=
  ["get", "get_one", "paginate", "raw_query"]

/-- A call on a nested select; of all calls it knows clauses and selects only. -/
def call (name : String) (arguments : List Value) (subquery : Subquery) : Except Error Subquery :=
  if clauseNames.contains name then
    match ClauseCall.ofName name arguments with
    | some result => do subquery.derive (← result)
    | none => .error (.misuse (.noSuchOperation name))
  else if terminalNames.contains name then
    match TerminalCall.ofName name arguments with
    | some result => do subquery.record (← result)
    | none => .error (.misuse (.noSuchOperation name))
  else .error (.misuse (.ofMissingCall (subquery.fields.map (·.1)) name))

end Subquery
end Querywright
