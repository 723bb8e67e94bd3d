import Querywright.Builder.Terminal

/-! Calls as data. A clause call adds to the clauses, a terminal call runs a statement, and a
builder call is one of these or changes a setting or the bound destination. Runs of calls are
lists of them. -/
namespace Querywright

inductive ClauseCall where
  | table (names : List Value)
  | restrict (connector : Connector) (arguments : List Value)
  | restrictGroups (connector : Connector) (arguments : List Value)
  | join (target condition direction : Value)
  | restrictJoin (connector : Connector) (target : Value) (arguments : List Value)
  | orderBy (column direction : Value) (ranking : List Value)
  | groupBy (columns : List Value)
  | limit (values : List Value)
  | options (options : List Value)
  | onDuplicate (columns insertIdColumn : Value)
  | requestTotal

namespace ClauseCall

/-- The clauses as they were, where the call is refused. -/
def settle (clauses : Clauses) : Except Error Clauses → Except Error Unit × Clauses
  | .ok changed => (.ok (), changed)
  | .error reason => (.error reason, clauses)

def apply (call : ClauseCall) (clauses : Clauses) : Except Error Unit × Clauses :=
  match call with
  | .table names => (.ok (), clauses.table names)
  | .restrict connector arguments => settle clauses (clauses.restrict connector arguments)
  | .restrictGroups connector arguments =>
    settle clauses (clauses.restrictGroups connector arguments)
  | .join target condition direction => settle clauses (clauses.join target condition direction)
  | .restrictJoin connector target arguments =>
    settle clauses (clauses.restrictJoin connector target arguments)
  | .orderBy column direction ranking => settle clauses (clauses.orderBy column direction ranking)
  | .groupBy columns => (.ok (), clauses.groupBy columns)
  | .limit values => settle clauses (clauses.limitTo values)
  | .options chosen => clauses.addOptions chosen
  | .onDuplicate columns insertIdColumn =>
    settle clauses (clauses.onDuplicate columns insertIdColumn)
  | .requestTotal => (.ok (), clauses.requestTotal)

end ClauseCall

inductive TerminalCall where
  | get (columns : List Value)
  | getOne (columns : List Value)
  | getValue (column : Value)
  | getValues (column : Value)
  | paginate (page : Value) (columns : List Value)
  | has
  | insert (data : Value)
  | insertMulti (rows : Value)
  | replace (data : Value)
  | update (data : Value)
  | delete
  | rawQuery (text : Value) (values : List Value)
  | rawQueryOne (text : Value) (values : List Value)
  | rawQueryValue (text : Value) (values : List Value)
  | rawQueryValues (text : Value) (values : List Value)
  | lock (tables : List Value)
  | unlock

namespace TerminalCall

variable {τ : Type}

/-- Most operations answer with the builder itself, some with a value. -/
def perform (setting : Setting τ) (call : TerminalCall) : Work τ (Option Value) :=
  match call with
  | .get columns => do Builder.get setting columns; return none
  | .getOne columns => do Builder.getOne setting columns; return none
  | .getValue column => return some (← Builder.getValue setting column)
  | .getValues column => return some (← Builder.getValues setting column)
  | .paginate page columns => do Builder.paginate setting page columns; return none
  | .has => return some (.truth (← Builder.has setting))
  | .insert data => do Builder.insert setting data; return none
  | .insertMulti rows => do Builder.insertMulti setting rows; return none
  | .replace data => do Builder.replace setting data; return none
  | .update data => do Builder.update setting data; return none
  | .delete => do Builder.delete setting; return none
  | .rawQuery text values => do Builder.rawQuery setting text values; return none
  | .rawQueryOne text values => do Builder.rawQueryOne setting text values; return none
  | .rawQueryValue text values => return some (← Builder.rawQueryValue setting text values)
  | .rawQueryValues text values => return some (← Builder.rawQueryValues setting text values)
  | .lock tables => do Builder.lock setting tables; return none
  | .unlock => do Builder.unlock setting; return none

end TerminalCall

inductive BuilderCall where
  | clause (call : ClauseCall)
  | terminal (call : TerminalCall)
  | bind (slot : Nat) (rule : ElementRule)
  | setLockMethod (method : Value)
  | setTrace (enabled : Value)

namespace BuilderCall

variable {τ : Type}

def applyClause (call : ClauseCall) : Work τ Unit := ExceptT.mk fun desk =>
  let (result, clauses) := call.apply desk.builder.clauses
  (result, { desk with builder := { desk.builder with clauses := clauses } })

def replaceBuilder (change : Desk τ → Except Error Builder) : Work τ Unit := ExceptT.mk fun desk =>
  match change desk with
  | .ok builder => (.ok (), { desk with builder := builder })
  | .error reason => (.error reason, desk)

def boundBuilder (schema : Schema) (slot : Nat) (rule : ElementRule) (desk : Desk τ) :
    Except Error Builder :=
  match desk.shelf[slot]? with
  | some destination => desk.builder.bind schema slot destination rule
  | none => .error (.invalidDestination "NoneType")

def perform (setting : Setting τ) (call : BuilderCall) : Work τ (Option Value) :=
  match call with
  | .clause call => do applyClause call; return none
  | .terminal call => call.perform setting
  | .bind slot rule => do replaceBuilder (boundBuilder setting.schema slot rule); return none
  | .setLockMethod method => do
    replaceBuilder fun desk => desk.builder.setLockMethod method
    return none
  | .setTrace enabled => do
    replaceBuilder fun desk => .ok (desk.builder.setTrace enabled)
    return none

end BuilderCall
end Querywright
