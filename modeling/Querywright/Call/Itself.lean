import Querywright.Call

/-! Builders that are bound to themselves. Such a builder is loaded while it is at work: a row sets
fields of its clauses, settings and results, and the operation goes on with what they are then. -/
namespace Querywright

/-- What a load has changed of a builder. -/
def Destination.changes : Destination → FieldValues
  | .builder _ _ changes => changes
  | _ => []

namespace Work

variable {τ : Type}

def loadItself (schema : Schema) (report : Report) : Work τ Nat := ExceptT.mk fun desk =>
  let (result, loaded) := Querywright.load schema .record (.builder 0 desk.builder.fields [])
    report.columns report.rows
  (result, { desk with builder := loaded.changes.foldl Builder.assign desk.builder })

/-- The count stands for the rows even if a row sets another one. -/
def takeItself (schema : Schema) : Option Report → Work τ Unit
  | none => return ()
  | some report =>
    if report.columns.isEmpty then
      changeResults fun results => { results with count := affected report }
    else do
      let count ← loadItself schema report
      changeResults fun results => { results with count := count }

/-- Takes the rows over that go to what is bound, be it the builder itself or another
destination. -/
def takeBound (itself : Bool) (schema : Schema) (binding : Option Binding)
    (report : Option Report) : Work τ Unit :=
  if itself then takeItself schema report else takeRows schema binding report

def selectBound (itself : Bool) (setting : Setting τ) (columns : List Value) : Work τ Unit := do
  let statement ← ofResult ((← pending).select columns)
  let report ← execute setting statement
  takeBound itself setting.schema (← builder).binding report
  if (← pending).totalRequested then fetchTotal setting columns

def rawQueryBound (itself : Bool) (setting : Setting τ) (written : Value) (values : List Value) :
    Work τ Unit :=
  statement do
    takeBound itself setting.schema (← builder).binding (← executeLoose setting written values)

def rawQueryOneBound (itself : Bool) (setting : Setting τ) (text : Value) (values : List Value) :
    Work τ Unit := do
  let text ← ofResult (Builder.textOf text)
  rawQueryBound itself setting (.text (text ++ " LIMIT 1")) values

end Work

open Work

variable {τ : Type}

/-- A terminal operation of a builder that is bound to itself or not. Most of them do not look at
what is bound. -/
def TerminalCall.performAs (itself : Bool) (setting : Setting τ) (call : TerminalCall) :
    Work τ (Option Value) :=
  match call with
  | .get columns => do
    statement (selectBound itself setting columns)
    return none
  | .getOne columns => do
    statement do
      changeClauses fun clauses => { clauses with limit := [.integer 1] }
      selectBound itself setting columns
    return none
  | .paginate page columns => do
    statement do
      let window ← ofResult (pageWindow page (← builder).settings.pageLimit)
      changeClauses fun clauses => { clauses with limit := window, totalRequested := true }
      selectBound itself setting columns
    return none
  | .rawQuery text values => do
    rawQueryBound itself setting text values
    return none
  | .rawQueryOne text values => do
    rawQueryOneBound itself setting text values
    return none
  | call => call.perform setting

@[simp] theorem TerminalCall.performAs_false (setting : Setting τ) (call : TerminalCall) :
    call.performAs false setting = call.perform setting := by
  cases call <;> rfl

def BuilderCall.performAs (itself : Bool) (setting : Setting τ) (call : BuilderCall) :
    Work τ (Option Value) :=
  match call with
  | .terminal call => call.performAs itself setting
  | call => call.perform setting

end Querywright
