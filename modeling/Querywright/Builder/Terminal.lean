import Querywright.Builder
import Querywright.Pagination

/-! Terminal operations. Each one renders the pending statement, checks its placeholders, keeps it
as the last statement, sends it where there is somewhere to send it, and takes the answer over. The
results of the statement before are cleared first, clauses and destination last, whatever happens
in between. Without an executor a statement is rendered and kept, and nothing else happens. -/
namespace Querywright

abbrev Executor (τ : Type) := Value → List Value → τ → Except Error Report × τ

/-- A builder at work: itself, the destinations, and what its statements reach. -/
structure Desk (τ : Type) where
  builder : Builder
  shelf : Shelf := []
  outside : τ

/-- An operation of a builder; changes made before a failure stay. -/
abbrev Work (τ α : Type) := ExceptT Error (StateM (Desk τ)) α

/-- What a terminal operation works with besides the desk; table locks ask for an executor that
is an active transaction. -/
structure Setting (τ : Type) where
  schema : Schema := []
  executor : Option (Executor τ) := none
  locksTables : Bool := false

namespace Work

variable {τ α : Type}

def ofResult (result : Except Error α) : Work τ α :=
  MonadExcept.ofExcept result

def changeBuilder (change : Builder → Builder) : Work τ Unit :=
  modify fun desk => { desk with builder := change desk.builder }

def changeClauses (change : Clauses → Clauses) : Work τ Unit :=
  changeBuilder fun builder => { builder with clauses := change builder.clauses }

def changeResults (change : Results → Results) : Work τ Unit :=
  changeBuilder fun builder => { builder with results := change builder.results }

def builder : Work τ Builder :=
  return (← get).builder

def pending : Work τ Clauses :=
  return (← get).builder.clauses

/-- The scope of one terminal operation. -/
def statement (body : Work τ α) : Work τ α := ExceptT.mk fun desk =>
  let (result, after) := body.run { desk with builder := desk.builder.clearResults }
  (result, { after with builder := after.builder.clearClauses })

/-- The trace of a statement and of what came of it. Traces are of texts, as which octets count
too. -/
def traceOf (statement : Value) (arguments : List Value) (result : Except Error Report) :
    Except Flaws Trace :=
  (fitNamed "query" .text statement).map fun text =>
    ⟨text.plain, arguments, match result with
      | .ok _ => none
      | .error reason => some reason.message⟩

def send (executor : Executor τ) (statement : Value) (arguments : List Value) : Work τ Report :=
  ExceptT.mk fun desk =>
    let (result, outside) := executor statement arguments desk.outside
    let desk := { desk with outside := outside }
    if desk.builder.settings.tracing.isTrue then
      match traceOf statement arguments result with
      | .error flaws => (.error (.invalid flaws), desk)
      | .ok trace =>
        (result, { desk with
          builder := { desk.builder with traces := desk.builder.traces ++ [trace] } })
    else (result, desk)

def dispatch (setting : Setting τ) (statement : Value) (arguments : List Value) :
    Work τ (Option Report) := do
  match setting.executor with
  | none => return none
  | some executor => return some (← send executor statement arguments)

def keep (statement : Value) (arguments : List Value) : Work τ Unit :=
  changeResults fun results => { results with query := statement, arguments := arguments }

/-- A statement in whatever form: checked, kept as the last statement, sent. -/
def executeLoose (setting : Setting τ) (statement : Value) (arguments : List Value) :
    Work τ (Option Report) := do
  ofResult (Placeholder.checkBalance statement arguments.length)
  keep statement arguments
  dispatch setting statement arguments

def execute (setting : Setting τ) (statement : Fragment) : Work τ (Option Report) := do
  let checked ← ofResult statement.checked
  keep (.text checked.text) checked.arguments
  dispatch setting (.text checked.text) checked.arguments

/-- A statement beside the main one: checked and sent, but not kept. -/
def executeAside (setting : Setting τ) (statement : Fragment) : Work τ (Option Report) := do
  let checked ← ofResult statement.checked
  dispatch setting (.text checked.text) checked.arguments

def affected (report : Report) : Int :=
  max report.rowcount 0

def load (schema : Schema) (binding : Binding) (report : Report) : Work τ Nat :=
  ExceptT.mk fun desk =>
    let (result, shelf) := desk.shelf.load schema binding report.columns report.rows
    (result, { desk with shelf := shelf })

/-- Takes over an answer that may hold rows: without columns the count of affected rows, else the
rows themselves, loaded where a destination is given. -/
def takeRows (schema : Schema) (binding : Option Binding) : Option Report → Work τ Unit
  | none => return ()
  | some report =>
    if report.columns.isEmpty then
      changeResults fun results => { results with count := affected report }
    else match binding with
      | none => changeResults fun results => { results with count := report.rows.length }
      | some binding => do
        let count ← load schema binding report
        changeResults fun results => { results with count := count }

def takeWrite (inserted : Bool) : Option Report → Work τ Unit
  | none => return ()
  | some report => do
    changeResults fun results => { results with count := affected report }
    if inserted then
      changeResults fun results => { results with insertId := report.lastrowid.filter (· != 0) }

def firstCell (report : Report) : Option (Except Error Value) :=
  report.rows.head?.map firstValue

/-- Counts the rows that the select would give without ordering and limit. -/
def fetchTotal (setting : Setting τ) (columns : List Value) : Work τ Unit := do
  let statement ← ofResult ((← pending).countRows columns)
  match (← executeAside setting statement).bind firstCell with
  | none => return ()
  | some cell =>
    let total ← ofResult (do totalOf (← cell))
    changeResults fun results => { results with total := total }
    let pages ← ofResult (pagesOf total (← builder).settings.pageLimit)
    changeResults fun results => { results with pages := pages }

def select (setting : Setting τ) (columns : List Value) : Work τ Unit := do
  let statement ← ofResult ((← pending).select columns)
  let report ← execute setting statement
  takeRows setting.schema (← builder).binding report
  if (← pending).totalRequested then fetchTotal setting columns

end Work

namespace Builder

variable {τ : Type}

open Work

def get (setting : Setting τ) (columns : List Value) : Work τ Unit :=
  statement (select setting columns)

def getOne (setting : Setting τ) (columns : List Value) : Work τ Unit :=
  statement do
    changeClauses fun clauses => { clauses with limit := [.integer 1] }
    select setting columns

def paginate (setting : Setting τ) (page : Value) (columns : List Value) : Work τ Unit :=
  statement do
    let window ← ofResult (pageWindow page (← builder).settings.pageLimit)
    changeClauses fun clauses => { clauses with limit := window, totalRequested := true }
    select setting columns

def has (setting : Setting τ) : Work τ Bool := do
  statement do
    changeClauses fun clauses => { clauses with limit := [.integer 1] }
    let select ← ofResult ((← pending).select [])
    takeRows setting.schema none (← execute setting select)
  return 0 < (← builder).results.count

def write (setting : Setting τ) (inserted : Bool)
    (render : Clauses → Except Error Fragment) : Work τ Unit :=
  statement do
    let rendered ← ofResult (render (← pending))
    takeWrite inserted (← execute setting rendered)

def insert (setting : Setting τ) (data : Value) : Work τ Unit :=
  write setting true (Clauses.insert "INSERT" [data])

def replace (setting : Setting τ) (data : Value) : Work τ Unit :=
  write setting true (Clauses.insert "REPLACE" [data])

def update (setting : Setting τ) (data : Value) : Work τ Unit :=
  write setting false (Clauses.update data)

def delete (setting : Setting τ) : Work τ Unit :=
  write setting false Clauses.delete

def rowsOf (rows : Value) : Except Error (List Value) :=
  match rows with
  | .list [] | .tuple [] => .error .noRowToInsert
  | .list items | .tuple items => .ok items
  | other => .error (.rowsNotList other.kindName)

def insertMulti (setting : Setting τ) (rows : Value) : Work τ Unit :=
  statement do
    let rows ← ofResult (rowsOf rows)
    let rendered ← ofResult ((← pending).insert "INSERT" rows)
    let report ← execute setting rendered
    takeWrite true report
    match report with
    | none => return ()
    | some report =>
      changeResults fun results => { results with insertIds := report.insertIds }

def textOf (text : Value) : Except Error String :=
  match text with
  | .text content => .ok content
  | other => .error (.misuse (.notText other.kindName))

/-- A statement written by the caller, who may hand over anything for its text. -/
def rawQuery (setting : Setting τ) (written : Value) (values : List Value) : Work τ Unit :=
  statement do
    takeRows setting.schema (← builder).binding (← executeLoose setting written values)

/-- The text is completed before the statement begins. -/
def rawQueryOne (setting : Setting τ) (text : Value) (values : List Value) : Work τ Unit := do
  let text ← ofResult (textOf text)
  rawQuery setting (.text (text ++ " LIMIT 1")) values

def bindFresh (destination : Destination) (sink : Sink) : Work τ Nat := do
  let slot := (← getThe (Desk τ)).shelf.length
  modify fun desk => { desk with shelf := desk.shelf ++ [destination] }
  changeBuilder fun builder => { builder with binding := some ⟨slot, sink⟩ }
  return slot

def contentOf (slot : Nat) : Work τ Value := do
  match (← getThe (Desk τ)).shelf[slot]? with
  | some (.holder _ content) => return content
  | some destination => return destination.value
  | none => return .null

def freshHolder : Work τ Nat :=
  bindFresh (.holder .anything .null) .holder

def freshList : Work τ Nat :=
  bindFresh (.list []) (.list (.scalar .anything))

def getValue (setting : Setting τ) (column : Value) : Work τ Value := do
  let slot ← freshHolder
  getOne setting [column]
  contentOf slot

def getValues (setting : Setting τ) (column : Value) : Work τ Value := do
  let slot ← freshList
  get setting [column]
  contentOf slot

def rawQueryValue (setting : Setting τ) (text : Value) (values : List Value) : Work τ Value := do
  let slot ← freshHolder
  rawQueryOne setting text values
  contentOf slot

def rawQueryValues (setting : Setting τ) (text : Value) (values : List Value) :
    Work τ Value := do
  let slot ← freshList
  rawQuery setting text values
  contentOf slot

/-- Sends a statement that belongs to a transaction; outside an active one nothing changes. -/
def inTransaction (setting : Setting τ) (body : Work τ Unit) : Work τ Unit :=
  if setting.locksTables then statement body else throw .transactionNotBegun

def lockText (method : String) (tables : List Value) : Except Error String :=
  if tables.isEmpty || !tables.all isTableName then .error .noTableToLock
  else .ok ("LOCK TABLES " ++
    ", ".intercalate (tables.map fun table => table.plain ++ " " ++ method))

def lock (setting : Setting τ) (tables : List Value) : Work τ Unit :=
  inTransaction setting do
    let text ← ofResult (lockText (← builder).settings.lockMethod tables)
    takeRows setting.schema none (← execute setting (Fragment.plain text))

def unlock (setting : Setting τ) : Work τ Unit :=
  inTransaction setting do
    takeRows setting.schema none (← execute setting (Fragment.plain "UNLOCK TABLES"))

end Builder
end Querywright
