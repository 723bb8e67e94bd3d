import Querywright.Configuration
import Querywright.Destination
import Querywright.Network
import Querywright.Statement

/-! A builder: the clauses gathered for its next statement, settings that stay, what the last
statement gave, traces, and the destination bound for the next rows. -/
namespace Querywright

/-- Settings as they were given; they are looked at again when a new builder takes them over. -/
structure Settings where
  pageLimit : Value := .integer defaultPageLimit
  lockMethod : String := "WRITE"
  tracing : Value := .truth false

namespace Settings

def fittedOr (name : String) (type : FieldType) (fallback : Value) (options : Options) :
    Except Flaws Value :=
  match options.lookup name with
  | none => .ok fallback
  | some value => fitNamed name type value

def ofOptions (options : Options) : Except Error Settings :=
  let result := besides (fittedOr "page_limit" .integer (.integer defaultPageLimit) options)
    (besides (fittedOr "lock_method" .text (.text "WRITE") options)
      (fittedOr "tracing" .truth (.truth false) options))
  match result with
  | .error flaws => .error (.invalid flaws)
  | .ok (pageLimit, lockMethod, tracing) => .ok ⟨pageLimit, lockMethod.plain, tracing⟩

def options (settings : Settings) : Options :=
  [("page_limit", settings.pageLimit), ("lock_method", .text settings.lockMethod),
    ("tracing", settings.tracing)]

def renewed (settings : Settings) : Except Error Settings :=
  ofOptions settings.options

def ofConfiguration (configuration : Configuration) : Settings :=
  ⟨.integer configuration.pageLimit, configuration.lockMethod, .truth configuration.tracing⟩

end Settings

/-- What the last statement gave. The statement itself is a text unless a caller wrote something
else. -/
structure Results where
  query : Value := .text ""
  arguments : List Value := []
  count : Int := 0
  insertId : Option Int := none
  insertIds : List Int := []
  total : Int := 0
  pages : Int := 0

structure Trace where
  query : String
  arguments : List Value
  failure : Option String

namespace Trace

def shown (trace : Trace) : String :=
  "Trace" ++ inBrackets "(" ")" ["query=" ++ Text.quoted trace.query,
    "params=" ++ (Value.tuple trace.arguments).shown, "duration=0.0", "stacks=[]",
    "error=" ++ shownTextOption trace.failure]

/-- How long a statement took and where it was sent from is not told. -/
def fields (trace : Trace) : FieldValues :=
  [("query", .text trace.query), ("params", .tuple trace.arguments), ("duration", .decimal 0.0),
    ("stacks", .list []), ("error", .ofText? trace.failure)]

def asValue (trace : Trace) : Value :=
  .record recordType.name trace.fields

def ofFields (fields : FieldValues) : Trace :=
  ⟨fields.text "query", fields.row "params", (fields.value "error").asText?⟩

end Trace

/-- A bound destination is known by its number on the shelf. -/
structure Binding where
  slot : Nat
  sink : Sink

structure Builder where
  clauses : Clauses := {}
  settings : Settings := {}
  results : Results := {}
  traces : List Trace := []
  binding : Option Binding := none
  backing : Option Backing := none

abbrev Shelf := List Destination

namespace Shelf

def load (schema : Schema) (binding : Binding) (columns : List String)
    (rows : List (List Value)) (shelf : Shelf) : Except Error Nat × Shelf :=
  match shelf[binding.slot]? with
  | none => (.ok 0, shelf)
  | some destination =>
    let (result, destination) := Querywright.load schema binding.sink destination columns rows
    (result, shelf.set binding.slot destination)

end Shelf

namespace Builder

def clearResults (builder : Builder) : Builder :=
  { builder with results := {} }

/-- What every terminal operation leaves behind: no clause and no destination. -/
def clearClauses (builder : Builder) : Builder :=
  { builder with clauses := {}, binding := none }

/-- A builder with the same clauses and settings and neither results nor destination. -/
def clone (builder : Builder) : Except Error Builder :=
  builder.settings.renewed.map fun settings =>
    { clauses := builder.clauses, settings := settings, backing := builder.backing }

def setLockMethod (method : Value) (builder : Builder) : Except Error Builder :=
  match (method.asText?.map Text.keyword).filter lockMethods.contains with
  | some keyword => .ok { builder with settings := { builder.settings with lockMethod := keyword } }
  | none =>
    .error (.invalidLockMethod ((method.asText?.map Text.keyword).getD method.plain))

def setTrace (enabled : Value) (builder : Builder) : Builder :=
  { builder with settings := { builder.settings with tracing := enabled } }

def setPageLimit (pageLimit : Value) (builder : Builder) : Builder :=
  { builder with settings := { builder.settings with pageLimit := pageLimit } }

def bind (schema : Schema) (slot : Nat) (destination : Destination) (rule : ElementRule)
    (builder : Builder) : Except Error Builder :=
  (selectSink schema destination rule).map fun sink =>
    { builder with binding := some ⟨slot, sink⟩ }

def outline (builder : Builder) : Outline :=
  let settings := builder.settings
  let results := builder.results
  builder.clauses.outline ++ statementOutline settings.pageLimit results.query results.arguments ++
    Outline.unlessSame "lock_method" (.text "WRITE") (.text settings.lockMethod) ++
    Outline.unlessSame "tracing" (.truth false) settings.tracing ++
    Outline.count "count" results.count ++
    (results.insertId.map fun id => ("last_insert_id", Value.integer id)).toList ++
    Outline.many "last_insert_ids" (results.insertIds.map Value.integer) ++
    Outline.count "total_count" results.total ++ Outline.count "total_page" results.pages ++
    Outline.count "traces" builder.traces.length

def parts (builder : Builder) : List String :=
  let settings := builder.settings
  let results := builder.results
  builder.clauses.parts ++
    ["page_limit=" ++ settings.pageLimit.shown, "lock_method=" ++ Text.quoted settings.lockMethod,
      "tracing=" ++ settings.tracing.shown, "last_query=" ++ results.query.shown,
      "last_params=" ++ (Value.tuple results.arguments).shown,
      "count=" ++ toString results.count,
      "last_insert_id=" ++ ((results.insertId.map Value.integer).getD .null).shown,
      "last_insert_ids=" ++ (Value.list (results.insertIds.map Value.integer)).shown,
      "total_count=" ++ toString results.total, "total_page=" ++ toString results.pages,
      "traces=" ++ inBrackets "[" "]" (builder.traces.map Trace.shown)]

def fields (builder : Builder) : List (String × Value) :=
  let settings := builder.settings
  let results := builder.results
  builder.clauses.fields ++
    [("page_limit", settings.pageLimit), ("lock_method", .text settings.lockMethod),
      ("tracing", settings.tracing), ("last_query", results.query),
      ("last_params", .tuple results.arguments), ("count", .integer results.count),
      ("last_insert_id", (results.insertId.map Value.integer).getD .null),
      ("last_insert_ids", .list (results.insertIds.map Value.integer)),
      ("total_count", .integer results.total), ("total_page", .integer results.pages),
      ("traces", .list (builder.traces.map Trace.asValue))]

def fieldsOf? : Value → Option FieldValues
  | .record _ fields => some fields
  | .expression inner => some inner.fields
  | _ => none

def recordsIn (value : Value) : List FieldValues :=
  (value.elements?.getD []).filterMap fieldsOf?

def integersIn (value : Value) : List Int :=
  (value.elements?.getD []).filterMap Value.asInteger?

def textsIn (value : Value) : List String :=
  (value.elements?.getD []).filterMap Value.asText?

def assignClause (name : String) (value : Value) (clauses : Clauses) : Clauses :=
  let items := value.elements?.getD []
  match name with
  | "tables" => { clauses with tables := items }
  | "where_conditions" =>
    { clauses with conditions := (recordsIn value).map Condition.ofFields }
  | "having_conditions" =>
    { clauses with groupConditions := (recordsIn value).map Condition.ofFields }
  | "orders" => { clauses with orders := (recordsIn value).map Order.ofFields }
  | "group_by_columns" => { clauses with groups := items }
  | "limit_value" => { clauses with limit := items }
  | "query_options" => { clauses with options := textsIn value }
  | "on_duplicate_columns" => { clauses with upsertColumns := items }
  | "last_insert_id_column" =>
    { clauses with insertIdColumn := if value.isNull then none else some value }
  | "total_count_requested" => { clauses with totalRequested := value.isTrue }
  | _ => clauses

def assignSetting (name : String) (value : Value) (settings : Settings) : Settings :=
  match name with
  | "page_limit" => { settings with pageLimit := value }
  | "lock_method" => { settings with lockMethod := value.plain }
  | "tracing" => { settings with tracing := value }
  | _ => settings

def assignResult (name : String) (value : Value) (results : Results) : Results :=
  match name with
  | "last_query" => { results with query := value }
  | "last_params" => { results with arguments := value.elements?.getD [] }
  | "count" => { results with count := value.asInteger?.getD 0 }
  | "last_insert_id" => { results with insertId := value.asInteger? }
  | "last_insert_ids" => { results with insertIds := integersIn value }
  | "total_count" => { results with total := value.asInteger?.getD 0 }
  | "total_page" => { results with pages := value.asInteger?.getD 0 }
  | _ => results

def assignTraces (name : String) (value : Value) (traces : List Trace) : List Trace :=
  match name with
  | "traces" => (recordsIn value).map Trace.ofFields
  | _ => traces

def assign (builder : Builder) (field : String × Value) : Builder :=
  { builder with
    clauses := assignClause field.1 field.2 builder.clauses
    settings := assignSetting field.1 field.2 builder.settings
    results := assignResult field.1 field.2 builder.results
    traces := assignTraces field.1 field.2 builder.traces }

def asValue (builder : Builder) : Value :=
  .ofParts "Builder" builder.fields builder.outline builder.parts

end Builder
end Querywright
