import Querywright.Builder.Record
import Querywright.Record.Validation

/-! Where the rows of a select go: a holder of one value, a record, a list or a mapping. An
expression or a builder is loaded like a record of its fields; the changes that a row makes to a
builder are gathered until it takes them over. Loading gives the count to report, or the reason of
a failure, together with the destination as it is left either way. -/
namespace Querywright

inductive Destination where
  | holder (type : FieldType) (content : Value)
  | record (name : String) (fields : List (String × Value))
  | expression (expression : Expression)
  | builder (number : Nat) (fields changes : FieldValues)
  | list (items : List Value)
  | mapping (entries : Entries)

namespace Destination

def value : Destination → Value
  | .holder _ content => .holder content
  | .record name fields => .record name fields
  | .expression inner => .expression inner
  | .builder _ fields _ => .thing "Builder" fields [] "" ""
  | .list items => .list items
  | .mapping entries => .mapping entries

def ofValue? : Value → Option Destination
  | .list items => some (.list items)
  | .mapping entries => some (.mapping entries)
  | .record name fields => some (.record name fields)
  | .expression inner => some (.expression inner)
  | _ => none

end Destination

/-- What a list makes of a row: a record, a mapping of its columns, or its first value fitted to
a type. A list may also be asked for elements of something that is no type; that a name stands for
no type is found out with the first row, anything else before it. -/
inductive ElementRule where
  | record (name : String)
  | mapping
  | scalar (type : FieldType)
  | unknown (name : String)
  | untyped (kind : String)

namespace ElementRule

def ofType (type : FieldType) : ElementRule :=
  match type.reduced, type.record? with
  | .mapping, _ => .mapping
  | _, some name => .record name
  | _, none => .scalar type

/-- A type given by its name is only ever fitted to. -/
def ofValue : Value → ElementRule
  | .null => .mapping
  | .declared type => .ofType type
  | .text name =>
    match FieldType.ofName? name with
    | some type => .scalar type
    | none => .unknown name
  | other => .untyped other.kindName

end ElementRule

/-- A destination fit to be loaded, with the rule for the elements of a list. -/
inductive Sink where
  | holder
  | record
  | list (rule : ElementRule)
  | mapping

def Sink.kindName : Sink → String
  | .holder => "ValueSink"
  | .record => "RecordSink"
  | .list _ => "SequenceSink"
  | .mapping => "MappingSink"

def selectSink (schema : Schema) (destination : Destination) (rule : ElementRule) :
    Except Error Sink :=
  match destination with
  | .holder .. => .ok .holder
  | .record name _ =>
    if schema.isFrozen name then .error (.frozenDestination name) else .ok .record
  | .expression _ | .builder .. => .ok .record
  | .list _ => .ok (.list rule)
  | .mapping _ => .ok .mapping

def firstValue (row : List Value) : Except Error Value :=
  match row with
  | [] => .error (.misuse .rowTooShort)
  | value :: _ => .ok value

def rowMapping (columns : List String) (row : List Value) : Entries :=
  Entries.ofPairs ((columns.map Value.text).zip row)

def elementOf (schema : Schema) (columns : List String) (rule : ElementRule) (row : List Value) :
    Except Error Value :=
  match rule with
  | .record name => do
    let data ← assemble (schema.columnPaths name columns) row
    validate schema (.record name) data
  | .mapping => .ok (.mapping (rowMapping columns row))
  | .scalar type => do validate schema type (← firstValue row)
  | .unknown name => .error (.misuse (.unknownType name))
  | .untyped kind => .error (.misuse (.noType kind))

/-- The elements before the first row that fails, with the reason of that failure. -/
def elementsOf (schema : Schema) (columns : List String) (rule : ElementRule) :
    List (List Value) → List Value × Option Error
  | [] => ([], none)
  | row :: rest =>
    match elementOf schema columns rule row with
    | .error reason => ([], some reason)
    | .ok element =>
      let (others, failure) := elementsOf schema columns rule rest
      (element :: others, failure)

def touchedFields (paths : List (Option Path)) : List String :=
  paths.filterMap fun path => path.bind fun steps => steps.head?.map (·.1)

/-- The fields of a record, those named being taken from another. -/
def replaceFields (names : List String) (fresh fields : List (String × Value)) :
    List (String × Value) :=
  fields.map fun (name, value) =>
    if names.contains name then (name, (fresh.lookup name).getD value) else (name, value)

/-- The record after a row: the row is laid over the written record, the whole is validated, and
the fields that the row touches are taken over. -/
def loadRecord (schema : Schema) (name : String) (fields : List (String × Value))
    (columns : List String) (row : List Value) : Except Error (List (String × Value)) := do
  let paths := schema.columnPaths name columns
  let data ← assemble paths row
  match data with
  | .mapping [] => return fields
  | data =>
    let base := written schema (.record name fields)
    let validated ← validate schema (.record name) (overlay data (some base))
    match validated with
    | .record _ fresh => return replaceFields (touchedFields paths) fresh fields
    | _ => return fields

/-- The elements of a list after a load, as far as they go, and what there was to stop it. -/
def refill (schema : Schema) (columns : List String) (rule : ElementRule)
    (rows : List (List Value)) : List Value × Option Error :=
  match rule with
  | .untyped kind => ([], some (.misuse (.noType kind)))
  | _ => elementsOf schema columns rule rows

def load (schema : Schema) (sink : Sink) (destination : Destination) (columns : List String)
    (rows : List (List Value)) : Except Error Nat × Destination :=
  match sink, destination with
  | .list rule, .list _ =>
    let (elements, failure) := refill schema columns rule rows
    (match failure with
      | none => .ok rows.length
      | some reason => .error reason, .list elements)
  | _, .list items => (.ok 0, .list items)
  | _, .holder type content =>
    match rows with
    | [] => (.ok 0, .holder type .null)
    | row :: _ =>
      match (do validate schema type (← firstValue row) : Except Error Value) with
      | .ok value => (.ok 1, .holder type value)
      | .error reason => (.error reason, .holder type content)
  | _, .mapping _ =>
    match rows with
    | [] => (.ok 0, .mapping [])
    | row :: _ => (.ok 1, .mapping (rowMapping columns row))
  | _, .record name fields =>
    match rows with
    | [] => (.ok 0, .record name fields)
    | row :: _ =>
      match loadRecord schema name fields columns row with
      | .ok loaded => (.ok 1, .record name loaded)
      | .error reason => (.error reason, .record name fields)
  | _, .expression expression =>
    match rows with
    | [] => (.ok 0, .expression expression)
    | row :: _ =>
      match loadRecord (expression.recordType :: schema) expression.kindName expression.fields
          columns row with
      | .ok loaded => (.ok 1, .expression (expression.ofFields loaded))
      | .error reason => (.error reason, .expression expression)
  | _, .builder number fields changes =>
    match rows with
    | [] => (.ok 0, .builder number fields changes)
    | row :: _ =>
      match loadRecord (Builder.recordTypes ++ schema) "Builder" fields columns row with
      | .ok loaded =>
        let names := touchedFields (Builder.recordTypes.columnPaths "Builder" columns)
        (.ok 1, .builder number loaded (loaded.filter fun field => names.contains field.1))
      | .error reason => (.error reason, .builder number fields changes)

end Querywright
