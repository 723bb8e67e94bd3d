import Querywright.Record.Path
import Querywright.Error
import Querywright.Value.Elements

/-! Rows as nested mappings. The values of a row are written one after the other at the ends of
their paths; a record is written out as a mapping under its output keys; a new mapping is laid
over an old one key by key. -/
namespace Querywright

/-- Writes a value at the end of a row of keys, making mappings on the way where there is
nothing. Only a mapping can be entered or written to. -/
def assign (value : Value) : List String → Value → Except Error Value
  | [], _ => .ok value
  | [key], .mapping entries => .ok (.mapping (Entries.put (.text key) value entries))
  | [_], other => .error (.misuse (.unassignable other.kindName))
  | key :: rest, .mapping entries => do
    let inner ← assign value rest ((Entries.get? (.text key) entries).getD (.mapping []))
    return .mapping (Entries.put (.text key) inner entries)
  | _ :: _ :: _, _ => .error (.misuse (.noSuchOperation "setdefault"))

def assignAll : List (Option Path × Value) → Value → Except Error Value
  | [], data => .ok data
  | (none, _) :: rest, data => assignAll rest data
  | (some path, value) :: rest, data => do
    let extended ← assign value path.keys data
    assignAll rest extended

def assemble (paths : List (Option Path)) (row : List Value) : Except Error Value :=
  assignAll (paths.zip row) (.mapping [])

mutual

/-- Lays a value over what stands at its place; two mappings are merged. -/
def overlay (value : Value) (present : Option Value) : Value :=
  match value with
  | .mapping added =>
    match present with
    | some (.mapping entries) => .mapping (merge added entries)
    | _ => .mapping added
  | other => other

/-- Every entry of the first mapping laid over the second. -/
def merge (added : List (Value × Value)) (entries : Entries) : Entries :=
  match added with
  | [] => entries
  | (key, value) :: rest =>
    merge rest (Entries.put key (overlay value (Entries.get? key entries)) entries)

end

def conditionEntries (kind raw : String) (arguments : List Value) (column operator : String)
    (operands : List Value) : List (Value × Value) :=
  [(.text "kind", .text kind), (.text "raw", .text raw), (.text "raw_values", .tuple arguments),
    (.text "column", .text column), (.text "operator", .text operator),
    (.text "operands", .tuple operands)]

mutual

/-- Records inside a value written out as mappings, excluded fields left out; expressions are
written out with all their fields. -/
def written (schema : Schema) : Value → Value
  | .record name fields =>
    .mapping (Entries.ofPairs (writtenFields schema
      (((schema.find? name).map (·.fields)).getD []) fields))
  | .list items => .list (writtenAll schema items)
  | .tuple items => .tuple (writtenAll schema items)
  | .mapping entries => .mapping (writtenEntries schema entries)
  | .expression inner => writtenExpression schema inner
  | other => other

def writtenAll (schema : Schema) : List Value → List Value
  | [] => []
  | value :: rest => written schema value :: writtenAll schema rest

def writtenEntries (schema : Schema) : List (Value × Value) → List (Value × Value)
  | [] => []
  | (key, value) :: rest => (key, written schema value) :: writtenEntries schema rest

def writtenFields (schema : Schema) (rules : List FieldRule) :
    List (String × Value) → List (Value × Value)
  | [] => []
  | (name, value) :: rest =>
    let others := writtenFields schema rules rest
    match rules.find? (·.name == name) with
    | none => others
    | some rule =>
      if rule.excluded then others
      else (.text rule.outputKey, written schema value) :: others

def writtenExpression (schema : Schema) : Expression → Value
  | .base | .null => .mapping []
  | .literal value => .mapping [(.text "value", written schema value)]
  | .function template arguments =>
    .mapping [(.text "template", .text template),
      (.text "arguments", .tuple (writtenAll schema arguments))]
  | .timestamp part value =>
    .mapping [(.text "template", .text part.template), (.text "value", written schema value)]
  | .patterned pattern value =>
    .mapping [(.text "template", .text pattern), (.text "value", written schema value)]
  | .condition ⟨connector, body⟩ =>
    .mapping ((.text "connector", .text connector.text) :: writtenBody schema body)
  | .order ⟨column, direction, ranking⟩ =>
    .mapping [(.text "column", .text column), (.text "direction", .ofText? direction),
      (.text "field_values", .tuple (writtenAll schema ranking))]
  | .subquery inner => .mapping (inner.fields.map fun (name, value) => (.text name, value))

def writtenExpressions (schema : Schema) : List Expression → List Value
  | [] => []
  | expression :: rest => writtenExpression schema expression :: writtenExpressions schema rest

def writtenBody (schema : Schema) : ConditionBody → List (Value × Value)
  | .raw text arguments =>
    conditionEntries "raw" text (writtenAll schema arguments) "" "=" []
  | .comparison column operator operand =>
    conditionEntries "column" "" [] column operator [writtenExpression schema operand]
  | .range column negated low high =>
    conditionEntries "column" "" [] column (rangeOperator negated)
      [writtenExpression schema low, writtenExpression schema high]
  | .membership column negated operands =>
    conditionEntries "column" "" [] column (membershipOperator negated)
      (writtenExpressions schema operands)
  | .existence negated subquery =>
    conditionEntries "exists" "" [] "" (existenceOperator negated)
      [.mapping (subquery.fields.map fun (name, value) => (.text name, value))]
  | .loose form text rawArguments column operator operands =>
    conditionEntries form.name text (writtenAll schema rawArguments) column operator
      (writtenAll schema operands)

end
end Querywright
