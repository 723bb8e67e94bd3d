import Querywright.Record.Schema
import Querywright.Value.Elements

/-! Expressions as records: the declared types of their fields, and the expression that new field
values make of an old one. -/
namespace Querywright

def FieldType.row : FieldType :=
  .rowOf .anything

/-- A text field that holds the given text unless told otherwise. -/
def FieldRule.textOr (name text : String) : FieldRule :=
  { name := name, type := .text, fallback := some (.text text) }

def FieldRule.row (name : String) : FieldRule :=
  { name := name, type := .row, fallback := some (.tuple []) }

def FieldRule.optionalText (name : String) : FieldRule :=
  { name := name, type := .optional .text, fallback := some .null }

def Condition.recordType : RecordType :=
  { name := "ConditionExpression"
    fields :=
      [{ name := "connector", type := .choice ["AND", "OR"], fallback := some (.text "AND") },
        { name := "kind", type := .choice ["raw", "column", "exists"]
          fallback := some (.text "column") },
        .textOr "raw" "", .row "raw_values", .textOr "column" "", .textOr "operator" "=",
        .row "operands"] }

def Order.recordType : RecordType :=
  { name := "OrderExpression"
    fields :=
      [{ name := "column", type := .text }, .optionalText "direction", .row "field_values"] }

def Subquery.recordType : RecordType :=
  { name := "SubQuery"
    fields :=
      [{ name := "builder", type := .anything }, .optionalText "alias", .optionalText "statement",
        .row "arguments"] }

def Expression.fieldRules : Expression → List FieldRule
  | .condition _ => Condition.recordType.fields
  | .order _ => Order.recordType.fields
  | .subquery _ => Subquery.recordType.fields
  | .base | .null => []
  | .literal _ => [{ name := "value", type := .anything }]
  | .function .. => [{ name := "template", type := .text }, .row "arguments"]
  | .timestamp .. | .patterned .. =>
    [{ name := "template", type := .text }, { name := "value", type := .anything }]

def Expression.recordType (expression : Expression) : RecordType :=
  { name := expression.kindName, fields := expression.fieldRules }

abbrev FieldValues := List (String × Value)

namespace FieldValues

def value (name : String) (fields : FieldValues) : Value :=
  (fields.lookup name).getD .null

def text (name : String) (fields : FieldValues) : String :=
  ((fields.value name).asText?).getD ""

def row (name : String) (fields : FieldValues) : List Value :=
  ((fields.value name).elements?).getD []

end FieldValues

def Condition.ofFields (fields : FieldValues) : Condition :=
  ⟨if fields.text "connector" == "OR" then .either else .both,
    .loose ((ConditionForm.ofName? (fields.text "kind")).getD .column) (fields.text "raw")
      (fields.row "raw_values") (fields.text "column") (fields.text "operator")
      (fields.row "operands")⟩

def Order.ofFields (fields : FieldValues) : Order :=
  ⟨fields.text "column", (fields.value "direction").asText?, fields.row "field_values"⟩

def Subquery.ofFields (fields : FieldValues) (subquery : Subquery) : Subquery :=
  { subquery with
    derivedName := (fields.value "alias").asText?
    recorded := (fields.value "statement").asText?.map fun text => (text, fields.row "arguments") }

def Expression.ofFields (fields : FieldValues) : Expression → Expression
  | .base => .base
  | .null => .null
  | .literal _ => .literal (fields.value "value")
  | .function .. => .function (fields.text "template") (fields.row "arguments")
  | .timestamp .. | .patterned .. => .patterned (fields.text "template") (fields.value "value")
  | .condition _ => .condition (Condition.ofFields fields)
  | .order _ => .order (Order.ofFields fields)
  | .subquery inner => .subquery (inner.ofFields fields)

end Querywright
