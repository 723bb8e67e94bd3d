import Querywright.Outline

/-! What a value can be taken apart into. Expressions and records have fields; going through one of
them gives a row of name and value for each field. Texts give their characters, octets their
numbers, mappings their keys. -/
namespace Querywright

def Condition.fields (condition : Condition) : List (String × Value) :=
  let body := condition.body
  [("connector", .text condition.connector.text), ("kind", .text body.form.name),
    ("raw", .text body.rawText), ("raw_values", .tuple body.rawArguments),
    ("column", .text body.column), ("operator", .text body.operator),
    ("operands", .tuple body.operands)]

def Order.fields (order : Order) : List (String × Value) :=
  [("column", .text order.column), ("direction", .ofText? order.direction),
    ("field_values", .tuple order.ranking)]

def Subquery.fields (subquery : Subquery) : List (String × Value) :=
  [("builder", subquery.builder),
    ("alias", .ofText? subquery.derivedName),
    ("statement", .ofText? (subquery.recorded.map (·.1))),
    ("arguments", .tuple ((subquery.recorded.map (·.2)).getD []))]

/-- What a comparison of a part writes, around the column that is still open. -/
def TimePart.template (part : TimePart) : String :=
  part.function ++ "(FROM_UNIXTIME(\x7bcolumn\x7d)) = ?"

def Expression.fields : Expression → List (String × Value)
  | .base | .null => []
  | .literal value => [("value", value)]
  | .function template arguments => [("template", .text template), ("arguments", .tuple arguments)]
  | .timestamp part value => [("template", .text part.template), ("value", value)]
  | .patterned pattern value => [("template", .text pattern), ("value", value)]
  | .condition inner => inner.fields
  | .order inner => inner.fields
  | .subquery inner => inner.fields

def fieldRow (field : String × Value) : Value :=
  .tuple [.text field.1, field.2]

/-- The elements that going through a value yields, for the values that allow it. -/
def Value.elements? : Value → Option (List Value)
  | .list items | .tuple items | .set _ items => some items
  | .text value => some (value.toList.map fun character => .text character.toString)
  | .octets value => some (value.map fun octet => .integer octet.toNat)
  | .mapping entries => some (entries.map (·.1))
  | .record _ fields => some (fields.map fieldRow)
  | .expression inner => some (inner.fields.map fieldRow)
  | .thing _ [] _ _ _ => none
  | .thing _ fields _ _ _ => some (fields.map fieldRow)
  | .declared type =>
    match type.reduced with
    | .listOf element => some [.declared (.listOf element)]
    | _ => none
  | _ => none

end Querywright
