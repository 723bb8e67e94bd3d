import Querywright.Expression.Parts
import Querywright.Value.Items

/-! Gathering clauses. Every call gives the clauses with its own part added or tells why it is
refused; query options are taken one by one, so those before a refused one stay. -/
namespace Querywright

def JoinTarget.ofValue (value : Value) : Except Error JoinTarget :=
  match value with
  | .expression (.subquery subquery) =>
    if (subquery.derivedName.getD "").isEmpty then .error .subqueryWithoutAlias
    else .ok (.derived subquery)
  | .text name =>
    if Text.isBlankText name then .error (.invalidJoinTarget value.shown) else .ok (.table name)
  | _ => .error (.invalidJoinTarget value.shown)

def JoinDirection.ofValue (value : Value) : Except Error JoinDirection :=
  let direction := (value.asText?.map Text.keyword).getD ""
  match JoinDirection.ofText? direction with
  | some found => .ok found
  | none => .error (.invalidJoinDirection direction)

/-- The base condition of a join; whatever counts as false stands for none. -/
def joinConditionOf (value : Value) : Except Error String :=
  if value.isTrue then (invalidOr (fitNamed "condition" .text value)).map Value.plain else .ok ""

/-- A join on a known key takes the place of the earlier one. -/
def Join.insert (join : Join) : List Join → List Join
  | [] => [join]
  | other :: rest =>
    if other.target.key == join.target.key then join :: rest else other :: join.insert rest

def joinKeyOf (value : Value) : Option String :=
  match value with
  | .expression (.subquery subquery) => subquery.derivedName
  | .text name => some name
  | _ => none

def shownJoinKey (value : Value) : String :=
  match value with
  | .expression (.subquery subquery) => subquery.derivedName.getD "None"
  | _ => value.plain

def isBlankOctet (octet : UInt8) : Bool :=
  octet == 0x20 || (0x9 ≤ octet && octet ≤ 0xD)

def orderDirectionOf (value : Value) : Except Error (Option String) :=
  match value with
  | .null => .ok none
  | .text direction =>
    let keyword := Text.keyword direction
    if keyword == "ASC" || keyword == "DESC" then .ok (some keyword)
    else .error (.invalidOrderDirection keyword)
  | .octets octets =>
    if octets.all isBlankOctet then .error (.invalidOrderDirection "")
    else .error (.misuse (.notText "bytes"))
  | _ => .error (.misuse (.noSuchOperation "upper"))

def isCount (value : Value) : Bool :=
  match value with
  | .integer number => 0 ≤ number
  | _ => false

def queryOption? (value : Value) : Option String :=
  (value.asText?.map Text.keyword).filter fun option =>
    leadingOptions.contains option || trailingOptions.contains option

namespace Clauses

def table (names : List Value) (clauses : Clauses) : Clauses :=
  { clauses with tables := names }

def restrict (connector : Connector) (arguments : List Value) (clauses : Clauses) :
    Except Error Clauses := do
  let condition ← Condition.build connector arguments
  return { clauses with conditions := clauses.conditions ++ [condition] }

def restrictGroups (connector : Connector) (arguments : List Value) (clauses : Clauses) :
    Except Error Clauses := do
  let condition ← Condition.build connector arguments
  return { clauses with groupConditions := clauses.groupConditions ++ [condition] }

def join (target condition direction : Value) (clauses : Clauses) : Except Error Clauses := do
  let direction ← JoinDirection.ofValue direction
  let target ← JoinTarget.ofValue target
  let condition ← joinConditionOf condition
  return { clauses with joins := Join.insert ⟨direction, target, condition, []⟩ clauses.joins }

def findJoin? (target : Value) (clauses : Clauses) : Option Join :=
  (joinKeyOf target).bind fun key => clauses.joins.find? (·.target.key == some key)

def restrictJoin (connector : Connector) (target : Value) (arguments : List Value)
    (clauses : Clauses) : Except Error Clauses := do
  match clauses.findJoin? target with
  | none => .error (.joinNotFound (shownJoinKey target))
  | some found =>
    let condition ← Condition.build connector arguments
    let extended := { found with conditions := found.conditions ++ [condition] }
    return { clauses with joins := extended.insert clauses.joins }

def orderBy (column direction : Value) (ranking : List Value) (clauses : Clauses) :
    Except Error Clauses := do
  match column with
  | .text name =>
    if Text.isBlankText name then .error (.invalidOrderColumn column.shown)
    else
      let direction ← orderDirectionOf direction
      return { clauses with orders := clauses.orders ++ [⟨name, direction, ranking⟩] }
  | _ => .error (.invalidOrderColumn column.shown)

def groupBy (columns : List Value) (clauses : Clauses) : Clauses :=
  { clauses with groups := clauses.groups ++ columns }

def limitTo (values : List Value) (clauses : Clauses) : Except Error Clauses :=
  if (values.length == 1 || values.length == 2) && values.all isCount then
    .ok { clauses with limit := values }
  else .error (.invalidLimit (Value.tuple values).shown)

def onDuplicate (columns insertIdColumn : Value) (clauses : Clauses) : Except Error Clauses := do
  let names ← columns.items
  return { clauses with
    upsertColumns := names
    insertIdColumn := match insertIdColumn with
      | .null => none
      | column => some column }

def addOption (option : Value) (clauses : Clauses) : Except Error Clauses :=
  match queryOption? option with
  | none => .error (.unknownOption option.plain)
  | some keyword =>
    if clauses.options.contains keyword then .ok clauses
    else .ok { clauses with options := clauses.options ++ [keyword] }

/-- Options up to the first unknown one are added; that one is the reason given. -/
def addOptions : List Value → Clauses → Except Error Unit × Clauses
  | [], clauses => (.ok (), clauses)
  | option :: rest, clauses =>
    match clauses.addOption option with
    | .error reason => (.error reason, clauses)
    | .ok extended => addOptions rest extended

def requestTotal (clauses : Clauses) : Clauses :=
  { clauses with totalRequested := true }

end Clauses
end Querywright
