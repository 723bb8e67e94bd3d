import Querywright.Expression

/-! Record types: named fields with aliases, defaults and exclusions. A schema is a finite list of
record types that may refer to one another and to themselves by name. -/
namespace Querywright

/-- The name or names that a field is read under when they are not its own. -/
inductive ReadingAlias where
  | name (name : String)
  | choices (aliases : List String)
deriving DecidableEq, Repr

structure FieldRule where
  name : String
  type : FieldType
  otherName : Option String := none
  ownReadingAlias : Option ReadingAlias := none
  excluded : Bool := false
  fallback : Option Value := none

namespace FieldRule

/-- An alias is also read under unless a reading alias is declared. -/
def readingAlias (rule : FieldRule) : Option ReadingAlias :=
  match rule.ownReadingAlias with
  | some declared => some declared
  | none => rule.otherName.map .name

/-- The key under which the value of the field is handed over. -/
def inputKey (rule : FieldRule) : String :=
  match rule.readingAlias with
  | some (.name name) => name
  | _ =>
    match rule.otherName with
    | some otherName => if otherName.isEmpty then rule.name else otherName
    | none => rule.name

def outputKey (rule : FieldRule) : String :=
  rule.otherName.getD rule.name

/-- The keys tried in turn when the field is read, the first naming it in complaints. -/
def readingKeys (byName : Bool) (rule : FieldRule) : List String :=
  let aliases := match rule.readingAlias with
    | none => [rule.name]
    | some (.name name) => [name]
    | some (.choices aliases) => aliases
  if byName && !aliases.contains rule.name then aliases ++ [rule.name] else aliases

def matchesAlias (column : String) (rule : FieldRule) : Bool :=
  rule.otherName == some column || rule.readingAlias == some (.name column)

end FieldRule

structure RecordType where
  name : String
  frozen : Bool := false
  byName : Bool := false
  fields : List FieldRule

abbrev Schema := List RecordType

namespace Schema

def find? (schema : Schema) (name : String) : Option RecordType :=
  List.find? (fun type => type.name == name) schema

def isFrozen (schema : Schema) (name : String) : Bool :=
  ((schema.find? name).map (·.frozen)).getD false

end Schema

def RecordType.openFields (type : RecordType) : List FieldRule :=
  type.fields.filter (!·.excluded)

end Querywright
