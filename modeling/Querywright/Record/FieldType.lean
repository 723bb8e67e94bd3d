/-! The types that a record field, a holder or the elements of a list may be declared with. -/
namespace Querywright

/-- How the alternatives of a union are written: behind a common name, or with bars between. -/
inductive UnionForm where
  | named
  | barred
deriving DecidableEq, Repr, Inhabited

/-- Rows are of any length, and a choice is among texts. -/
inductive FieldType where
  | integer
  | text
  | decimal
  | truth
  | octets
  | anything
  | mapping
  | sequence
  | absent
  | choice (options : List String)
  | record (name : String)
  | listOf (element : FieldType)
  | rowOf (element : FieldType)
  | union (form : UnionForm) (branches : List FieldType)
deriving Repr, Inhabited

namespace FieldType

def named : List (String × FieldType) :=
  [("int", .integer), ("str", .text), ("float", .decimal), ("bool", .truth), ("bytes", .octets),
    ("Any", .anything), ("object", .anything), ("dict", .mapping), ("list", .sequence),
    ("None", .absent)]

def ofName? (name : String) : Option FieldType :=
  named.lookup name

mutual
def same : FieldType → FieldType → Bool
  | .integer, .integer | .text, .text | .decimal, .decimal | .truth, .truth
  | .octets, .octets | .anything, .anything | .mapping, .mapping
  | .sequence, .sequence | .absent, .absent => true
  | .choice left, .choice right => left == right
  | .record left, .record right => left == right
  | .listOf left, .listOf right | .rowOf left, .rowOf right => left.same right
  | .union _ left, .union _ right => sameAll left right
  | _, _ => false

def sameAll : List FieldType → List FieldType → Bool
  | [], [] => true
  | left :: lefts, right :: rights => left.same right && sameAll lefts rights
  | _, _ => false
end

def optional (type : FieldType) : FieldType :=
  .union .named [type, .absent]

mutual
def alternatives : FieldType → List FieldType
  | .union _ branches => alternativesOfAll branches
  | type => [type]

def alternativesOfAll : List FieldType → List FieldType
  | [] => []
  | branch :: rest => branch.alternatives ++ alternativesOfAll rest
end

def withoutRepeats : List FieldType → List FieldType
  | [] => []
  | type :: rest => type :: (withoutRepeats rest).filter fun other => !type.same other

def isAbsent : FieldType → Bool
  | .absent => true
  | _ => false

/-- A union of one alternative is that alternative. -/
def reduced (type : FieldType) : FieldType :=
  match withoutRepeats type.alternatives with
  | [alternative] => alternative
  | _ => type

def isAnything (type : FieldType) : Bool :=
  match type.reduced with
  | .anything => true
  | _ => false

/-- The distinct alternatives, the absent value left aside. -/
def branches (type : FieldType) : List FieldType :=
  (withoutRepeats type.alternatives).filter (!·.isAbsent)

def acceptsAbsent (type : FieldType) : Bool :=
  type.alternatives.any isAbsent

mutual

/-- A union is written with bars only if every union inside it is. -/
def isBarred : FieldType → Bool
  | .union .named _ => false
  | .union .barred branches => areBarred branches
  | _ => true

def areBarred : List FieldType → Bool
  | [] => true
  | type :: rest => type.isBarred && areBarred rest

end

/-- The one record type behind a type, an absent value being allowed beside it. -/
def record? (type : FieldType) : Option String :=
  match type.branches with
  | [.record name] => some name
  | _ => none

end FieldType
end Querywright
