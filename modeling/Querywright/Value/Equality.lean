import Querywright.Expression
import Querywright.Number.Dyadic

/-! When two values are one key of a mapping. Numbers are one key when they are equal, whatever
their kinds; text, octets and rows are compared by content. -/
namespace Querywright

/-- A number as a sign, a natural and a power of two, where it is finite. -/
def Value.number? : Value → Option (Int × Int)
  | .integer value => some (value, 0)
  | .truth value => some (if value then 1 else 0, 0)
  | .decimal value =>
    match Number.reading value with
    | .finite negative size =>
      some (if negative then -(size.coefficient : Int) else size.coefficient, size.exponent)
    | _ => none
  | _ => none

def equalNumbers (left right : Int × Int) : Bool :=
  let least := min left.2 right.2
  left.1 <<< (left.2 - least).toNat == right.1 <<< (right.2 - least).toNat

mutual

def Value.sameKey : Value → Value → Bool
  | .null, .null => true
  | .text left, .text right => left == right
  | .octets left, .octets right => left == right
  | .tuple left, .tuple right => Value.sameKeys left right
  | .set _ left, .set _ right => Value.sameKeys left right
  | .decimal left, .decimal right => left == right
  | .supplier left, .supplier right => left == right
  | .connection left, .connection right => left == right
  | .declared left, .declared right => left.reduced.same right.reduced
  | left, right =>
    match left.number?, right.number? with
    | some first, some second => equalNumbers first second
    | _, _ => false

def Value.sameKeys : List Value → List Value → Bool
  | [], [] => true
  | left :: lefts, right :: rights => left.sameKey right && Value.sameKeys lefts rights
  | _, _ => false

end

mutual

/-- Whether a value can be a key or a member of a set. -/
def Value.isHashable : Value → Bool
  | .list _ | .mapping _ | .record .. | .expression _ | .shared _ => false
  | .thing kind .. => kind != "Builder" && kind != "ExecutionResult"
  | .set frozen _ => frozen
  | .tuple items => Value.areHashable items
  | _ => true

def Value.areHashable : List Value → Bool
  | [] => true
  | value :: rest => value.isHashable && Value.areHashable rest

end

abbrev Entries := List (Value × Value)

namespace Entries

variable {α : Type}

def get? (key : Value) : List (Value × α) → Option α
  | [] => none
  | (other, value) :: rest => if other.sameKey key then some value else get? key rest

/-- Writes a value under a key; a known key keeps its place and its first spelling. -/
def put (key : Value) (value : α) : List (Value × α) → List (Value × α)
  | [] => [(key, value)]
  | (other, old) :: rest =>
    if other.sameKey key then (other, value) :: rest else (other, old) :: put key value rest

def erase (key : Value) (entries : List (Value × α)) : List (Value × α) :=
  entries.filter fun entry => !entry.1.sameKey key

def ofPairs (pairs : List (Value × Value)) : Entries :=
  pairs.foldl (fun entries (key, value) => put key value entries) []

end Entries
end Querywright
