import Querywright.Record.Schema

/-! Where the value of a result column goes. A field of the record type itself comes first, by
alias before name; then the nested record types are searched in the order of the fields. A type
is not entered again below the point where it was left. -/
namespace Querywright

/-- Field names with their input keys, from the outermost record type inwards. -/
abbrev Path := List (String × String)

namespace Path

def keys (path : Path) : List String :=
  path.map (·.2)

end Path

namespace RecordType

def ownField? (type : RecordType) (column : String) : Option FieldRule :=
  (type.openFields.find? (·.matchesAlias column)).or
    (type.openFields.find? (·.name == column))

end RecordType

namespace Schema

def names (schema : Schema) : List String :=
  schema.map (·.name)

/-- How many record types are still unseen, counted with multiplicity. -/
def unseen (schema : Schema) (seen : List String) : Nat :=
  schema.names.countP fun name => !seen.contains name

/-- Shrinks with each step of a search: either a type becomes seen, or a seen one gives way to
one that is not. -/
def remaining (schema : Schema) (name : String) (seen : List String) : Nat :=
  2 * schema.unseen seen + (if seen.contains name then 1 else 0)

theorem unseen_of_unseen_cons {seen : List String} {name other : String}
    (fresh : (!(name :: seen).contains other) = true) : (!seen.contains other) = true := by
  simp only [List.contains_cons] at fresh
  cases visited : seen.contains other with
  | false => rfl
  | true =>
    rw [visited, Bool.or_true] at fresh
    exact absurd fresh (by decide)

theorem countP_cons_seen_le (names seen : List String) (name : String) :
    names.countP (fun other => !(name :: seen).contains other) ≤
      names.countP (fun other => !seen.contains other) :=
  List.countP_mono_left fun _ _ fresh => unseen_of_unseen_cons fresh

theorem countP_cons_seen_lt (names seen : List String) (name : String) (member : name ∈ names)
    (fresh : seen.contains name = false) :
    names.countP (fun other => !(name :: seen).contains other) <
      names.countP (fun other => !seen.contains other) := by
  induction names with
  | nil => simp at member
  | cons head tail ih =>
    rw [List.countP_cons, List.countP_cons]
    rcases List.mem_cons.mp member with same | below
    · subst same
      have rest := countP_cons_seen_le tail seen name
      have entered : (!(name :: seen).contains name) = false := by simp
      rw [if_neg (by rw [entered]; exact Bool.false_ne_true), if_pos (by rw [fresh]; rfl)]
      omega
    · have rest := ih below
      by_cases left : (!(name :: seen).contains head) = true
      · rw [if_pos left, if_pos (unseen_of_unseen_cons left)]
        omega
      · rw [if_neg left]
        omega

theorem name_mem_of_find? {schema : Schema} {name : String} {type : RecordType}
    (found : schema.find? name = some type) : name ∈ schema.names := by
  unfold find? at found
  have member := List.mem_of_find?_eq_some found
  have same : type.name = name := by simpa using List.find?_some found
  exact List.mem_map.mpr ⟨type, member, same⟩

theorem remaining_lt {schema : Schema} {name nested : String} {seen : List String}
    {type : RecordType} (found : schema.find? name = some type)
    (fresh : seen.contains nested = false) :
    schema.remaining nested (name :: seen) < schema.remaining name seen := by
  unfold remaining unseen
  cases visited : seen.contains name with
  | false =>
    have less := countP_cons_seen_lt schema.names seen name (name_mem_of_find? found) visited
    simp only [Bool.false_eq_true, if_false]
    split <;> omega
  | true =>
    have bound := countP_cons_seen_le schema.names seen name
    have other : (nested == name) = false := by
      cases equal : nested == name with
      | false => rfl
      | true =>
        rw [eq_of_beq equal] at fresh
        rw [fresh] at visited
        exact absurd visited (by decide)
    have stillFresh : (name :: seen).contains nested = false := by
      rw [List.contains_cons, other, fresh]
      rfl
    rw [if_neg (by rw [stillFresh]; exact Bool.false_ne_true), if_pos rfl]
    omega

/-- The path of a column from a record type, `seen` holding the types left on the way. -/
def findPath (schema : Schema) (name column : String) (seen : List String) : Option Path :=
  match _found : schema.find? name with
  | none => none
  | some type =>
    match type.ownField? column with
    | some rule => some [(rule.name, rule.inputKey)]
    | none =>
      type.openFields.findSome? fun rule =>
        match rule.type.record? with
        | none => none
        | some nested =>
          if _fresh : seen.contains nested = false then
            (findPath schema nested column (name :: seen)).map ((rule.name, rule.inputKey) :: ·)
          else none
termination_by schema.remaining name seen
decreasing_by exact remaining_lt _found _fresh

def columnPaths (schema : Schema) (name : String) (columns : List String) :
    List (Option Path) :=
  columns.map fun column => schema.findPath name column []

end Schema
end Querywright
