import Querywright.Proofs.AssembledRows
import Mathlib.Data.List.ReduceOption

/-! What is found in an assembled row at any depth, under keys of any kind. Where no path goes on
behind the end of another, each path leads to the last value that was written at its end, and there
is no other leaf than those values and what they hold. -/
namespace Querywright

theorem Value.eq_text_of_sameKey {text : String} {key : Value}
    (same : (Value.text text).sameKey key = true) : key = .text text := by
  cases key with
  | text other => rw [eq_of_beq ((Value.sameKey_text text other).symm.trans same)]
  | _ => simp [Value.sameKey, Value.number?] at same

/-- What stands in nested mappings at the end of a row of keys of any kind. -/
def reach : List Value → Value → Option Value
  | [], value => some value
  | key :: rest, .mapping entries => (Entries.get? key entries).bind (reach rest)
  | _ :: _, _ => none

theorem reach_cons {key : Value} {rest : List Value} {data value : Value}
    (there : reach (key :: rest) data = some value) :
    ∃ entries inner, data = .mapping entries ∧ Entries.get? key entries = some inner ∧
      reach rest inner = some value := by
  cases data with
  | mapping entries =>
    obtain ⟨inner, found, there⟩ := Option.bind_eq_some_iff.mp there
    exact ⟨entries, inner, rfl, found, there⟩
  | _ => cases there

theorem reach_texts (keys : List String) (rest : List Value) (data : Value) :
    reach (keys.map .text ++ rest) data = (dig keys data).bind (reach rest) := by
  induction keys generalizing data with
  | nil => rfl
  | cons key keys ih =>
    cases data with
    | mapping entries =>
      rw [List.map_cons, List.cons_append, reach, dig, Option.bind_assoc]
      exact congrArg _ (funext fun inner => ih inner)
    | _ => rfl

theorem reach_map_text (keys : List String) (data : Value) :
    reach (keys.map .text) data = dig keys data := by
  have whole := reach_texts keys [] data
  rw [List.append_nil] at whole
  rw [whole]
  cases dig keys data <;> rfl

namespace Entries

/-- All keys are texts. -/
def AreNamed (entries : Entries) : Prop :=
  ∀ entry ∈ entries, ∃ name, entry.1 = .text name

theorem AreNamed.key {entries : Entries} (named : AreNamed entries) {key value : Value}
    (found : get? key entries = some value) : ∃ name, key = .text name := by
  induction entries with
  | nil => cases found
  | cons entry rest ih =>
    unfold get? at found
    split at found
    · rename_i same
      obtain ⟨name, text⟩ := named entry List.mem_cons_self
      rw [show entry.1 = .text name from text] at same
      exact ⟨name, Value.eq_text_of_sameKey same⟩
    · exact ih (fun entry inside => named entry (List.mem_cons_of_mem _ inside)) found

theorem AreNamed.put {entries : Entries} (named : AreNamed entries) (name : String)
    (value : Value) : AreNamed (Entries.put (.text name) value entries) := by
  intro entry member
  obtain same | ⟨old, inside, same⟩ := put_keys member
  · exact ⟨name, same⟩
  · rw [← same]
    exact named old inside

end Entries

/-- Mappings made on the way to what has been written have texts for their keys. -/
def AreNamedOnWay (written : List (List String)) (data : Value) : Prop :=
  ∀ keys entries, dig keys data = some (.mapping entries) →
    (∃ path ∈ written, path <+: keys) ∨ Entries.AreNamed entries

namespace AreNamedOnWay

variable {written more : List (List String)} {path : List String} {data extended value : Value}

theorem empty : AreNamedOnWay [] (.mapping []) := by
  intro keys entries there
  cases keys with
  | nil =>
    cases there
    exact .inr fun _ none => absurd none List.not_mem_nil
  | cons => cases there

theorem mono (named : AreNamedOnWay written data) (inside : ∀ path ∈ written, path ∈ more) :
    AreNamedOnWay more data := by
  intro keys entries there
  refine (named keys entries there).imp ?_ id
  rintro ⟨path, member, below⟩
  exact ⟨path, inside path member, below⟩

theorem assign (named : AreNamedOnWay written data)
    (ok : Querywright.assign value path data = .ok extended) :
    AreNamedOnWay (path :: written) extended := by
  intro keys entries there
  obtain below | ⟨key, rest, rfl⟩ | apart := Apart.cases_on path keys
  · exact .inl ⟨path, List.mem_cons_self, below⟩
  · obtain ⟨old, inner, known, new⟩ := dig_assign_above ok
    rw [new] at there
    cases there
    obtain known | rfl := known
    · obtain ⟨path, member, below⟩ | names := named keys old known
      · exact .inl ⟨path, List.mem_cons_of_mem _ member, below⟩
      · exact .inr (names.put key inner)
    · exact .inr (Entries.AreNamed.put (fun _ none => absurd none List.not_mem_nil) key inner)
  · rw [dig_assign_apart ok apart] at there
    exact (named.mono fun _ => List.mem_cons_of_mem _) keys entries there

/-- A row of keys goes on behind the end of what has been written, or all its keys are texts. -/
theorem reached (named : AreNamedOnWay written data) {above : List String} {keys : List Value}
    {node : Value} (found : dig above data = some node) (there : reach keys node = some value)
    (outside : ∀ path ∈ written, ¬path <+: above) :
    (∃ path ∈ written, ∃ rest, above.map .text ++ keys = path.map .text ++ rest) ∨
      ∃ names : List String, keys = names.map .text := by
  induction keys generalizing above node with
  | nil => exact .inr ⟨[], rfl⟩
  | cons key rest ih =>
    obtain ⟨entries, inner, rfl, present, later⟩ := reach_cons there
    have names : Entries.AreNamed entries := (named above entries found).resolve_left
      fun ⟨path, member, below⟩ => outside path member below
    obtain ⟨name, rfl⟩ := names.key present
    have onward : above.map .text ++ .text name :: rest = (above ++ [name]).map .text ++ rest := by
      simp
    by_cases arrived : ∃ path ∈ written, path <+: above ++ [name]
    · obtain ⟨path, member, further, same⟩ := arrived
      refine .inl ⟨path, member, further.map .text ++ rest, ?_⟩
      rw [onward, ← same, List.map_append, List.append_assoc]
    · rw [onward]
      obtain below | ⟨names, rfl⟩ := ih ((dig_entry found name).trans present) later
        fun path member below => arrived ⟨path, member, below⟩
      · exact .inl below
      · exact .inr ⟨name :: names, rfl⟩

end AreNamedOnWay

/-- Anything but a mapping with something in it. -/
def Value.IsLeaf (value : Value) : Prop :=
  ∀ entries, value = .mapping entries → entries = []

section Leaves

variable {pairs : List (Option Path × Value)} {data value : Value} {keys : List Value}

theorem assignAll_named (ok : assignAll pairs (.mapping []) = .ok data) :
    AreNamedOnWay (endsOf pairs) data := by
  have named : AreNamedOnWay (endsOf pairs ++ []) data :=
    assignAll_keeps (fun named => named.mono) (fun named => named.assign) AreNamedOnWay.empty ok
  rwa [List.append_nil] at named

/-- A leaf below the top of assembled pairs is the last value at the end of a path, or stands in
it. -/
theorem leaf_cases (ok : assignAll pairs (.mapping []) = .ok data) (ends : AreEnds (endsOf pairs))
    (full : [] ∉ endsOf pairs) (there : reach keys data = some value) (below : keys ≠ [])
    (leaf : value.IsLeaf) :
    ∃ path held rest, path ∈ endsOf pairs ∧ IsLast pairs path held ∧
      keys = path.map .text ++ rest ∧ reach rest held = some value := by
  have inside {path : List String} {rest : List Value} (member : path ∈ endsOf pairs)
      (split : keys = path.map .text ++ rest) :
      ∃ held, IsLast pairs path held ∧ reach rest held = some value := by
    obtain ⟨held, last⟩ := exists_isLast member
    rw [split, reach_texts, dig_assignAll_last ok ends last] at there
    exact ⟨held, last, there⟩
  have grown := grown_assignAll ok
  have named := assignAll_named ok
  have top : dig [] data = some data := rfl
  obtain ⟨path, member, rest, split⟩ | ⟨names, rfl⟩ := named.reached top there
    fun path member none => full (List.prefix_nil.mp none ▸ member)
  · obtain ⟨held, last, found⟩ := inside member split
    exact ⟨path, held, rest, member, last, split, found⟩
  · have found : dig names data = some value := (reach_map_text names data).symm.trans there
    obtain ⟨path, member, rest, rfl⟩ | ⟨entries, rfl, -, nothing | ⟨path, member, onWay⟩⟩ :=
      grown.reached names value found
    · obtain ⟨held, last, found⟩ := inside member (List.map_append ..)
      exact ⟨path, held, rest.map .text, member, last, List.map_append .., found⟩
    · exact absurd (congrArg (List.map Value.text) nothing) below
    · -- A mapping on the way to an end is no leaf, unless it stands at that end.
      obtain rfl : entries = [] := leaf entries rfl
      obtain ⟨rest, rfl⟩ := onWay
      obtain ⟨held, last⟩ := exists_isLast member
      have arrived := dig_assignAll_last ok ends last
      rw [dig_append, found, Option.bind_some] at arrived
      cases rest with
      | nil =>
        rw [List.append_nil] at member last
        cases arrived
        exact ⟨names, _, [], member, last, (List.append_nil _).symm, rfl⟩
      | cons => cases arrived

end Leaves

theorem mem_endsOf_long {paths : List (Option Path)} {row : List Value}
    (long : paths.length ≤ row.length) {keys : List String} :
    keys ∈ endsOf (paths.zip row) ↔ ∃ path, some path ∈ paths ∧ path.keys = keys := by
  constructor
  · intro member
    obtain ⟨path, value, inside, same⟩ := mem_endsOf.mp member
    exact ⟨path, (List.of_mem_zip inside).1, same⟩
  · rintro ⟨path, member, rfl⟩
    obtain ⟨position, inside, same⟩ := List.mem_iff_getElem.mp member
    refine mem_endsOf.mpr ⟨path, row[position], List.mem_iff_getElem.mpr ?_, rfl⟩
    exact ⟨position, by simp; omega, by rw [List.getElem_zip, same]⟩

/-- A row with a value for each path is assembled, where no path's keys go on behind those of
another. Each path, leading to a field, leads to the value of the last column with its keys, and
every leaf is such a value or stands in one. -/
theorem assembled_row_looked_up (paths : List (Option Path)) (row : List Value)
    (full : ∀ path, some path ∈ paths → path ≠ [])
    (ends : ∀ one other, some one ∈ paths → some other ∈ paths → one.keys <+: other.keys →
      one.keys = other.keys)
    (long : paths.length ≤ row.length) :
    ∃ entries, assemble paths row = .ok (.mapping entries) ∧
      (∀ path, some path ∈ paths → ∃ value, IsLast (paths.zip row) path.keys value ∧
        dig path.keys (.mapping entries) = some value) ∧
      ∀ keys value, reach keys (.mapping entries) = some value → keys ≠ [] → value.IsLeaf →
        ∃ path held rest, some path ∈ paths ∧ IsLast (paths.zip row) path.keys held ∧
          keys = path.keys.map .text ++ rest ∧ reach rest held = some value := by
  have apart : AreEnds (endsOf (paths.zip row)) := by
    intro one member other present
    obtain ⟨path, here, rfl⟩ := (mem_endsOf_long long).mp member
    obtain ⟨another, there, rfl⟩ := (mem_endsOf_long long).mp present
    refine or_iff_not_imp_left.mpr fun different => ⟨fun below => ?_, fun above => ?_⟩
    · exact different (ends path another here there below)
    · exact different (ends another path there here above).symm
  have stepped : [] ∉ endsOf (paths.zip row) := fun member => by
    obtain ⟨path, inside, none⟩ := (mem_endsOf_long long).mp member
    exact full path inside (List.map_eq_nil_iff.mp none)
  obtain ⟨data, ok⟩ := exists_assignAll apart
  obtain ⟨entries, rfl⟩ := assignAll_mapping ok stepped
  refine ⟨entries, ok, fun path member => ?_, fun keys value there below leaf => ?_⟩
  · obtain ⟨value, last⟩ := exists_isLast ((mem_endsOf_long long).mpr ⟨path, member, rfl⟩)
    exact ⟨value, last, dig_assignAll_last ok apart last⟩
  · obtain ⟨_, held, rest, member, last, split, found⟩ :=
      leaf_cases ok apart stepped there below leaf
    obtain ⟨path, inside, rfl⟩ := (mem_endsOf_long long).mp member
    exact ⟨path, held, rest, inside, last, split, found⟩

/-- Two paths share their first key, one goes nowhere, and two different fields have one key. -/
def sharedPaths : List (Option Path) :=
  [some [("home", "Home"), ("street", "Street")], some [("name", "Name")], none,
    some [("home", "Home"), ("town", "Town")], some [("title", "Name")]]

/-- The row has one value more than there are paths, and one value that is a mapping itself. -/
def sharedRow : List Value :=
  [.mapping [(.integer 7, .text "Elm")], .integer 1, .null, .text "Oslo", .text "Ann", .truth true]

example : assemble sharedPaths sharedRow = .ok (.mapping [(.text "Home", .mapping
    [(.text "Street", .mapping [(.integer 7, .text "Elm")]), (.text "Town", .text "Oslo")]),
    (.text "Name", .text "Ann")]) := rfl

theorem sharedRow_looked_up :
    (∀ path, some path ∈ sharedPaths → path ≠ []) ∧
      (∀ one other, some one ∈ sharedPaths → some other ∈ sharedPaths →
        one.keys <+: other.keys → one.keys = other.keys) ∧
      sharedPaths.length ≤ sharedRow.length ∧
      ∃ entries value, assemble sharedPaths sharedRow = .ok (.mapping entries) ∧
        IsLast (sharedPaths.zip sharedRow) ["Name"] value ∧
        dig ["Name"] (.mapping entries) = some value := by
  have full : ∀ path ∈ sharedPaths.reduceOption, path ≠ [] := by decide
  have ends : ∀ one ∈ sharedPaths.reduceOption, ∀ other ∈ sharedPaths.reduceOption,
      one.keys <+: other.keys → one.keys = other.keys := by decide
  have leading : ∀ path, some path ∈ sharedPaths → path ≠ [] := fun path member =>
    full path (List.reduceOption_mem_iff.mpr member)
  have apart : ∀ one other, some one ∈ sharedPaths → some other ∈ sharedPaths →
      one.keys <+: other.keys → one.keys = other.keys := fun one other here there =>
    ends one (List.reduceOption_mem_iff.mpr here) other (List.reduceOption_mem_iff.mpr there)
  obtain ⟨entries, ok, looked, -⟩ :=
    assembled_row_looked_up sharedPaths sharedRow leading apart (by decide)
  obtain ⟨value, last, held⟩ := looked [("name", "Name")] (by decide)
  exact ⟨leading, apart, by decide, entries, value, ok, last, held⟩

end Querywright
