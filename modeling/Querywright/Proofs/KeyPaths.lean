import Querywright.Proofs.KeyEquality
import Querywright.Proofs.Outcome
import Querywright.Record.Assembly

/-! Nested mappings read along rows of keys. A value written at the end of a row is found there and
leaves what is apart from it; a mapping laid over another is found where it has something, and the
other one elsewhere. -/
namespace Querywright

/-- Neither list starts with the other. -/
def Apart {α : Type} (one other : List α) : Prop :=
  ¬one <+: other ∧ ¬other <+: one

instance {α : Type} [DecidableEq α] (one other : List α) : Decidable (Apart one other) :=
  inferInstanceAs (Decidable (¬one <+: other ∧ ¬other <+: one))

namespace Apart

variable {α : Type} {one other : List α}

theorem symm (apart : Apart one other) : Apart other one :=
  ⟨apart.2, apart.1⟩

theorem not_nil (apart : Apart one other) : other ≠ [] := by
  rintro rfl
  exact apart.2 List.nil_prefix

theorem tail {first : α} (apart : Apart (first :: one) (first :: other)) : Apart one other :=
  ⟨fun inside => apart.1 (List.cons_prefix_cons.mpr ⟨rfl, inside⟩),
    fun inside => apart.2 (List.cons_prefix_cons.mpr ⟨rfl, inside⟩)⟩

/-- A list starts with another, is a part of its way, or is apart from it. -/
theorem cases_on (path keys : List α) :
    path <+: keys ∨ (∃ key rest, path = keys ++ key :: rest) ∨ Apart path keys := by
  by_cases below : path <+: keys
  · exact .inl below
  by_cases above : keys <+: path
  · obtain ⟨rest, rfl⟩ := above
    cases rest with
    | nil => exact absurd (by rw [List.append_nil]) below
    | cons key rest => exact .inr (.inl ⟨key, rest, rfl⟩)
  · exact .inr (.inr ⟨below, above⟩)

end Apart

@[simp] theorem Value.sameKey_text (key other : String) :
    (Value.text key).sameKey (.text other) = (key == other) := by
  simp [Value.sameKey]

namespace Entries

theorem get?_put_text (key : String) (value : Value) (other : String) (entries : Entries) :
    get? (.text other) (put (.text key) value entries) =
      if key = other then some value else get? (.text other) entries := by
  rw [get?_put, Value.sameKey_text]
  simp

/-- No two entries have one key. -/
def Distinct (entries : Entries) : Prop :=
  entries.Pairwise fun one other => one.1.sameKey other.1 = false

/-- An entry behind an insertion has the new key or one that was there. -/
theorem put_keys {key value : Value} {entries : Entries} {entry : Value × Value}
    (member : entry ∈ put key value entries) :
    entry.1 = key ∨ ∃ old ∈ entries, old.1 = entry.1 := by
  induction entries with
  | nil =>
    cases List.mem_singleton.mp member
    exact .inl rfl
  | cons first rest ih =>
    unfold put at member
    split at member
    · obtain rfl | later := List.mem_cons.mp member
      · exact .inr ⟨first, List.mem_cons_self, rfl⟩
      · exact .inr ⟨entry, List.mem_cons_of_mem _ later, rfl⟩
    · obtain rfl | later := List.mem_cons.mp member
      · exact .inr ⟨first, List.mem_cons_self, rfl⟩
      · obtain same | ⟨old, inside, same⟩ := ih later
        · exact .inl same
        · exact .inr ⟨old, List.mem_cons_of_mem _ inside, same⟩

theorem Distinct.put {entries : Entries} (distinct : Distinct entries) (key value : Value) :
    Distinct (Entries.put key value entries) := by
  induction entries with
  | nil => exact List.pairwise_singleton _ _
  | cons first rest ih =>
    obtain ⟨here, later⟩ := List.pairwise_cons.mp distinct
    unfold Entries.put
    split
    · exact List.pairwise_cons.mpr ⟨here, later⟩
    · rename_i fresh
      refine List.pairwise_cons.mpr ⟨fun entry member => ?_, ih later⟩
      obtain same | ⟨old, inside, same⟩ := put_keys member
      · rw [same]
        exact Bool.not_eq_true _ ▸ fresh
      · rw [← same]
        exact here old inside

theorem Distinct.tail_none {key value other : Value} {rest : Entries}
    (distinct : Distinct ((key, value) :: rest)) (same : key.sameKey other = true) :
    get? other rest = none := by
  induction rest with
  | nil => rfl
  | cons entry rest ih =>
    obtain ⟨here, later⟩ := List.pairwise_cons.mp distinct
    have fresh : ¬entry.1.sameKey other = true := fun known => by
      have apart := here entry List.mem_cons_self
      rw [Value.sameKey_trans same (Value.sameKey_symm known)] at apart
      cases apart
    rw [get?, if_neg fresh]
    exact ih (List.pairwise_cons.mpr
      ⟨fun other member => here other (List.mem_cons_of_mem _ member), later.tail⟩)

end Entries

/-- What is found where one mapping has been laid over another. -/
theorem get?_merge {added : Entries} (distinct : Entries.Distinct added) (entries : Entries)
    (key : Value) :
    Entries.get? key (merge added entries) = (Entries.get? key added).elim
      (Entries.get? key entries) fun value => some (overlay value (Entries.get? key entries)) := by
  induction added generalizing entries with
  | nil =>
    rw [merge, Entries.get?]
    rfl
  | cons entry rest ih =>
    obtain ⟨other, value⟩ := entry
    rw [merge, ih distinct.tail, Entries.get?_put, Entries.get?]
    by_cases same : other.sameKey key = true
    · rw [if_pos same, if_pos same, distinct.tail_none same, Entries.get?_congr same]
      rfl
    · rw [if_neg same, if_neg same]

theorem overlay_none (value : Value) : overlay value none = value := by
  cases value <;> simp [overlay]

theorem overlay_mapping (added entries : Entries) :
    overlay (.mapping added) (some (.mapping entries)) = .mapping (merge added entries) := by
  rw [overlay]

/-- A mapping stays as it is where there is no mapping below it. -/
theorem overlay_alone {added : Entries} {present : Option Value}
    (alone : ∀ entries, present ≠ some (.mapping entries)) :
    overlay (.mapping added) present = .mapping added := by
  unfold overlay
  split
  · rename_i entries
    exact absurd rfl (alone entries)
  · rfl

/-- Only a mapping over a mapping is not delivered as it is. -/
theorem overlay_unmixed {value : Value} {present : Option Value}
    (unmixed : ∀ added entries, value = .mapping added → present ≠ some (.mapping entries)) :
    overlay value present = value := by
  cases value with
  | mapping added => exact overlay_alone fun entries => unmixed added entries rfl
  | _ => simp [overlay]

theorem overlay_isMapping (added : Entries) (present : Option Value) :
    ∃ entries, overlay (.mapping added) present = .mapping entries := by
  unfold overlay
  split
  · exact ⟨_, rfl⟩
  · exact ⟨added, rfl⟩

/-- What stands in nested mappings at the end of a row of keys. -/
def dig : List String → Value → Option Value
  | [], value => some value
  | key :: rest, .mapping entries => (Entries.get? (.text key) entries).bind (dig rest)
  | _ :: _, _ => none

theorem dig_cons (key : String) (rest : List String) (value : Value) :
    dig (key :: rest) value = (dig [key] value).bind (dig rest) := by
  cases value <;> simp [dig]

theorem dig_beside {value : Value} (beside : ∀ entries, value ≠ .mapping entries) (key : String)
    (rest : List String) : dig (key :: rest) value = none := by
  cases value with
  | mapping entries => exact absurd rfl (beside entries)
  | _ => rfl

theorem dig_append (above keys : List String) (value : Value) :
    dig (above ++ keys) value = (dig above value).bind (dig keys) := by
  induction above generalizing value with
  | nil => rfl
  | cons key rest ih =>
    rw [List.cons_append, dig_cons, dig_cons key rest, Option.bind_assoc]
    exact congrArg _ (funext fun inner => ih inner)

theorem dig_key (key : String) (entries : Entries) :
    dig [key] (.mapping entries) = Entries.get? (.text key) entries := by
  simp [dig]

/-- The entry under one more key of a mapping on the way. -/
theorem dig_entry {above : List String} {value : Value} {entries : Entries}
    (node : dig above value = some (.mapping entries)) (key : String) :
    dig (above ++ [key]) value = Entries.get? (.text key) entries := by
  rw [dig_append, node, Option.bind_some, dig_key]

section Writing

variable {value data extended : Value}

/-- Writing behind a first key writes into what stands under it, or into an empty mapping. -/
theorem assign_cons {key : String} {rest : List String}
    (ok : assign value (key :: rest) data = .ok extended) :
    ∃ entries inner, data = .mapping entries ∧
      assign value rest ((Entries.get? (.text key) entries).getD (.mapping [])) = .ok inner ∧
      extended = .mapping (Entries.put (.text key) inner entries) := by
  cases rest with
  | nil =>
    cases data with
    | mapping entries => exact ⟨entries, value, rfl, rfl, (Except.ok.inj ok).symm⟩
    | _ => cases ok
  | cons next rest =>
    cases data with
    | mapping entries =>
      obtain ⟨inner, written, ok⟩ := bind_success ok
      exact ⟨entries, inner, rfl, written, (return_success ok).symm⟩
    | _ => cases ok

theorem assign_cons_mapping {key : String} {rest : List String} {entries : Entries}
    {inner : Value}
    (ok : assign value rest ((Entries.get? (.text key) entries).getD (.mapping [])) = .ok inner) :
    assign value (key :: rest) (.mapping entries) =
      .ok (.mapping (Entries.put (.text key) inner entries)) := by
  cases rest with
  | nil =>
    cases ok
    rfl
  | cons next rest =>
    simp only [assign]
    rw [ok]
    rfl

/-- Nothing but a mapping on the way keeps a value from being written. -/
theorem assign_success (path : List String) (data : Value)
    (enterable : ∀ above key rest, path = above ++ key :: rest → ∀ found,
      dig above data = some found → ∃ entries, found = .mapping entries) :
    ∃ extended, assign value path data = .ok extended := by
  induction path generalizing data with
  | nil => exact ⟨value, rfl⟩
  | cons key rest ih =>
    obtain ⟨entries, rfl⟩ := enterable [] key rest rfl data rfl
    obtain ⟨inner, written⟩ := ih ((Entries.get? (.text key) entries).getD (.mapping []))
      fun above next later split found reached => by
        cases present : Entries.get? (.text key) entries with
        | none =>
          rw [present] at reached
          cases above with
          | nil => exact ⟨[], (Option.some.inj reached).symm⟩
          | cons => simp [dig, Entries.get?] at reached
        | some inner =>
          rw [present] at reached
          refine enterable (key :: above) next later (by rw [split]; rfl) found ?_
          rw [dig, present]
          exact reached
    exact ⟨_, assign_cons_mapping written⟩

theorem dig_assign_self {path : List String} (ok : assign value path data = .ok extended) :
    dig path extended = some value := by
  induction path generalizing data extended with
  | nil =>
    cases ok
    rfl
  | cons key rest ih =>
    obtain ⟨entries, inner, rfl, written, rfl⟩ := assign_cons ok
    rw [dig, Entries.get?_put_text, if_pos rfl]
    exact ih written

theorem dig_assign_apart {path keys : List String} (ok : assign value path data = .ok extended)
    (apart : Apart path keys) : dig keys extended = dig keys data := by
  induction path generalizing data extended keys with
  | nil => exact absurd List.nil_prefix apart.1
  | cons key rest ih =>
    obtain ⟨entries, inner, rfl, written, rfl⟩ := assign_cons ok
    obtain _ | ⟨other, later⟩ := keys
    · exact absurd rfl apart.not_nil
    rw [dig, dig, Entries.get?_put_text]
    by_cases same : key = other
    · subst same
      rw [if_pos rfl, Option.bind_some, ih written apart.tail]
      cases Entries.get? (.text key) entries with
      | none =>
        obtain ⟨next, others, rfl⟩ := List.exists_cons_of_ne_nil apart.tail.not_nil
        rfl
      | some found => rfl
    · rw [if_neg same]

/-- A mapping on the way to what is written has one more entry, or its entry is changed. -/
theorem dig_assign_above {above rest : List String} {key : String}
    (ok : assign value (above ++ key :: rest) data = .ok extended) :
    ∃ entries inner, (dig above data = some (.mapping entries) ∨ entries = []) ∧
      dig above extended = some (.mapping (Entries.put (.text key) inner entries)) := by
  induction above generalizing data extended with
  | nil =>
    obtain ⟨entries, inner, rfl, -, rfl⟩ := assign_cons ok
    exact ⟨entries, inner, .inl rfl, rfl⟩
  | cons first above ih =>
    obtain ⟨entries, inner, rfl, written, rfl⟩ := assign_cons ok
    obtain ⟨below, more, old, new⟩ := ih written
    refine ⟨below, more, ?_, ?_⟩
    · rw [dig]
      cases present : Entries.get? (.text first) entries with
      | none =>
        rw [present] at old
        obtain found | rfl := old
        · cases above with
          | nil => exact .inr (Value.mapping.inj (Option.some.inj found)).symm
          | cons => cases found
        · exact .inr rfl
      | some inner =>
        rw [present] at old
        exact old
    · rw [dig, Entries.get?_put_text, if_pos rfl]
      exact new

end Writing

section Overlaying

variable {data value : Value}

/-- What stands in the upper value is laid over what stands there in the lower one, where the
mappings on the way have each key once. -/
theorem dig_overlay {keys : List String}
    (distinct : ∀ above rest, keys = above ++ rest → rest ≠ [] → ∀ entries,
      dig above data = some (.mapping entries) → Entries.Distinct entries)
    (there : dig keys data = some value) (present : Option Value) :
    dig keys (overlay data present) = some (overlay value (present.bind (dig keys))) := by
  induction keys generalizing data present with
  | nil =>
    cases there
    cases present <;> rfl
  | cons key rest ih =>
    cases data with
    | mapping entries =>
      rw [dig] at there
      obtain ⟨inner, found, there⟩ := Option.bind_eq_some_iff.mp there
      by_cases merged : ∃ old, present = some (.mapping old)
      · obtain ⟨old, rfl⟩ := merged
        have once := distinct [] (key :: rest) rfl (List.cons_ne_nil _ _) entries rfl
        rw [overlay_mapping, dig, get?_merge once, found]
        refine ih (fun above later split full below node => ?_) there _
        refine distinct (key :: above) later (by rw [split]; rfl) full below ?_
        rw [dig, found]
        exact node
      · have alone : ∀ old, present ≠ some (.mapping old) := fun old same => merged ⟨old, same⟩
        have nothing : present.bind (dig (key :: rest)) = none := by
          cases present with
          | none => rfl
          | some old =>
            exact dig_beside (fun entries same => alone entries (congrArg some same)) key rest
        rw [overlay_alone alone, nothing, overlay_none, dig, found]
        exact there
    | _ => cases there

/-- Under a mapping of the upper value there is what it has, laid over the lower one, and elsewhere
what the lower one has. -/
theorem dig_overlay_entry {above : List String} {entries : Entries}
    (distinct : ∀ onWay rest, above = onWay ++ rest → ∀ entries,
      dig onWay data = some (.mapping entries) → Entries.Distinct entries)
    (node : dig above data = some (.mapping entries)) (present : Option Value) (key : String) :
    dig (above ++ [key]) (overlay data present) = (Entries.get? (.text key) entries).elim
      (present.bind (dig (above ++ [key])))
      fun found => some (overlay found (present.bind (dig (above ++ [key])))) := by
  have laid := dig_overlay (fun onWay rest split _ => distinct onWay rest split) node present
  have below :
      present.bind (dig (above ++ [key])) = (present.bind (dig above)).bind (dig [key]) := by
    rw [Option.bind_assoc]
    exact congrArg _ (funext fun old => dig_append above [key] old)
  rw [below, dig_append, laid, Option.bind_some]
  have once := distinct above [] (List.append_nil _).symm entries node
  cases present.bind (dig above) with
  | none =>
    rw [overlay_none, dig_key]
    cases Entries.get? (.text key) entries with
    | none => rfl
    | some found => exact congrArg some (overlay_none found).symm
  | some old =>
    by_cases merged : ∃ under, old = .mapping under
    · obtain ⟨under, rfl⟩ := merged
      rw [overlay_mapping, dig_key, Option.bind_some, dig_key, get?_merge once]
    · have alone : ∀ under, old ≠ .mapping under := fun under same => merged ⟨under, same⟩
      rw [overlay_alone fun under same => alone under (Option.some.inj same), dig_key,
        Option.bind_some, dig_beside alone]
      cases Entries.get? (.text key) entries with
      | none => rfl
      | some found => exact congrArg some (overlay_none found).symm

end Overlaying

end Querywright
