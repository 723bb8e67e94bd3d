import Querywright.Proofs.ResolvedPaths

/-! Records read back from what they are written out as. A field that is not excluded, and is read
first under the key it is written out under, is made of the value that it has, written out. -/
namespace Querywright

namespace Entries

theorem get?_foldl_put {key value : Value} (pairs : List (Value × Value)) (entries : Entries)
    (same : ∀ pair ∈ pairs, pair.1.sameKey key = true → pair.2 = value)
    (present : get? key entries = some value ∨ ∃ pair ∈ pairs, pair.1.sameKey key = true) :
    get? key (pairs.foldl (fun entries pair => put pair.1 pair.2 entries) entries) =
      some value := by
  induction pairs generalizing entries with
  | nil =>
    obtain known | ⟨_, member, -⟩ := present
    · exact known
    · cases member
  | cons pair rest ih =>
    refine ih _ (fun other member => same other (List.mem_cons_of_mem _ member)) ?_
    rw [get?_put]
    by_cases here : pair.1.sameKey key = true
    · rw [if_pos here, same pair List.mem_cons_self here]
      exact .inl rfl
    · rw [if_neg here]
      refine present.imp id ?_
      rintro ⟨other, member, known⟩
      obtain rfl | later := List.mem_cons.mp member
      · exact absurd known here
      · exact ⟨other, later, known⟩

/-- Of pairs that agree on a key, its value is found. -/
theorem get?_ofPairs {key value : Value} {pairs : List (Value × Value)}
    (same : ∀ pair ∈ pairs, pair.1.sameKey key = true → pair.2 = value)
    (present : ∃ pair ∈ pairs, pair.1.sameKey key = true) :
    get? key (ofPairs pairs) = some value :=
  get?_foldl_put pairs [] same (.inr present)

end Entries

/-- The entries that a record is written out as. -/
def RecordType.writtenEntries (schema : Schema) (type : RecordType)
    (fields : List (String × Value)) : Entries :=
  Entries.ofPairs (writtenFields schema type.fields fields)

theorem written_record {schema : Schema} {type : RecordType}
    (known : schema.find? type.name = some type) (fields : List (String × Value)) :
    written schema (.record type.name fields) = .mapping (type.writtenEntries schema fields) := by
  rw [written, known]
  rfl

/-- A field is written out by its own rule, unless that excludes it. -/
theorem mem_writtenFields {schema : Schema} {rules : List FieldRule}
    {fields : List (String × Value)} {pair : Value × Value} :
    pair ∈ writtenFields schema rules fields ↔ ∃ field ∈ fields, ∃ rule,
      rules.find? (·.name == field.1) = some rule ∧ rule.excluded = false ∧
        pair = (.text rule.outputKey, written schema field.2) := by
  induction fields with
  | nil => simp [writtenFields]
  | cons field rest ih =>
    obtain ⟨name, value⟩ := field
    unfold writtenFields
    cases found : rules.find? (·.name == name) with
    | none =>
      dsimp only
      rw [ih]
      simp [found]
    | some rule =>
      dsimp only
      cases excluded : rule.excluded with
      | true =>
        rw [if_pos rfl, ih]
        simp [found, excluded]
      | false =>
        rw [if_neg (by simp), List.mem_cons, ih]
        simp [found, excluded]

section ReadingBack

variable {schema : Schema} {type : RecordType} (once : type.NamesOnce)
  (keysOnce : (type.fields.map (·.outputKey)).Nodup) {held : List (String × Value)}
  (named : held.map (·.1) = type.fields.map (·.name)) {rule : FieldRule}
  (inside : rule ∈ type.fields) {value : Value} (there : held.lookup rule.name = some value)

include once keysOnce named inside there

theorem get?_writtenEntries (shown : rule.excluded = false) :
    Entries.get? (.text rule.outputKey) (type.writtenEntries schema held) =
      some (written schema value) := by
  have fieldsOnce : (held.map (·.1)).Nodup := named ▸ once
  have present : (rule.name, value) ∈ held := by
    obtain ⟨before, after, split, -⟩ := List.lookup_eq_some_iff.mp there
    rw [split]
    exact List.mem_append_right _ List.mem_cons_self
  refine Entries.get?_ofPairs (fun pair member known => ?_)
    ⟨_, mem_writtenFields.mpr ⟨_, present, rule, RecordType.find?_rule once inside, shown, rfl⟩, ?_⟩
  · obtain ⟨field, among, other, found, -, rfl⟩ := mem_writtenFields.mp member
    rw [Value.sameKey_text, beq_iff_eq] at known
    obtain rfl := List.inj_on_of_nodup_map keysOnce (List.mem_of_find?_eq_some found) inside known
    have name := List.find?_some found
    rw [beq_iff_eq] at name
    rw [List.inj_on_of_nodup_map fieldsOnce among present name.symm]
  · rw [Value.sameKey_text]
    exact beq_self_eq_true _

/-- A field that is read first under the key it is written out under is made of its value written
out. -/
theorem fitted_writtenEntries (shown : rule.excluded = false)
    (first : (rule.readingKeys type.byName).head? = some rule.outputKey) {fitted : Fitted}
    (fits : fit schema rule.type (written schema value) = .ok fitted) :
    rule.fitted schema type.byName (type.writtenEntries schema held) = .ok fitted := by
  obtain ⟨later, keys⟩ := List.head?_eq_some_iff.mp first
  have present : firstPresent? (type.writtenEntries schema held) (rule.readingKeys type.byName) =
      some (rule.outputKey, written schema value) := by
    rw [keys, firstPresent?, get?_writtenEntries once keysOnce named inside there shown]
  exact FieldRule.fitted_of_present present fits

end ReadingBack

end Querywright
