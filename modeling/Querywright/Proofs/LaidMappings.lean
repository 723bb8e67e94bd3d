import Querywright.Proofs.AssembledLeaves

/-! Nested mappings laid over one another. What stands under each key follows from what the two
have there; a mapping that is laid over a second time changes nothing; and two mappings may be laid
over each other before they are laid over a third, unless what lies between covers a mapping that
the uppermost one would join. -/
namespace Querywright

namespace Entries

variable {key value : Value} {one other entries added : Entries}

def keys (entries : Entries) : List Value :=
  entries.map (·.1)

/-- Each key is one with itself and with no other. Texts are one with themselves; a number that is
not equal to itself is not. -/
structure IsKeyed (entries : Entries) : Prop where
  known : ∀ entry ∈ entries, entry.1.sameKey entry.1 = true
  distinct : Distinct entries

instance (entries : Entries) : Decidable (Distinct entries) :=
  inferInstanceAs (Decidable (entries.Pairwise _))

instance (entries : Entries) : Decidable entries.IsKeyed :=
  decidable_of_iff ((∀ entry ∈ entries, entry.1.sameKey entry.1 = true) ∧ Distinct entries)
    ⟨fun both => ⟨both.1, both.2⟩, fun keyed => ⟨keyed.known, keyed.distinct⟩⟩

theorem exists_entry (found : get? key entries = some value) :
    ∃ entry ∈ entries, entry.1.sameKey key = true ∧ entry.2 = value := by
  induction entries with
  | nil => cases found
  | cons entry rest ih =>
    unfold get? at found
    split at found
    · rename_i same
      exact ⟨entry, List.mem_cons_self, same, Option.some.inj found⟩
    · obtain ⟨entry, inside, there⟩ := ih found
      exact ⟨entry, List.mem_cons_of_mem _ inside, there⟩

theorem IsKeyed.tail {entry : Value × Value} (keyed : IsKeyed (entry :: entries)) :
    IsKeyed entries :=
  ⟨fun entry inside => keyed.known entry (List.mem_cons_of_mem _ inside), keyed.distinct.tail⟩

theorem IsKeyed.get? (keyed : IsKeyed entries) {entry : Value × Value} (member : entry ∈ entries) :
    Entries.get? entry.1 entries = some entry.2 := by
  induction entries with
  | nil => cases member
  | cons first rest ih =>
    unfold Entries.get?
    obtain rfl | later := List.mem_cons.mp member
    · exact if_pos (keyed.known entry List.mem_cons_self)
    · have apart := (List.pairwise_cons.mp keyed.distinct).1 entry later
      rw [if_neg (by rw [apart]; exact Bool.false_ne_true)]
      exact ih keyed.tail later

theorem IsKeyed.put (keyed : IsKeyed entries) (known : key.sameKey key = true) (value : Value) :
    IsKeyed (Entries.put key value entries) := by
  refine ⟨fun entry member => ?_, keyed.distinct.put key value⟩
  obtain same | ⟨old, inside, same⟩ := put_keys member
  · rw [same]
    exact known
  · rw [← same]
    exact keyed.known old inside

theorem IsKeyed.merge (keyed : IsKeyed entries)
    (known : ∀ entry ∈ added, entry.1.sameKey entry.1 = true) :
    IsKeyed (Querywright.merge added entries) := by
  induction added generalizing entries with
  | nil =>
    rw [Querywright.merge]
    exact keyed
  | cons entry rest ih =>
    rw [Querywright.merge]
    exact ih (keyed.put (known entry List.mem_cons_self) _) fun entry inside =>
      known entry (List.mem_cons_of_mem _ inside)

/-- Writing what is there already changes nothing. -/
theorem put_held (held : get? key entries = some value) : put key value entries = entries := by
  induction entries with
  | nil => cases held
  | cons entry rest ih =>
    obtain ⟨first, found⟩ := entry
    unfold get? at held
    unfold put
    by_cases same : first.sameKey key = true
    · rw [if_pos same] at held ⊢
      rw [Option.some.inj held]
    · rw [if_neg same] at held ⊢
      rw [ih held]

theorem keys_put (key value : Value) (entries : Entries) :
    keys (put key value entries) =
      if (get? key entries).isNone then keys entries ++ [key] else keys entries := by
  induction entries with
  | nil => rfl
  | cons entry rest ih =>
    unfold put get?
    by_cases same : entry.1.sameKey key = true
    · rw [if_pos same, if_pos same]
      rfl
    · rw [if_neg same, if_neg same, keys, List.map_cons, ← keys, ih]
      split <;> rfl

/-- The old keys stay in their order, and the new ones follow in theirs. -/
theorem keys_merge (distinct : Distinct added) (entries : Entries) :
    keys (merge added entries) =
      keys entries ++ (keys added).filter fun key => (get? key entries).isNone := by
  induction added generalizing entries with
  | nil =>
    rw [merge]
    exact (List.append_nil _).symm
  | cons entry rest ih =>
    obtain ⟨apart, later⟩ := List.pairwise_cons.mp distinct
    have beside : ((keys rest).filter fun key =>
        (get? key (put entry.1 (overlay entry.2 (get? entry.1 entries)) entries)).isNone) =
          (keys rest).filter fun key => (get? key entries).isNone := by
      refine List.filter_congr fun key member => ?_
      obtain ⟨other, inside, rfl⟩ := List.mem_map.mp member
      rw [get?_put, if_neg (by rw [apart other inside]; exact Bool.false_ne_true)]
    rw [merge, ih later, beside, keys_put]
    cases fresh : (get? entry.1 entries).isNone <;> simp [keys, fresh]

theorem distinct_iff (entries : Entries) :
    Distinct entries ↔ (keys entries).Pairwise fun one other => one.sameKey other = false := by
  rw [keys, List.pairwise_map]
  rfl

/-- Mappings with the same keys, in one order, and the same under each of them are equal. -/
theorem IsKeyed.eq_of_get? (keyed : IsKeyed one) (same : keys one = keys other)
    (held : ∀ key, Entries.get? key one = Entries.get? key other) : one = other := by
  induction one generalizing other with
  | nil => exact (List.map_eq_nil_iff.mp same.symm).symm
  | cons entry rest ih =>
    have distinct : Distinct other := by
      rw [distinct_iff, ← same, ← distinct_iff]
      exact keyed.distinct
    obtain _ | ⟨⟨first, found⟩, others⟩ := other
    · cases same
    obtain ⟨key, value⟩ := entry
    obtain ⟨rfl, later⟩ : key = first ∧ keys rest = keys others := List.cons.inj same
    have here := held key
    have known : key.sameKey key = true := keyed.known _ List.mem_cons_self
    rw [Entries.get?, Entries.get?, if_pos known, if_pos known] at here
    rw [Option.some.inj here, ih keyed.tail later fun other => ?_]
    by_cases reached : key.sameKey other = true
    · rw [keyed.distinct.tail_none reached, distinct.tail_none reached]
    · have below := held other
      rwa [Entries.get?, Entries.get?, if_neg reached, if_neg reached] at below

end Entries

namespace Value

variable {value lower middle upper : Value} {entries low between high : Entries} {key : Value}

/-- Each of the mappings nested in a value has keys that are one with themselves and with no
other. -/
inductive IsWellKeyed : Value → Prop where
  | leaf {value : Value} (beside : ∀ entries, value ≠ .mapping entries) : IsWellKeyed value
  | mapping {entries : Entries} (keyed : entries.IsKeyed)
      (inner : ∀ entry ∈ entries, IsWellKeyed entry.2) : IsWellKeyed (.mapping entries)

theorem IsWellKeyed.keyed (nested : (Value.mapping entries).IsWellKeyed) : entries.IsKeyed := by
  cases nested with
  | leaf beside => exact absurd rfl (beside entries)
  | mapping keyed => exact keyed

theorem IsWellKeyed.of_leaves (keyed : entries.IsKeyed)
    (leaves : ∀ entry ∈ entries, ∀ inner, entry.2 ≠ .mapping inner) :
    (Value.mapping entries).IsWellKeyed :=
  .mapping keyed fun entry member => .leaf (leaves entry member)

theorem IsWellKeyed.get? (nested : (Value.mapping entries).IsWellKeyed)
    (found : Entries.get? key entries = some value) : value.IsWellKeyed := by
  cases nested with
  | leaf beside => exact absurd rfl (beside entries)
  | mapping _ inner =>
    obtain ⟨entry, member, -, rfl⟩ := Entries.exists_entry found
    exact inner entry member

/-- At the end of some row of keys, a value has something else than a mapping where the values
below and above it have mappings. -/
def Parts (middle lower upper : Value) : Prop :=
  ∃ keys under value added, reach keys lower = some (.mapping under) ∧
    reach keys middle = some value ∧ (∀ entries, value ≠ .mapping entries) ∧
    reach keys upper = some (.mapping added)

theorem Parts.lower_mapping (parts : middle.Parts lower upper) :
    ∃ entries, lower = .mapping entries := by
  obtain ⟨_ | ⟨key, rest⟩, under, -, -, lowest, -⟩ := parts
  · exact ⟨under, Option.some.inj lowest⟩
  · obtain ⟨entries, -, rfl, -⟩ := reach_cons lowest
    exact ⟨entries, rfl⟩

theorem parts_mapping : (mapping between).Parts (.mapping low) (.mapping high) ↔
    ∃ key lower middle upper, Entries.get? key low = some lower ∧
      Entries.get? key between = some middle ∧ Entries.get? key high = some upper ∧
        middle.Parts lower upper := by
  constructor
  · rintro ⟨_ | ⟨key, keys⟩, under, value, added, lowest, here, beside, uppermost⟩
    · exact absurd (Option.some.inj here).symm (beside between)
    · obtain ⟨lower, below, lowest⟩ := Option.bind_eq_some_iff.mp lowest
      obtain ⟨middle, amid, here⟩ := Option.bind_eq_some_iff.mp here
      obtain ⟨upper, above, uppermost⟩ := Option.bind_eq_some_iff.mp uppermost
      exact ⟨key, lower, middle, upper, below, amid, above, keys, under, value, added, lowest,
        here, beside, uppermost⟩
  · rintro ⟨key, lower, middle, upper, below, amid, above, keys, under, value, added, lowest, here,
      beside, uppermost⟩
    refine ⟨key :: keys, under, value, added, ?_, ?_, beside, ?_⟩
    · exact Option.bind_eq_some_iff.mpr ⟨lower, below, lowest⟩
    · exact Option.bind_eq_some_iff.mpr ⟨middle, amid, here⟩
    · exact Option.bind_eq_some_iff.mpr ⟨upper, above, uppermost⟩

theorem Parts.entry (parts : (mapping between).Parts (.mapping low) (.mapping high)) :
    ∃ entry ∈ high, ∃ lower middle, Entries.get? entry.1 low = some lower ∧
      Entries.get? entry.1 between = some middle ∧ middle.Parts lower entry.2 := by
  obtain ⟨key, lower, middle, upper, below, amid, above, parts⟩ := parts_mapping.mp parts
  obtain ⟨entry, member, same, rfl⟩ := Entries.exists_entry above
  rw [← Entries.get?_congr same] at below amid
  exact ⟨entry, member, lower, middle, below, amid, parts⟩

end Value

section Laying

variable {value lower middle upper : Value} {added between entries : Entries}

theorem overlay_leaf (beside : ∀ entries, value ≠ .mapping entries) (present : Option Value) :
    overlay value present = value :=
  overlay_unmixed fun added _ same => absurd same (beside added)

/-- A value stays as it is over anything but a mapping. -/
theorem overlay_on_leaf (beside : ∀ entries, lower ≠ .mapping entries) (value : Value) :
    overlay value (some lower) = value :=
  overlay_unmixed fun _ entries _ same => beside entries (Option.some.inj same)

/-- A mapping that has all of another already is left as it is. -/
theorem merge_held (held : ∀ entry ∈ added, ∃ found, Entries.get? entry.1 entries = some found ∧
    overlay entry.2 (some found) = found) : merge added entries = entries := by
  induction added with
  | nil => rw [merge]
  | cons entry rest ih =>
    obtain ⟨found, there, same⟩ := held entry List.mem_cons_self
    rw [merge, there, same, Entries.put_held there]
    exact ih fun entry inside => held entry (List.mem_cons_of_mem _ inside)

theorem overlay_again (nested : value.IsWellKeyed) (present : Option Value) :
    overlay value (some (overlay value present)) = overlay value present := by
  induction nested generalizing present with
  | leaf beside => rw [overlay_leaf beside, overlay_leaf beside]
  | @mapping added keyed inner ih =>
    by_cases merged : ∃ entries, present = some (.mapping entries)
    · obtain ⟨entries, rfl⟩ := merged
      rw [overlay_mapping, overlay_mapping, merge_held fun entry member => ?_]
      refine ⟨overlay entry.2 (Entries.get? entry.1 entries), ?_, ih entry member _⟩
      rw [get?_merge keyed.distinct, keyed.get? member]
      rfl
    · rw [overlay_alone fun entries same => merged ⟨entries, same⟩, overlay_mapping,
        merge_held fun entry member => ?_]
      -- Laid over nothing, each entry is as it is, and so it is over itself.
      have again := ih entry member none
      rw [overlay_none] at again
      exact ⟨entry.2, keyed.get? member, again⟩

theorem merge_again (nested : (Value.mapping added).IsWellKeyed) (entries : Entries) :
    merge added (merge added entries) = merge added entries := by
  have again := overlay_again nested (some (.mapping entries))
  rw [overlay_mapping, overlay_mapping] at again
  exact Value.mapping.inj again

theorem keys_merge_merge (first : Entries.Distinct added) (second : Entries.Distinct between)
    (both : Entries.Distinct (merge added between)) (entries : Entries) :
    Entries.keys (merge added (merge between entries)) =
      Entries.keys (merge (merge added between) entries) := by
  have fresh (key : Value) : (Entries.get? key (merge between entries)).isNone =
      ((Entries.get? key entries).isNone && (Entries.get? key between).isNone) := by
    rw [get?_merge second]
    cases Entries.get? key between <;> simp
  simp only [Entries.keys_merge first, Entries.keys_merge second, Entries.keys_merge both, fresh,
    List.filter_append, List.filter_filter, List.append_assoc]

/-- Two mappings are laid over a third in turn as when they are laid over each other first, where
that holds of what the three have under one key. -/
theorem merge_merge_of (upper : added.IsKeyed) (middle : between.IsKeyed)
    (lower : entries.IsKeyed)
    (held : ∀ key value amid found, Entries.get? key added = some value →
      Entries.get? key between = some amid → Entries.get? key entries = some found →
        overlay value (some (overlay amid (some found))) =
          overlay (overlay value (some amid)) (some found)) :
    merge added (merge between entries) = merge (merge added between) entries := by
  have both := (middle.merge upper.known).distinct
  refine ((lower.merge middle.known).merge upper.known).eq_of_get?
    (keys_merge_merge upper.distinct middle.distinct both entries) fun key => ?_
  rw [get?_merge upper.distinct, get?_merge middle.distinct, get?_merge both,
    get?_merge upper.distinct]
  cases above : Entries.get? key added with
  | none => rfl
  | some value =>
    cases amid : Entries.get? key between with
    | none => exact congrArg (fun value => some (overlay value _)) (overlay_none value).symm
    | some inner =>
      cases below : Entries.get? key entries with
      | none => simp only [Option.elim, overlay_none]
      | some found => exact congrArg some (held key value inner found above amid below)

theorem overlay_overlay (uppermost : upper.IsWellKeyed) (amid : middle.IsWellKeyed)
    (lowest : lower.IsWellKeyed) (whole : ¬middle.Parts lower upper) :
    overlay upper (some (overlay middle (some lower))) =
      overlay (overlay upper (some middle)) (some lower) := by
  induction uppermost generalizing middle lower with
  | leaf beside => rw [overlay_leaf beside, overlay_leaf beside, overlay_leaf beside]
  | @mapping added keyed inner ih =>
    by_cases onLeaf : ∀ entries, lower ≠ .mapping entries
    · rw [overlay_on_leaf onLeaf, overlay_on_leaf onLeaf]
    obtain ⟨entries, rfl⟩ := not_forall_not.mp onLeaf
    by_cases beside : ∀ entries, middle ≠ .mapping entries
    · exact absurd ⟨[], entries, middle, added, rfl, rfl, beside, rfl⟩ whole
    obtain ⟨between, rfl⟩ := not_forall_not.mp beside
    rw [overlay_mapping, overlay_mapping, overlay_mapping, overlay_mapping,
      merge_merge_of keyed amid.keyed lowest.keyed]
    intro key value inner found above between below
    obtain ⟨entry, member, -, rfl⟩ := Entries.exists_entry above
    exact ih entry member (amid.get? between) (lowest.get? below) fun parts =>
      whole (Value.parts_mapping.mpr ⟨key, found, inner, entry.2, below, between, above, parts⟩)

theorem merge_merge (uppermost : (Value.mapping added).IsWellKeyed)
    (amid : (Value.mapping between).IsWellKeyed) (lowest : (Value.mapping entries).IsWellKeyed)
    (whole : ¬(Value.mapping between).Parts (.mapping entries) (.mapping added)) :
    merge added (merge between entries) = merge (merge added between) entries := by
  have laid := overlay_overlay uppermost amid lowest whole
  rw [overlay_mapping, overlay_mapping, overlay_mapping, overlay_mapping] at laid
  exact Value.mapping.inj laid

end Laying

/-- What comes of laying one mapping over another, key by key. The keys of the lower one stay in
their order; behind them stand those that it has not, in the order of the upper one. -/
structure Entries.IsLaid (lower upper result : Entries) : Prop where
  merged : ∀ key under added, get? key lower = some (.mapping under) →
    get? key upper = some (.mapping added) → get? key result = some (.mapping (merge added under))
  taken : ∀ key value, get? key upper = some value →
    (∀ under added, get? key lower = some (.mapping under) → value ≠ .mapping added) →
      get? key result = some value
  left : ∀ key, get? key upper = none → get? key result = get? key lower
  order : keys result = keys lower ++ (keys upper).filter fun key => (get? key lower).isNone

theorem isLaid_merge {upper : Entries} (distinct : Entries.Distinct upper) (lower : Entries) :
    Entries.IsLaid lower upper (merge upper lower) where
  merged key under added below above := by
    rw [get?_merge distinct, above, below]
    exact congrArg some (overlay_mapping added under)
  taken key value above apart := by
    rw [get?_merge distinct, above]
    refine congrArg some (overlay_unmixed fun added under same below => ?_)
    exact apart under added below same
  left key absent := by
    rw [get?_merge distinct, absent]
    rfl
  order := Entries.keys_merge distinct lower

/-- A nested mapping is laid over another key by key, and a second time it changes nothing. A
further one may be laid over the result or over the upper one first, unless the upper one has
something else than a mapping where the lowest and the uppermost one have mappings. So it may where
no row of keys leads to a mapping in one of the three and to something else in another. -/
theorem mappings_merged {lower upper : Entries} (lowest : (Value.mapping lower).IsWellKeyed)
    (amid : (Value.mapping upper).IsWellKeyed) :
    Entries.IsLaid lower upper (merge upper lower) ∧
      merge upper (merge upper lower) = merge upper lower ∧
      ∀ further, (Value.mapping further).IsWellKeyed →
        ¬(Value.mapping upper).Parts (.mapping lower) (.mapping further) →
          merge further (merge upper lower) = merge (merge further upper) lower :=
  ⟨isLaid_merge amid.keyed.distinct lower, merge_again amid lower,
    fun _ uppermost whole => merge_merge uppermost amid lowest whole⟩

/-- Where the upper mapping parts the two others, what the lowest one has is lost or comes back. -/
example (value : Value) :
    merge [(.text "home", .mapping [])] (merge [(.text "home", .null)]
        [(.text "home", .mapping [(.text "town", value)])]) = [(.text "home", .mapping [])] ∧
      merge (merge [(.text "home", .mapping [])] [(.text "home", .null)])
        [(.text "home", .mapping [(.text "town", value)])] =
          [(.text "home", .mapping [(.text "town", value)])] := ⟨rfl, rfl⟩

def guestEntries : Entries :=
  [(.text "home", .mapping [(.text "street", .text "Elm"), (.text "town", .text "Oslo")]),
    (.integer 1, .mapping [(.text "floor", .integer 2)])]

/-- A mapping comes over a text, and something else over a mapping, under an equal key. -/
def movedEntries : Entries :=
  [(.text "home", .mapping [(.text "town", .mapping [(.text "name", .text "Rome")]),
      (.text "code", .integer 5)]), (.truth true, .null)]

def renamedEntries : Entries :=
  [(.text "home", .mapping [(.text "town", .mapping [(.text "name", .text "Bari")])]),
    (.text "pets", .list [])]

example : merge renamedEntries (merge movedEntries guestEntries) =
    [(.text "home", .mapping [(.text "street", .text "Elm"),
        (.text "town", .mapping [(.text "name", .text "Bari")]), (.text "code", .integer 5)]),
      (.integer 1, .null), (.text "pets", .list [])] := rfl

theorem guestEntries_merged :
    (Value.mapping guestEntries).IsWellKeyed ∧ (Value.mapping movedEntries).IsWellKeyed ∧
      (Value.mapping renamedEntries).IsWellKeyed ∧
      ¬(Value.mapping movedEntries).Parts (.mapping guestEntries) (.mapping renamedEntries) ∧
      Entries.IsLaid guestEntries movedEntries (merge movedEntries guestEntries) ∧
      merge movedEntries (merge movedEntries guestEntries) = merge movedEntries guestEntries ∧
      merge renamedEntries (merge movedEntries guestEntries) =
        merge (merge renamedEntries movedEntries) guestEntries := by
  have guest : (Value.mapping guestEntries).IsWellKeyed := .mapping (by decide) <| by
    simp only [guestEntries, List.forall_mem_cons]
    exact ⟨.of_leaves (by decide) (by simp), .of_leaves (by decide) (by simp), nofun⟩
  have moved : (Value.mapping movedEntries).IsWellKeyed := .mapping (by decide) <| by
    simp only [movedEntries, List.forall_mem_cons]
    refine ⟨.mapping (by decide) ?_, .leaf nofun, nofun⟩
    simp only [List.forall_mem_cons]
    exact ⟨.of_leaves (by decide) (by simp), .leaf nofun, nofun⟩
  have renamed : (Value.mapping renamedEntries).IsWellKeyed := .mapping (by decide) <| by
    simp only [renamedEntries, List.forall_mem_cons]
    refine ⟨.mapping (by decide) ?_, .leaf nofun, nofun⟩
    simp only [List.forall_mem_cons]
    exact ⟨.of_leaves (by decide) (by simp), nofun⟩
  have whole :
      ¬(Value.mapping movedEntries).Parts (.mapping guestEntries) (.mapping renamedEntries) := by
    intro parts
    obtain ⟨entry, member, lower, middle, below, amid, parts⟩ := parts.entry
    obtain rfl | rfl := List.mem_pair.mp member
    · cases below
      cases amid
      obtain ⟨entry, member, lower, middle, below, -, parts⟩ := parts.entry
      rw [List.mem_singleton.mp member] at below
      cases below
      obtain ⟨entries, same⟩ := parts.lower_mapping
      cases same
    · cases below
  obtain ⟨laid, again, further⟩ := mappings_merged guest moved
  exact ⟨guest, moved, renamed, whole, laid, again, further renamedEntries renamed whole⟩

end Querywright
