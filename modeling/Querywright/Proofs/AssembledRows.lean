import Querywright.Proofs.KeyPaths

/-! Rows put together as nested mappings. Where no path goes on behind the end of another, each
value stands at the end of its path, and nothing else is there but the mappings on the way. -/
namespace Querywright

/-- Nothing stands in nested mappings but what has been written and the mappings on the way to it,
which have each key once. -/
structure Grown (written : List (List String)) (data : Value) : Prop where
  reached : ∀ keys value, dig keys data = some value → (∃ path ∈ written, path <+: keys) ∨
    ∃ entries, value = .mapping entries ∧ Entries.Distinct entries ∧
      (keys = [] ∨ ∃ path ∈ written, keys <+: path)

/-- No row of keys goes on behind the end of another. -/
def AreEnds (paths : List (List String)) : Prop :=
  ∀ one ∈ paths, ∀ other ∈ paths, one = other ∨ Apart one other

theorem AreEnds.not_below {paths : List (List String)} (ends : AreEnds paths)
    {above rest other : List String} {key : String} (member : above ++ key :: rest ∈ paths)
    (present : other ∈ paths) : ¬other <+: above := by
  intro below
  have inside : other <+: above ++ key :: rest := below.trans (List.prefix_append _ _)
  obtain rfl | apart := ends other present _ member
  · have longer := below.length_le
    simp at longer
  · exact apart.1 inside

theorem AreEnds.mono {paths more : List (List String)} (ends : AreEnds more)
    (inside : ∀ path ∈ paths, path ∈ more) : AreEnds paths :=
  fun one member other present => ends one (inside one member) other (inside other present)

namespace Grown

theorem empty : Grown [] (.mapping []) where
  reached keys value found := by
    cases keys with
    | nil => exact .inr ⟨[], (Option.some.inj found).symm, .nil, .inl rfl⟩
    | cons => cases found

variable {written more : List (List String)} {data extended value : Value}
  {path above rest : List String} {key : String}

theorem mono (grown : Grown written data) (inside : ∀ path ∈ written, path ∈ more) :
    Grown more data where
  reached keys value found := by
    obtain ⟨path, member, below⟩ | ⟨entries, same, distinct, way⟩ := grown.reached keys value found
    · exact .inl ⟨path, inside path member, below⟩
    · refine .inr ⟨entries, same, distinct, way.imp id ?_⟩
      rintro ⟨path, member, onWay⟩
      exact ⟨path, inside path member, onWay⟩

theorem assign (grown : Grown written data)
    (ok : Querywright.assign value path data = .ok extended) :
    Grown (path :: written) extended where
  reached keys found there := by
    obtain below | ⟨key, rest, rfl⟩ | apart := Apart.cases_on path keys
    · exact .inl ⟨path, List.mem_cons_self, below⟩
    · obtain ⟨entries, inner, old, new⟩ := dig_assign_above ok
      rw [new] at there
      cases there
      have onWay : keys <+: keys ++ key :: rest := List.prefix_append _ _
      obtain known | rfl := old
      · obtain ⟨path, member, inside⟩ | ⟨_, same, distinct, -⟩ := grown.reached keys _ known
        · exact .inl ⟨path, List.mem_cons_of_mem _ member, inside⟩
        · cases same
          exact .inr ⟨_, rfl, distinct.put _ _, .inr ⟨_, List.mem_cons_self, onWay⟩⟩
      · exact .inr ⟨_, rfl, Entries.Distinct.put .nil _ _, .inr ⟨_, List.mem_cons_self, onWay⟩⟩
    · rw [dig_assign_apart ok apart] at there
      exact (grown.mono fun _ => List.mem_cons_of_mem _).reached keys found there

/-- On the way to the end of a row of keys there are mappings only. -/
theorem node (grown : Grown written data) (ends : AreEnds written)
    (member : above ++ key :: rest ∈ written) (found : dig above data = some value) :
    ∃ entries, value = .mapping entries ∧ Entries.Distinct entries := by
  obtain ⟨path, present, below⟩ | ⟨entries, same, distinct, -⟩ := grown.reached above value found
  · exact absurd below (ends.not_below member present)
  · exact ⟨entries, same, distinct⟩

/-- A mapping on the way has no other keys than those of the ways. -/
theorem onWay (grown : Grown written data) (ends : AreEnds written) {other : String}
    (member : above ++ key :: rest ∈ written) (found : dig (above ++ [other]) data = some value) :
    ∃ path ∈ written, above ++ [other] <+: path := by
  obtain ⟨path, present, below⟩ | ⟨-, -, -, nothing | reached⟩ := grown.reached _ value found
  · obtain same | above' := List.prefix_concat_iff.mp below
    · exact ⟨path, present, by rw [same]⟩
    · exact absurd above' (ends.not_below member present)
  · exact absurd nothing (by simp)
  · exact reached

theorem distinct (grown : Grown written data) (ends : AreEnds written)
    (member : above ++ key :: rest ∈ written) (onWay later : List String)
    (split : above = onWay ++ later) (entries : Entries)
    (found : dig onWay data = some (.mapping entries)) : Entries.Distinct entries := by
  obtain ⟨next, others, same⟩ : ∃ next others, above ++ key :: rest = onWay ++ next :: others := by
    rw [split]
    cases later with
    | nil => exact ⟨key, rest, by simp⟩
    | cons next later => exact ⟨next, later ++ key :: rest, by simp⟩
  rw [same] at member
  obtain ⟨_, same, distinct⟩ := grown.node ends member found
  cases same
  exact distinct

/-- A value at the end of its keys stands laid over what was there. -/
theorem laid (grown : Grown written data) (ends : AreEnds written) {keys : List String}
    (member : keys ∈ written) (held : dig keys data = some value) (present : Option Value) :
    dig keys (overlay data present) = some (overlay value (present.bind (dig keys))) := by
  refine dig_overlay (fun above later split full entries node => ?_) held present
  obtain ⟨key, rest, rfl⟩ := List.exists_cons_of_ne_nil full
  rw [split] at member
  exact grown.distinct ends member above [] (List.append_nil _).symm entries node

/-- On the way to what has been written there is a mapping, and under each of its keys what it has,
laid over what was there, or else what was there. -/
theorem laid_entry (grown : Grown written data) (ends : AreEnds written)
    (member : above ++ key :: rest ∈ written) (held : dig (above ++ key :: rest) data = some value)
    (present : Option Value) :
    (∃ entries, dig above (overlay data present) = some (.mapping entries)) ∧
      ∀ other, dig (above ++ [other]) (overlay data present) = (dig (above ++ [other]) data).elim
        (present.bind (dig (above ++ [other])))
        fun found => some (overlay found (present.bind (dig (above ++ [other])))) := by
  rw [dig_append] at held
  obtain ⟨node, found, held⟩ := Option.bind_eq_some_iff.mp held
  obtain ⟨entries, rfl, -⟩ := grown.node ends member found
  have distinct := grown.distinct ends member
  constructor
  · rw [dig_overlay (fun onWay later split _ => distinct onWay later split) found present]
    obtain ⟨merged, same⟩ := overlay_isMapping entries (present.bind (dig above))
    exact ⟨merged, congrArg some same⟩
  · intro other
    rw [dig_overlay_entry distinct found present other, dig_entry found]

end Grown

section Assembling

variable {pairs : List (Option Path × Value)} {written : List (List String)}
  {data extended : Value}

/-- The keys at which the values of a row are written. -/
def endsOf (pairs : List (Option Path × Value)) : List (List String) :=
  pairs.filterMap fun pair => pair.1.map Path.keys

theorem mem_endsOf {keys : List String} :
    keys ∈ endsOf pairs ↔ ∃ path value, (some path, value) ∈ pairs ∧ path.keys = keys := by
  unfold endsOf
  rw [List.mem_filterMap]
  constructor
  · rintro ⟨⟨path, value⟩, member, same⟩
    obtain ⟨path, rfl, ended⟩ := Option.map_eq_some_iff.mp same
    exact ⟨path, value, member, ended⟩
  · rintro ⟨path, value, member, rfl⟩
    exact ⟨_, member, rfl⟩

theorem mem_endsOf_cons {path : Path} {value : Value} {rest : List (Option Path × Value)}
    {keys : List String} :
    keys ∈ endsOf ((some path, value) :: rest) ++ written ↔
      keys ∈ endsOf rest ++ path.keys :: written := by
  simp only [endsOf, List.filterMap_cons, Option.map_some, List.mem_append, List.mem_cons]
  tauto

/-- What each write keeps, its own end being one of those written, all of them keep. -/
theorem assignAll_keeps {kept : List (List String) → Value → Prop}
    (mono : ∀ {written more data}, kept written data → (∀ path ∈ written, path ∈ more) →
      kept more data)
    (step : ∀ {written path data extended value}, kept written data →
      assign value path data = .ok extended → kept (path :: written) extended)
    (start : kept written data) (ok : assignAll pairs data = .ok extended) :
    kept (endsOf pairs ++ written) extended := by
  induction pairs generalizing written data with
  | nil =>
    cases ok
    exact start
  | cons pair rest ih =>
    obtain ⟨_ | path, value⟩ := pair
    · exact ih start ok
    · obtain ⟨inner, assigned, ok⟩ := bind_success ok
      exact mono (ih (step start assigned) ok) fun _ => mem_endsOf_cons.mpr

theorem assignAll_grown (grown : Grown written data) (ok : assignAll pairs data = .ok extended) :
    Grown (endsOf pairs ++ written) extended :=
  assignAll_keeps Grown.mono Grown.assign grown ok

/-- Values can be written at ends: what is on their way is a mapping. -/
theorem assignAll_success (grown : Grown written data) (ends : AreEnds (endsOf pairs ++ written)) :
    ∃ extended, assignAll pairs data = .ok extended := by
  induction pairs generalizing written data with
  | nil => exact ⟨data, rfl⟩
  | cons pair rest ih =>
    obtain ⟨_ | path, value⟩ := pair
    · exact ih grown ends
    · have later : AreEnds (endsOf rest ++ path.keys :: written) :=
        ends.mono fun _ => mem_endsOf_cons.mpr
      have all : AreEnds (path.keys :: written) :=
        later.mono fun _ => List.mem_append_right _
      obtain ⟨inner, assigned⟩ : ∃ inner, assign value path.keys data = .ok inner :=
        assign_success path.keys data fun above key rest split found there => by
          have member : above ++ key :: rest ∈ path.keys :: written := by
            rw [← split]
            exact List.mem_cons_self
          obtain ⟨entries, same, -⟩ :=
            (grown.mono fun _ => List.mem_cons_of_mem _).node all member there
          exact ⟨entries, same⟩
      obtain ⟨extended, ok⟩ := ih (grown.assign assigned) later
      exact ⟨extended, by rw [assignAll, assigned]; exact ok⟩

/-- What is assembled from nothing has only mappings beside the values that are written. -/
theorem grown_assignAll (ok : assignAll pairs (.mapping []) = .ok extended) :
    Grown (endsOf pairs) extended := by
  have grown := assignAll_grown Grown.empty ok
  rwa [List.append_nil] at grown

theorem exists_assignAll (ends : AreEnds (endsOf pairs)) :
    ∃ extended, assignAll pairs (.mapping []) = .ok extended := by
  rw [← List.append_nil (endsOf pairs)] at ends
  exact assignAll_success Grown.empty ends

theorem assignAll_mapping (ok : assignAll pairs (.mapping []) = .ok extended)
    (full : [] ∉ endsOf pairs) : ∃ entries, extended = .mapping entries := by
  obtain ⟨path, member, none⟩ | ⟨entries, same, -⟩ := (grown_assignAll ok).reached [] extended rfl
  · exact absurd (List.prefix_nil.mp none ▸ member) full
  · exact ⟨entries, same⟩

theorem assignAll_nothing (nothing : endsOf pairs = []) (data : Value) :
    assignAll pairs data = .ok data := by
  induction pairs with
  | nil => rfl
  | cons pair rest ih =>
    obtain ⟨_ | path, value⟩ := pair
    · exact ih nothing
    · cases nothing

theorem dig_assignAll_apart {keys : List String} (ok : assignAll pairs data = .ok extended)
    (apart : ∀ other ∈ endsOf pairs, Apart other keys) : dig keys extended = dig keys data := by
  induction pairs generalizing data with
  | nil =>
    cases ok
    rfl
  | cons pair rest ih =>
    obtain ⟨_ | path, value⟩ := pair
    · exact ih ok apart
    · obtain ⟨inner, assigned, ok⟩ := bind_success ok
      rw [ih ok fun other member => apart other (List.mem_cons_of_mem _ member)]
      exact dig_assign_apart assigned (apart path.keys List.mem_cons_self)

/-- The last of the values that go to the end of a row of keys. -/
def IsLast (pairs : List (Option Path × Value)) (keys : List String) (value : Value) : Prop :=
  ∃ before path after, pairs = before ++ (some path, value) :: after ∧ path.keys = keys ∧
    keys ∉ endsOf after

theorem exists_isLast {keys : List String} (member : keys ∈ endsOf pairs) :
    ∃ value, IsLast pairs keys value := by
  induction pairs with
  | nil => cases member
  | cons pair rest ih =>
    by_cases again : keys ∈ endsOf rest
    · obtain ⟨value, before, path, after, rfl, same, last⟩ := ih again
      exact ⟨value, pair :: before, path, after, rfl, same, last⟩
    · obtain ⟨_ | path, value⟩ := pair
      · exact absurd member again
      · obtain rfl | absent := List.mem_cons.mp member
        · exact ⟨value, [], path, rest, rfl, rfl, again⟩
        · exact absurd absent again

theorem assignAll_append (front back : List (Option Path × Value)) (data : Value) :
    assignAll (front ++ back) data = assignAll front data >>= assignAll back := by
  induction front generalizing data with
  | nil => rfl
  | cons pair rest ih =>
    obtain ⟨_ | path, value⟩ := pair
    · exact ih data
    · cases assigned : assign value path.keys data with
      | error reason => simp [assignAll, assigned, bind, Except.bind]
      | ok inner =>
        simp only [List.cons_append, assignAll, assigned]
        exact ih inner

theorem dig_assignAll_last {keys : List String} {value : Value}
    (ok : assignAll pairs data = .ok extended) (ends : AreEnds (endsOf pairs))
    (last : IsLast pairs keys value) : dig keys extended = some value := by
  obtain ⟨before, path, after, rfl, rfl, unwritten⟩ := last
  rw [assignAll_append] at ok
  obtain ⟨between, -, ok⟩ := bind_success ok
  obtain ⟨inner, assigned, ok⟩ := bind_success ok
  have inside : ∀ keys ∈ endsOf ((some path, value) :: after),
      keys ∈ endsOf (before ++ (some path, value) :: after) := fun keys member => by
    unfold endsOf
    rw [List.filterMap_append]
    exact List.mem_append_right _ member
  rw [dig_assignAll_apart ok]
  · exact dig_assign_self assigned
  · intro other later
    obtain same | apart := ends other (inside other (List.mem_cons_of_mem _ later)) path.keys
      (inside path.keys List.mem_cons_self)
    · exact absurd (same ▸ later) unwritten
    · exact apart

/-- At the end of a path there is the last of the values that go there. -/
theorem dig_assignAll {keys : List String} (ok : assignAll pairs data = .ok extended)
    (ends : AreEnds (endsOf pairs)) (member : keys ∈ endsOf pairs) :
    ∃ path value, (some path, value) ∈ pairs ∧ path.keys = keys ∧
      dig keys extended = some value := by
  obtain ⟨value, last⟩ := exists_isLast member
  have held := dig_assignAll_last ok ends last
  obtain ⟨before, path, after, rfl, same, -⟩ := last
  exact ⟨path, value, List.mem_append_right _ List.mem_cons_self, same, held⟩

end Assembling

end Querywright
