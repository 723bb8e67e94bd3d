import Querywright.Proofs.AssembledLeaves
import Querywright.Proofs.DeliveredValues

/-! The order of the columns of a row. Where the keys of the columns' paths are apart, a row comes
to one nested mapping however its columns are ordered; where they are not, there are rows that are
refused in one of the orders, or come to another mapping. -/
namespace Querywright

namespace Value

/-- Values that are equal but for the order in which mappings list their entries. -/
inductive Alike : Value → Value → Prop where
  | same (value : Value) : Alike value value
  | mapping {one other : Entries}
      (keys : ∀ key, Entries.get? key one = none ↔ Entries.get? key other = none)
      (values : ∀ key left right, Entries.get? key one = some left →
        Entries.get? key other = some right → Alike left right) :
      Alike (.mapping one) (.mapping other)

namespace Alike

variable {one other found : Value}

theorem symm (alike : Alike one other) : Alike other one := by
  induction alike with
  | same value => exact .same value
  | mapping keys _ ih =>
    refine .mapping (fun key => (keys key).symm) fun key left right here there => ?_
    exact ih key right left there here

theorem dig (alike : Alike one other) (keys : List String)
    (there : Querywright.dig keys one = some found) :
    ∃ value, Querywright.dig keys other = some value ∧ Alike found value := by
  induction keys generalizing one other with
  | nil =>
    cases there
    exact ⟨other, rfl, alike⟩
  | cons key rest ih =>
    cases alike with
    | same => exact ⟨found, there, .same found⟩
    | mapping keys values =>
      obtain ⟨inner, present, there⟩ := Option.bind_eq_some_iff.mp there
      obtain ⟨second, beside⟩ := Option.ne_none_iff_exists'.mp fun absent =>
        Option.some_ne_none inner (present.symm.trans ((keys (.text key)).mpr absent))
      obtain ⟨value, below, like⟩ := ih (values (.text key) inner second present beside) there
      refine ⟨value, ?_, like⟩
      rw [Querywright.dig, beside]
      exact below

theorem eq_of_beside (alike : Alike one other) (beside : ∀ entries, one ≠ .mapping entries) :
    other = one := by
  cases alike with
  | same => rfl
  | mapping => exact absurd rfl (beside _)

end Alike
end Value

/-- What is written below a place enters the mapping there. -/
theorem assign_enters {above rest : List String} {key : String}
    {value data extended found : Value}
    (ok : assign value (above ++ key :: rest) data = .ok extended)
    (there : dig above data = some found) : ∃ entries, found = .mapping entries := by
  induction above generalizing data extended with
  | nil =>
    obtain ⟨entries, -, rfl, -, -⟩ := assign_cons ok
    cases there
    exact ⟨entries, rfl⟩
  | cons first above ih =>
    obtain ⟨entries, inner, rfl, written, rfl⟩ := assign_cons ok
    obtain ⟨next, present, there⟩ := Option.bind_eq_some_iff.mp there
    rw [present] at written
    exact ih written there

section Assembling

variable {written : List (List String)} {data other : Value}

/-- An entry of a mapping made on the way is on the way itself. -/
theorem Grown.entry {above : List String} {entries : Entries} (grown : Grown written data)
    (named : AreNamedOnWay written data)
    (found : dig above data = some (.mapping entries)) (outside : ∀ path ∈ written, ¬path <+: above)
    {key value : Value} (present : Entries.get? key entries = some value) :
    ∃ name, key = .text name ∧ dig (above ++ [name]) data = some value ∧
      ∃ path ∈ written, above ++ [name] <+: path := by
  have names := (named above entries found).resolve_left fun ⟨path, member, below⟩ =>
    outside path member below
  obtain ⟨name, rfl⟩ := Entries.AreNamed.key names present
  have there : dig (above ++ [name]) data = some value := (dig_entry found name).trans present
  refine ⟨name, rfl, there, ?_⟩
  obtain ⟨path, member, below⟩ | ⟨-, -, -, nothing | onWay⟩ := grown.reached _ value there
  · obtain same | above' := List.prefix_concat_iff.mp below
    · exact ⟨path, member, by rw [same]⟩
    · exact absurd above' (outside path member)
  · exact absurd nothing (by simp)
  · exact onWay

/-- Two mappings that hold the same at the end of each way are alike on the ways. -/
theorem alike_onWay {above : List String} {entries others : Entries} (ends : AreEnds written)
    (grown : Grown written data) (named : AreNamedOnWay written data)
    (grownOther : Grown written other) (namedOther : AreNamedOnWay written other)
    (held : ∀ path ∈ written, ∃ value, dig path data = some value ∧ dig path other = some value)
    (found : dig above data = some (.mapping entries))
    (beside : dig above other = some (.mapping others))
    (outside : ∀ path ∈ written, ¬path <+: above) :
    Value.Alike (.mapping entries) (.mapping others) := by
  have reaches {keys : List String} {path : List String} (member : path ∈ written)
      (onWay : keys <+: path) :
      (∃ value, dig keys data = some value) ∧ ∃ value, dig keys other = some value := by
    obtain ⟨rest, rfl⟩ := onWay
    obtain ⟨value, here, there⟩ := held _ member
    rw [dig_append] at here there
    obtain ⟨left, here, -⟩ := Option.bind_eq_some_iff.mp here
    obtain ⟨right, there, -⟩ := Option.bind_eq_some_iff.mp there
    exact ⟨⟨left, here⟩, ⟨right, there⟩⟩
  refine .mapping (fun key => ?_) fun key left right here there => ?_
  · rw [← not_iff_not, ← ne_eq, ← ne_eq, Option.ne_none_iff_exists', Option.ne_none_iff_exists']
    constructor
    · rintro ⟨value, present⟩
      obtain ⟨name, rfl, -, path, member, onWay⟩ := grown.entry named found outside present
      obtain ⟨-, right, there⟩ := reaches member onWay
      exact ⟨right, (dig_entry beside name).symm.trans there⟩
    · rintro ⟨value, present⟩
      obtain ⟨name, rfl, -, path, member, onWay⟩ :=
        grownOther.entry namedOther beside outside present
      obtain ⟨⟨left, here⟩, -⟩ := reaches member onWay
      exact ⟨left, (dig_entry found name).symm.trans here⟩
  · obtain ⟨name, rfl, left', path, member, rest, rfl⟩ := grown.entry named found outside here
    have right' := (dig_entry beside name).trans there
    cases rest with
    | nil =>
      rw [List.append_nil] at member
      obtain ⟨value, first, second⟩ := held _ member
      rw [left'] at first
      rw [right'] at second
      cases first
      cases second
      exact .same _
    | cons next rest =>
      obtain ⟨below, rfl, -⟩ := grown.node ends member left'
      obtain ⟨under, rfl, -⟩ := grownOther.node ends member right'
      have smaller := sizeOf_lt_of_get? here
      exact alike_onWay ends grown named grownOther namedOther held left' right'
        fun path present => ends.not_below member present
termination_by sizeOf entries
decreasing_by
  simp at smaller
  omega

variable {pairs permuted : List (Option Path × Value)}

/-- Pairs that are assembled in another order come to the same mapping, where no path's keys go on
behind those of another and no place is given two values. -/
theorem assignAll_alike (same : pairs.Perm permuted) (ends : AreEnds (endsOf pairs))
    (full : [] ∉ endsOf pairs)
    (unique : ∀ path value another last, (some path, value) ∈ pairs →
      (some another, last) ∈ pairs → path.keys = another.keys → value = last)
    (ok : assignAll pairs (.mapping []) = .ok data)
    (okOther : assignAll permuted (.mapping []) = .ok other) : data.Alike other := by
  have again : ∀ keys, keys ∈ endsOf permuted ↔ keys ∈ endsOf pairs := fun keys =>
    (same.filterMap _).mem_iff.symm
  have endsOther : AreEnds (endsOf permuted) := ends.mono fun keys member => (again keys).mp member
  have grown := grown_assignAll ok
  have grownOther := (grown_assignAll okOther).mono fun keys member => (again keys).mp member
  have held : ∀ path ∈ endsOf pairs, ∃ value, dig path data = some value ∧
      dig path other = some value := fun keys member => by
    obtain ⟨path, value, here, rfl, found⟩ := dig_assignAll ok ends member
    obtain ⟨another, last, there, equal, beside⟩ :=
      dig_assignAll okOther endsOther ((again _).mpr member)
    obtain rfl := unique path value another last here (same.mem_iff.mpr there) equal.symm
    exact ⟨value, found, beside⟩
  have outside : ∀ path ∈ endsOf pairs, ¬path <+: [] := fun path member none =>
    full (List.prefix_nil.mp none ▸ member)
  obtain ⟨entries, rfl⟩ := assignAll_mapping ok full
  obtain ⟨others, rfl⟩ := assignAll_mapping okOther fun member => full ((again []).mp member)
  have named := assignAll_named ok
  have namedOther := (assignAll_named okOther).mono fun keys member => (again keys).mp member
  exact alike_onWay ends grown named grownOther namedOther held rfl rfl outside

theorem assignAll_last_two {upper lower : Path} {value last : Value}
    (ok : assignAll (pairs ++ [(some upper, value), (some lower, last)]) data = .ok other) :
    ∃ before between, assign value upper.keys before = .ok between ∧
      assign last lower.keys between = .ok other := by
  rw [assignAll_append] at ok
  obtain ⟨before, -, ok⟩ := bind_success ok
  obtain ⟨between, first, ok⟩ := bind_success ok
  obtain ⟨after, second, ok⟩ := bind_success ok
  cases ok
  exact ⟨before, between, first, second⟩

end Assembling

namespace Schema

/-- A row is put together, and in whatever order its columns come, their values with them, it comes
to one nested mapping. -/
def IsOrderFree (schema : Schema) (name : String) (columns : List String) (row : List Value) :
    Prop :=
  ∃ data, assemble (schema.columnPaths name columns) row = .ok data ∧
    ∀ others values, values.length = others.length → (columns.zip row).Perm (others.zip values) →
      ∃ other, assemble (schema.columnPaths name others) values = .ok other ∧ data.Alike other

/-- Each value of a row stands at the end of its column's path as it was: none is written into. -/
def KeepsValues (schema : Schema) (name : String) (columns : List String) (row : List Value)
    (data : Value) : Prop :=
  ∀ column value, (column, value) ∈ columns.zip row → ∀ path,
    schema.findPath name column [] = some path → dig path.keys data = some value

variable {schema : Schema} {name : String} {columns : List String} {row : List Value}

theorem columnPaths_zip (schema : Schema) (name : String) (columns : List String)
    (row : List Value) : (schema.columnPaths name columns).zip row =
      (columns.zip row).map fun cell => (schema.findPath name cell.1 [], cell.2) := by
  unfold columnPaths
  rw [List.zip_map_left]
  rfl

theorem findPath_full {column : String} {seen : List String} {path : Path}
    (found : schema.findPath name column seen = some path) : path ≠ [] := by
  obtain ⟨type, rule, -, -, rfl | ⟨inner, below, -, -, -, rfl⟩⟩ := findPath_cases found
  · exact List.cons_ne_nil _ _
  · exact List.cons_ne_nil _ _

theorem AreApart.orderFree (apart : schema.AreApart name columns) (row : List Value) :
    schema.IsOrderFree name columns row := by
  have ends := apart.ends row
  obtain ⟨data, ok⟩ := exists_assignAll ends
  refine ⟨data, ok, fun others values _ same => ?_⟩
  have pairs : ((schema.columnPaths name columns).zip row).Perm
      ((schema.columnPaths name others).zip values) := by
    rw [columnPaths_zip, columnPaths_zip]
    exact same.map _
  have endsOther : AreEnds (endsOf ((schema.columnPaths name others).zip values)) :=
    ends.mono fun keys member => (pairs.filterMap _).mem_iff.mpr member
  obtain ⟨other, okOther⟩ := exists_assignAll endsOther
  refine ⟨other, okOther, assignAll_alike pairs ends (fun member => ?_) ?_ ok okOther⟩
  · obtain ⟨path, value, inside, none⟩ := mem_endsOf.mp member
    obtain ⟨column, -, found⟩ := List.mem_filterMap.mp (mem_resolved_of_zip inside)
    exact findPath_full found (List.map_eq_nil_iff.mp none)
  · intro path value another last here there equal
    obtain ⟨-, same⟩ | distinct := apart.pairs here there
    · exact same
    · exact absurd (equal ▸ List.prefix_refl _) distinct.1

theorem AreApart.keepsValues (apart : schema.AreApart name columns) {data : Value}
    (ok : assemble (schema.columnPaths name columns) row = .ok data) :
    schema.KeepsValues name columns row data := by
  intro column value member path found
  refine apart.assembled ok ?_
  rw [columnPaths_zip]
  exact List.mem_map.mpr ⟨_, member, by rw [found]⟩

/-- A row whose values are told by its columns comes to like mappings in every order of these. -/
theorem IsOrderFree.assembled {value : String → Value}
    (free : schema.IsOrderFree name columns (columns.map value)) :
    ∃ data : Value, ∀ order, columns.Perm order → ∃ other,
      assignAll (order.map fun column => (schema.findPath name column [], value column))
        (.mapping []) = .ok other ∧ data.Alike other := by
  have zipped (columns : List String) : columns.zip (columns.map value) =
      columns.map fun column => (column, value column) := by
    have both := @List.zip_map' _ _ _ id value columns
    simpa using both
  obtain ⟨data, -, again⟩ := free
  refine ⟨data, fun order permuted => ?_⟩
  obtain ⟨other, ok, like⟩ := again order (order.map value) (List.length_map _)
    (by rw [zipped, zipped]; exact permuted.map _)
  rw [assemble, columnPaths_zip, zipped, List.map_map] at ok
  exact ⟨other, ok, like⟩

/-- Where rows come to one mapping in every order, no column's keys begin those of another: the
value of the second column would be written into that of the first, or over it. -/
theorem not_prefix_of_orderFree
    (free : ∀ row : List Value, row.length = columns.length → schema.IsOrderFree name columns row)
    {first second : String} (different : first ≠ second) {rest : List String}
    (same : columns.Perm (first :: second :: rest)) {upper lower : Path}
    (foundFirst : schema.findPath name first [] = some upper)
    (foundSecond : schema.findPath name second [] = some lower) :
    ¬upper.keys <+: lower.keys := by
  intro below
  let value (column : String) : Value := if column = second then .integer 1 else .null
  have held : value first = .null ∧ value second = .integer 1 := by simp [value, different]
  obtain ⟨data, runs⟩ := (free (columns.map value) (List.length_map _)).assembled
  obtain ⟨one, okOne, likeOne⟩ := runs (rest ++ [first, second])
    (same.trans (List.perm_append_comm : ([first, second] ++ rest).Perm _))
  obtain ⟨two, okTwo, likeTwo⟩ := runs (rest ++ [second, first])
    ((same.trans (List.Perm.swap ..)).trans
      (List.perm_append_comm : ([second, first] ++ rest).Perm _))
  simp only [List.map_append, List.map_cons, List.map_nil, foundFirst, foundSecond, held.1,
    held.2] at okOne okTwo
  obtain ⟨_, between, first, second⟩ := assignAll_last_two okOne
  obtain ⟨_, _, -, last⟩ := assignAll_last_two okTwo
  obtain ⟨further, split⟩ := below
  cases further with
  | cons key further =>
    rw [← split] at second
    obtain ⟨entries, mapping⟩ := assign_enters second (dig_assign_self first)
    cases mapping
  | nil =>
    rw [List.append_nil] at split
    rw [split] at last
    obtain ⟨found, here, like⟩ := likeOne.symm.dig lower.keys (dig_assign_self second)
    obtain rfl := like.eq_of_beside (by simp)
    obtain ⟨found, there, like⟩ := likeTwo.dig lower.keys here
    obtain rfl := like.eq_of_beside (by simp)
    rw [dig_assign_self last] at there
    cases there

end Schema

/-- Exactly where the keys of the columns' paths are apart, every row is put together and comes to
one nested mapping however its columns are ordered; and then its values are kept as they were. -/
theorem row_in_any_order (schema : Schema) (name : String) (columns : List String)
    (distinct : columns.Nodup) :
    (schema.AreApart name columns ↔
      ∀ row : List Value, row.length = columns.length → schema.IsOrderFree name columns row) ∧
    (schema.AreApart name columns → ∀ (row : List Value) (data : Value),
      assemble (schema.columnPaths name columns) row = .ok data →
        schema.KeepsValues name columns row data) := by
  refine ⟨⟨fun apart row _ => apart.orderFree row, fun free => ?_⟩,
    fun apart row data ok => apart.keepsValues ok⟩
  refine List.pairwise_filterMap.mpr (List.pairwise_iff_forall_sublist.mpr ?_)
  intro first second inside upper foundFirst lower foundSecond
  have different : first ≠ second := by
    have pair := distinct.sublist inside
    simpa using pair
  obtain ⟨rest, same⟩ := inside.exists_perm_append
  exact ⟨Schema.not_prefix_of_orderFree free different same foundFirst foundSecond,
    Schema.not_prefix_of_orderFree free different.symm (same.trans (List.Perm.swap ..))
      foundSecond foundFirst⟩

/-- Guests have a stay of their own record type. -/
def guests : Schema :=
  [{ name := "Guest"
     fields := [{ name := "name", type := .text }, { name := "stay", type := .record "Stay" }] },
    { name := "Stay"
      fields := [{ name := "night", type := .integer }, { name := "room", type := .text }] }]

theorem guestRow_in_any_order :
    ["room", "name", "floor", "night"].Nodup ∧
      guests.AreApart "Guest" ["room", "name", "floor", "night"] ∧
      ∀ row : List Value, row.length = 4 →
        guests.IsOrderFree "Guest" ["room", "name", "floor", "night"] row := by
  have apart : guests.AreApart "Guest" ["room", "name", "floor", "night"] := by decide +kernel
  have free := row_in_any_order guests "Guest" ["room", "name", "floor", "night"] (by decide)
  exact ⟨by decide, apart, fun row four => free.1.mp apart row four⟩

/-- A column may go to a whole record and another one to a field inside. The row is refused in one
of the two orders; and a mapping for the record has the value of the field written into it. -/
theorem stay_written_into :
    ["stay", "night"].Nodup ∧
      guests.columnPaths "Guest" ["stay", "night"] =
        [some [("stay", "stay")], some [("stay", "stay"), ("night", "night")]] ∧
      assemble (guests.columnPaths "Guest" ["stay", "night"]) [.integer 7, .integer 3] =
        .error (.misuse (.unassignable "int")) ∧
      assemble (guests.columnPaths "Guest" ["night", "stay"]) [.integer 3, .integer 7] =
        .ok (.mapping [(.text "stay", .integer 7)]) ∧
      assemble (guests.columnPaths "Guest" ["stay", "night"])
          [.mapping [(.text "night", .integer 1)], .integer 3] =
        .ok (.mapping [(.text "stay", .mapping [(.text "night", .integer 3)])]) ∧
      ¬guests.KeepsValues "Guest" ["stay", "night"]
        [.mapping [(.text "night", .integer 1)], .integer 3]
        (.mapping [(.text "stay", .mapping [(.text "night", .integer 3)])]) := by
  have paths : guests.columnPaths "Guest" ["stay", "night"] =
      [some [("stay", "stay")], some [("stay", "stay"), ("night", "night")]] := by decide +kernel
  have swapped : guests.columnPaths "Guest" ["night", "stay"] =
      [some [("stay", "stay"), ("night", "night")], some [("stay", "stay")]] := by decide +kernel
  refine ⟨by decide, paths, by rw [paths]; rfl, by rw [swapped]; rfl, by rw [paths]; rfl, ?_⟩
  intro kept
  have found : guests.findPath "Guest" "stay" [] = some [("stay", "stay")] := by decide +kernel
  have held := kept "stay" (.mapping [(.text "night", .integer 1)]) List.mem_cons_self _ found
  cases held

end Querywright
