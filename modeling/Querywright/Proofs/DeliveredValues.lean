import Querywright.Proofs.RecordLoading
import Querywright.Proofs.ResolvedPaths

/-! The values of matched columns in the records that rows are loaded into. Where the ways of the
columns are apart and lead through fields that are read under their input keys, each field at the
end of a path holds its column's value as the field takes it. -/
namespace Querywright

/-- The field at the end of each matched column's path holds what it makes of the column's value. -/
def Schema.Delivers (schema : Schema) (name : String) (columns : List String) (row : List Value)
    (record : Value) : Prop :=
  ∀ path value, (some path, value) ∈ (schema.columnPaths name columns).zip row →
    ∃ rule leaf, schema.Leads name path rule ∧ fit schema rule.type value = .ok leaf ∧
      valueAt path.names record = some leaf.value

/-- The paths of the columns are apart, and so are their keys. -/
def Schema.AreApart (schema : Schema) (name : String) (columns : List String) : Prop :=
  (schema.resolved name columns).Pairwise fun one other => Apart one.keys other.keys

instance (schema : Schema) (name : String) (columns : List String) :
    Decidable (schema.AreApart name columns) :=
  inferInstanceAs (Decidable (List.Pairwise _ _))

section Reading

variable {schema : Schema} (once : ∀ type ∈ schema, type.NamesOnce) {name : String}
  {paths : List Path} {path : Path} {inUse : List String → Prop} {whole value : Value}

include once

/-- A value that stands at the end of a path is taken by the field there, from any record on the way
inwards. -/
theorem value_delivered (follows : schema.Follows name path)
    (reads : schema.ReadsFirst name paths inUse) (member : path ∈ paths)
    (used : ∀ (above : Path) field rest, path = above ++ field :: rest → ∀ key found,
      dig (above.keys ++ [key]) whole = some found → inUse (above.keys ++ [key]))
    (held : dig path.keys whole = some value) (below above : Path) (way : path = above ++ below)
    (full : below ≠ []) {type : RecordType} (known : schema.typeAt? name above.names = some type)
    {entries : Entries} {made : Fitted} (node : dig above.keys whole = some (.mapping entries))
    (fits : fit schema (.record type.name) (.mapping entries) = .ok made) :
    ∃ rule leaf, schema.Leads name path rule ∧ fit schema rule.type value = .ok leaf ∧
      valueAt below.names made.value = some leaf.value := by
  induction below generalizing above type entries made with
  | nil => exact absurd rfl full
  | cons field rest ih =>
    obtain ⟨type', rule, known', open', rfl, nested⟩ := follows.step above field rest way
    obtain rfl : type = type' := Option.some.inj (known.symm.trans known')
    have inside : rule ∈ type.fields := RecordType.fields_of_openFields open'
    have onceHere : type.NamesOnce :=
      once type (Schema.mem_of_find? (Schema.typeAt?_find? known)).1
    have first := reads path member above _ rest way type known rule inside rfl
    -- What stands under the input key, with the value at the end of the rest of the way.
    obtain ⟨inner, present, there⟩ : ∃ inner,
        Entries.get? (.text rule.inputKey) entries = some inner ∧
          dig (Path.keys rest) inner = some value := by
      rw [way, Path.keys_append, dig_append, node] at held
      exact Option.bind_eq_some_iff.mp held
    obtain ⟨leaf, taken, found⟩ := first.taken onceHere (Schema.typeAt?_find? known) inside
      (fun key found here => used above _ rest way key found (by rw [dig_entry node]; exact here))
      present fits
    change ∃ _ _, _ ∧ _ ∧ valueAt (rule.name :: Path.names rest) made.value = _
    rw [found]
    cases rest with
    | nil =>
      cases there
      exact ⟨rule, leaf, ⟨above, type, way, known, open'⟩, taken, rfl⟩
    | cons next rest =>
      obtain ⟨innerName, nested⟩ := nested (List.cons_ne_nil _ _)
      have onward : path = (above ++ [(rule.name, rule.inputKey)]) ++ next :: rest := by
        rw [way, List.append_assoc]
        rfl
      obtain ⟨innerType, -, known', -⟩ := follows.step _ next rest onward
      have entered : schema.find? innerName = some innerType := by
        rw [← Schema.typeAt?_snoc once known inside nested, ← known', Path.names_append]
        rfl
      cases inner with
      | mapping below =>
        rw [fit_nested schema nested, ← (Schema.mem_of_find? entered).2] at taken
        refine ih _ onward (List.cons_ne_nil _ _) known' ?_ taken
        rw [Path.keys_append]
        exact (dig_entry node _).trans present
      | _ => cases there

end Reading

section Rows

variable {schema : Schema} {name : String} {columns : List String} {row : List Value}
  {path other : Path} {value last data : Value}

theorem zip_pairwise {α β : Type} {relation : α → α → Prop} {items : List α}
    (related : items.Pairwise relation) (values : List β) :
    (items.zip values).Pairwise fun one other => relation one.1 other.1 := by
  induction items generalizing values with
  | nil => exact .nil
  | cons item rest ih =>
    cases values with
    | nil => exact .nil
    | cons value values =>
      obtain ⟨here, later⟩ := List.pairwise_cons.mp related
      exact .cons (fun pair member => here _ (List.of_mem_zip member).1) (ih later values)

/-- Two values go to one place only if they are one value of one column. -/
theorem Schema.AreApart.pairs (apart : schema.AreApart name columns)
    (here : (some path, value) ∈ (schema.columnPaths name columns).zip row)
    (there : (some other, last) ∈ (schema.columnPaths name columns).zip row) :
    path = other ∧ value = last ∨ Apart path.keys other.keys := by
  let related (one other : Option Path) : Prop :=
    ∀ path, one = some path → ∀ another, other = some another → Apart path.keys another.keys
  have paths : (schema.columnPaths name columns).Pairwise related :=
    List.pairwise_map.mpr (List.pairwise_filterMap.mp apart)
  have pairs := zip_pairwise paths row
  by_cases same : (some path, value) = (some other, last)
  · cases same
    exact .inl ⟨rfl, rfl⟩
  · have : Std.Symm fun one other : Option Path × Value => related one.1 other.1 :=
      ⟨fun _ _ forth path left another right => (forth another right path left).symm⟩
    exact .inr (pairs.forall here there same path rfl other rfl)

theorem Schema.AreApart.ends (apart : schema.AreApart name columns) (row : List Value) :
    AreEnds (endsOf ((schema.columnPaths name columns).zip row)) := by
  have : Std.Symm fun one other : Path => Apart one.keys other.keys := ⟨fun _ _ => Apart.symm⟩
  have orSame : schema.AreApartOrSame name columns := fun one here other there =>
    or_iff_not_imp_left.mpr (apart.forall here there)
  exact orSame.ends row

/-- Each value of a row stands where its path ends. -/
theorem Schema.AreApart.assembled (apart : schema.AreApart name columns)
    (ok : assemble (schema.columnPaths name columns) row = .ok data)
    (member : (some path, value) ∈ (schema.columnPaths name columns).zip row) :
    dig path.keys data = some value := by
  obtain ⟨other, last, there, same, held⟩ := dig_assignAll ok (apart.ends row)
    (mem_endsOf.mpr ⟨path, value, member, rfl⟩)
  obtain ⟨-, rfl⟩ | distinct := apart.pairs member there
  · exact held
  · rw [same] at distinct
    exact absurd (List.prefix_refl _) distinct.1

end Rows

section Loading

variable {schema : Schema} (once : ∀ type ∈ schema, type.NamesOnce) {name : String}
  {columns : List String} {row : List Value}

include once

/-- A whole that fits makes a record that holds the values at the ends of the paths. -/
theorem fit_delivers {inUse : List String → Prop} {path : Path} {whole value : Value}
    {made : Fitted}
    (resolved : path ∈ schema.resolved name columns)
    (reads : schema.ReadsFirst name (schema.resolved name columns) inUse)
    (used : ∀ (above : Path) field rest, path = above ++ field :: rest → ∀ key found,
      dig (above.keys ++ [key]) whole = some found → inUse (above.keys ++ [key]))
    (held : dig path.keys whole = some value) (fits : fit schema (.record name) whole = .ok made) :
    ∃ rule leaf, schema.Leads name path rule ∧ fit schema rule.type value = .ok leaf ∧
      valueAt path.names made.value = some leaf.value := by
  have follows := Schema.resolved_follows once resolved
  obtain ⟨field, rest, rfl⟩ := List.exists_cons_of_ne_nil follows.full
  obtain ⟨type, -, known, -⟩ := follows.step [] field rest rfl
  cases whole with
  | mapping entries =>
    rw [← (Schema.mem_of_find? known).2] at fits
    exact value_delivered once follows reads resolved used held _ [] rfl (List.cons_ne_nil _ _)
      known rfl fits
  | _ => cases held

/-- What a path finds in the record made it finds in the record loaded. -/
theorem valueAt_replaceFields {fields loaded : List (String × Value)} {path : Path}
    {made leaf : Value}
    (named : ∀ type, schema.find? name = some type →
      fields.map (·.1) = type.fields.map (·.name))
    (resolved : path ∈ schema.resolved name columns)
    (taken : ∀ other fresh, made = .record other fresh → loaded =
      replaceFields (touchedFields (schema.columnPaths name columns)) fresh fields)
    (there : valueAt path.names made = some leaf) :
    valueAt path.names (.record name loaded) = some leaf := by
  have follows := Schema.resolved_follows once resolved
  obtain ⟨field, rest, rfl⟩ := List.exists_cons_of_ne_nil follows.full
  obtain ⟨type, rule, known, open', rfl, -⟩ := follows.step [] field rest rfl
  cases made with
  | record other fresh =>
    obtain ⟨found, fresh', below⟩ := Option.bind_eq_some_iff.mp there
    have touched : rule.name ∈ touchedFields (schema.columnPaths name columns) :=
      List.mem_filterMap.mpr ⟨_, Schema.mem_resolved.mp resolved, rfl⟩
    obtain ⟨old, present⟩ : ∃ old, fields.lookup rule.name = some old := by
      refine lookup_isSome_of_names ?_
      rw [named type known]
      exact List.mem_map_of_mem (RecordType.fields_of_openFields open')
    change (loaded.lookup rule.name).bind _ = _
    rw [taken other fresh rfl, lookup_replaceFields, present, Option.map_some,
      if_pos (List.contains_iff_mem.mpr touched), fresh']
    exact below
  | _ => cases there

theorem elementOf_delivers (apart : schema.AreApart name columns)
    (reads : schema.ReadsFirst name (schema.resolved name columns)
      (schema.IsReached name columns)) {element : Value}
    (ok : elementOf schema columns (.record name) row = .ok element) :
    schema.Delivers name columns row element := by
  intro path value member
  obtain ⟨data, assembled, valid⟩ := bind_success ok
  unfold validate at valid
  split at valid
  · rename_i made fits
    cases valid
    exact fit_delivers once (Schema.mem_resolved_of_zip member) reads
      (fun above field rest way key found => assemble_reached assembled (apart.ends row) member way)
      (apart.assembled assembled member) fits
  · cases valid

theorem loadRecord_delivers (apart : schema.AreApart name columns)
    {fields loaded : List (String × Value)}
    (named : ∀ type, schema.find? name = some type →
      fields.map (·.1) = type.fields.map (·.name))
    (reads : schema.ReadsFirst name (schema.resolved name columns) fun keys =>
      schema.IsReached name columns keys ∨
        (dig keys (written schema (.record name fields))).isSome = true)
    (unmixed : ∀ path added, (some path, .mapping added) ∈
      (schema.columnPaths name columns).zip row → ∀ entries,
        dig path.keys (written schema (.record name fields)) ≠ some (.mapping entries))
    (ok : loadRecord schema name fields columns row = .ok loaded) :
    schema.Delivers name columns row (.record name loaded) := by
  intro path value member
  have resolved := Schema.mem_resolved_of_zip member
  have follows := Schema.resolved_follows once resolved
  obtain ⟨data, assembled, rfl | ⟨made, fits, taken⟩⟩ := loadRecord_success ok
  · have held := apart.assembled assembled member
    obtain ⟨field, rest, rfl⟩ := List.exists_cons_of_ne_nil follows.full
    cases held
  · have grown := assemble_grown assembled
    have held := apart.assembled assembled member
    let base := written schema (.record name fields)
    have laid : dig path.keys (overlay data (some base)) = some value := by
      rw [grown.laid (apart.ends row) (mem_endsOf.mpr ⟨path, value, member, rfl⟩) held]
      refine congrArg some (overlay_unmixed fun added entries same => ?_)
      subst same
      exact unmixed path added member entries
    obtain ⟨rule, leaf, leads, took, there⟩ := fit_delivers once resolved reads
      (fun above field rest way key found =>
        laid_used assembled (apart.ends row) member held way base key) laid fits
    exact ⟨rule, leaf, leads, took, valueAt_replaceFields once named resolved taken there⟩

end Loading

theorem elementsOf_success {schema : Schema} {columns : List String} {rule : ElementRule}
    {rows : List (List Value)} {elements : List Value}
    (ok : elementsOf schema columns rule rows = (elements, none)) :
    List.Forall₂ (fun row element => elementOf schema columns rule row = .ok element) rows
      elements := by
  induction rows generalizing elements with
  | nil =>
    cases ok
    exact .nil
  | cons row rest ih =>
    unfold elementsOf at ok
    split at ok
    · cases ok
    · rename_i element made
      obtain ⟨rfl, none⟩ := Prod.mk.inj ok
      exact .cons made (ih (Prod.ext rfl none))

/-- A matched column's value is delivered. A list is filled with records that hold, at the end of
each path, what the field there makes of exactly that column's value, and so does a record that a
row is loaded into, whatever it held. The paths of the columns and their keys are apart, and each
field on them is read under its input key: none of the keys tried before it is one that the columns
reach, or one that the record is written out with. Of a mapping that meets a mapping of the record
nothing is said. -/
theorem matched_values_delivered (schema : Schema) (once : ∀ type ∈ schema, type.NamesOnce)
    (name : String) (columns : List String) (apart : schema.AreApart name columns) :
    (schema.ReadsFirst name (schema.resolved name columns) (schema.IsReached name columns) →
      ∀ (items : List Value) (rows : List (List Value)) count elements,
        load schema (.list (.record name)) (.list items) columns rows =
          (.ok count, .list elements) →
        List.Forall₂ (schema.Delivers name columns) rows elements) ∧
    (∀ (fields : List (String × Value)) (row : List Value) (rows : List (List Value)) count loaded,
      (∀ type, schema.find? name = some type → fields.map (·.1) = type.fields.map (·.name)) →
      (schema.ReadsFirst name (schema.resolved name columns) fun keys =>
        schema.IsReached name columns keys ∨
          (dig keys (written schema (.record name fields))).isSome = true) →
      (∀ path added, (some path, .mapping added) ∈ (schema.columnPaths name columns).zip row →
        ∀ entries, dig path.keys (written schema (.record name fields)) ≠
          some (.mapping entries)) →
      load schema .record (.record name fields) columns (row :: rows) =
        (.ok count, .record name loaded) →
      schema.Delivers name columns row (.record name loaded)) := by
  constructor
  · intro reads items rows count elements ok
    unfold load refill at ok
    dsimp only at ok
    cases made : elementsOf schema columns (.record name) rows with
    | mk found failure =>
      rw [made] at ok
      obtain ⟨success, same⟩ := Prod.mk.inj ok
      cases same
      cases failure with
      | some reason => cases success
      | none =>
        exact (elementsOf_success made).imp fun row element => elementOf_delivers once apart reads
  · intro fields row rows count loaded named reads unmixed ok
    unfold load at ok
    dsimp only at ok
    split at ok
    · rename_i fresh loading
      cases ok
      exact loadRecord_delivers once apart named reads unmixed loading
    · cases ok

/-- Users with a record inside, one field of which has an alias. -/
def addresses : Schema :=
  [{ name := "Profile", fields := [{ name := "city", type := .text, otherName := some "City" }] },
    { name := "User", fields := [{ name := "id", type := .integer },
      { name := "profile", type := .record "Profile" }] }]

def settledUser : List (String × Value) :=
  [("id", .integer 1), ("profile", .record "Profile" [("city", .text "Rome")])]

def movedUser : List (String × Value) :=
  [("id", .integer 2), ("profile", .record "Profile" [("city", .text "Oslo")])]

theorem movedUser_listed : load addresses (.list (.record "User")) (.list []) ["id", "City"]
    [[.integer 2, .text "Oslo"]] = (.ok 1, .list [.record "User" movedUser]) := by
  cbv

theorem movedUser_loaded : load addresses .record (.record "User" settledUser) ["id", "City"]
    [[.integer 2, .text "Oslo"]] = (.ok 1, .record "User" movedUser) := by
  cbv

theorem movedUser_delivered :
    List.Forall₂ (addresses.Delivers "User" ["id", "City"]) [[.integer 2, .text "Oslo"]]
        [.record "User" movedUser] ∧
      addresses.Delivers "User" ["id", "City"] [.integer 2, .text "Oslo"]
        (.record "User" movedUser) := by
  have heads : ∀ type ∈ addresses, ∀ rule ∈ type.fields,
      (rule.readingKeys type.byName).head? = some rule.inputKey := by
    decide
  obtain ⟨listed, kept⟩ := matched_values_delivered addresses (by decide) "User" ["id", "City"]
    (by decide +kernel)
  refine ⟨listed (Schema.readsFirst_of_head heads _ _ _) _ _ _ _ movedUser_listed,
    kept _ _ _ _ _ ?_ (Schema.readsFirst_of_head heads _ _ _) ?_ movedUser_loaded⟩
  · intro type known
    cases known
    rfl
  · intro path added member
    have columns : addresses.columnPaths "User" ["id", "City"] =
        [some [("id", "id")], some [("profile", "profile"), ("city", "City")]] := by
      decide +kernel
    rw [columns] at member
    simp at member

/-- Users whose names are read under other keys only. -/
def choosing : Schema :=
  [{ name := "User", fields := [{ name := "id", type := .integer },
    { name := "name", type := .text, ownReadingAlias := some (.choices ["UserName", "n"])
      fallback := some (.text "none") }] }]

/-- Users with settings that are a mapping. -/
def arranging : Schema :=
  [{ name := "User", fields := [{ name := "settings", type := .mapping }] }]

/-- A column of the record type's own that is delivered is found in the record. -/
theorem Schema.Delivers.own {schema : Schema} {name : String} {columns : List String}
    {row : List Value} {record : Value} (delivers : schema.Delivers name columns row record)
    (field : String × String) (value : Value)
    (member : (some [field], value) ∈ (schema.columnPaths name columns).zip row) {type : RecordType}
    (known : schema.find? name = some type) :
    ∃ rule ∈ type.fields, rule.name = field.1 ∧ ∃ leaf, fit schema rule.type value = .ok leaf ∧
      valueAt [field.1] record = some leaf.value := by
  obtain ⟨rule, leaf, ⟨above, type', way, known', open'⟩, taken, found⟩ := delivers _ _ member
  obtain ⟨rfl, rfl⟩ : above = [] ∧ field = (rule.name, rule.inputKey) := by
    cases above with
    | nil => simpa using way
    | cons => simp at way
  obtain rfl : type = type' := Option.some.inj (known.symm.trans known')
  exact ⟨rule, RecordType.fields_of_openFields open', rfl, leaf, taken, found⟩

/-- A field that is not read under its input key keeps its default, and a mapping is mixed with the
one that the record held. -/
theorem matched_values_lost :
    (choosing.AreApart "User" ["id", "name"] ∧
      load choosing (.list (.record "User")) (.list []) ["id", "name"]
          [[.integer 2, .text "Ann"]] =
        (.ok 1, .list [.record "User" [("id", .integer 2), ("name", .text "none")]]) ∧
      ¬choosing.Delivers "User" ["id", "name"] [.integer 2, .text "Ann"]
        (.record "User" [("id", .integer 2), ("name", .text "none")])) ∧
    (arranging.AreApart "User" ["settings"] ∧
      load arranging .record
          (.record "User" [("settings", .mapping [(.text "theme", .text "dark")])])
          ["settings"] [[.mapping [(.text "lang", .text "en")]]] =
        (.ok 1, .record "User" [("settings", .mapping
          [(.text "theme", .text "dark"), (.text "lang", .text "en")])]) ∧
      ¬arranging.Delivers "User" ["settings"] [.mapping [(.text "lang", .text "en")]]
        (.record "User" [("settings", .mapping
          [(.text "theme", .text "dark"), (.text "lang", .text "en")])])) := by
  refine ⟨⟨by decide +kernel, by cbv, fun delivers => ?_⟩, by decide +kernel, by cbv,
    fun delivers => ?_⟩
  · have columns : choosing.columnPaths "User" ["id", "name"] =
        [some [("id", "id")], some [("name", "name")]] := by
      decide +kernel
    obtain ⟨rule, inside, named, leaf, taken, found⟩ := delivers.own ("name", "name") (.text "Ann")
      (by rw [columns]; simp) rfl
    obtain rfl | inside := List.mem_cons.mp inside
    · exact absurd named (by decide)
    obtain rfl := List.mem_singleton.mp inside
    rw [fit] at taken
    cases taken
    exact absurd (Value.text.inj (Option.some.inj found)) (by decide)
  · have columns : arranging.columnPaths "User" ["settings"] =
        [some [("settings", "settings")]] := by
      decide +kernel
    obtain ⟨rule, inside, -, leaf, taken, found⟩ := delivers.own ("settings", "settings")
      (.mapping [(.text "lang", .text "en")]) (by rw [columns]; simp) rfl
    obtain rfl := List.mem_singleton.mp inside
    rw [fit] at taken
    cases taken
    exact absurd (Value.mapping.inj (Option.some.inj found)) (by simp)

end Querywright
