import Querywright.Proofs.AssembledRows
import Querywright.Proofs.RecordFitting

/-! The fields that resolved paths lead to. A path goes from record type to record type, by names
that find the same fields in the record made; a field is read under its input key where none of the
keys tried before it is in use. -/
namespace Querywright

def Path.names (path : Path) : List String :=
  path.map (·.1)

theorem Path.names_append (above below : Path) :
    Path.names (above ++ below) = Path.names above ++ Path.names below :=
  List.map_append

theorem Path.keys_append (above below : Path) :
    Path.keys (above ++ below) = Path.keys above ++ Path.keys below :=
  List.map_append

namespace RecordType

/-- No two fields have one name. -/
def NamesOnce (type : RecordType) : Prop :=
  (type.fields.map (·.name)).Nodup

instance (type : RecordType) : Decidable type.NamesOnce :=
  inferInstanceAs (Decidable (type.fields.map (·.name)).Nodup)

theorem rule_unique {type : RecordType} (once : type.NamesOnce) {one other : FieldRule}
    (here : one ∈ type.fields) (there : other ∈ type.fields) (same : one.name = other.name) :
    one = other :=
  List.inj_on_of_nodup_map once here there same

theorem find?_rule {type : RecordType} (once : type.NamesOnce) {rule : FieldRule}
    (member : rule ∈ type.fields) : type.fields.find? (·.name == rule.name) = some rule := by
  cases found : type.fields.find? (·.name == rule.name) with
  | none => simpa using List.find?_eq_none.mp found rule member
  | some other =>
    have same : other.name = rule.name := by simpa using List.find?_some found
    rw [rule_unique once (List.mem_of_find?_eq_some found) member same]

theorem fields_of_openFields {type : RecordType} {rule : FieldRule}
    (member : rule ∈ type.openFields) : rule ∈ type.fields :=
  List.mem_of_mem_filter member

end RecordType

theorem lookup_rules {α : Type} {rules : List FieldRule} (once : (rules.map (·.name)).Nodup)
    (value : FieldRule → α) {rule : FieldRule} (member : rule ∈ rules) :
    (rules.map fun rule => (rule.name, value rule)).lookup rule.name = some (value rule) := by
  induction rules with
  | nil => cases member
  | cons first rest ih =>
    obtain ⟨fresh, later⟩ := List.nodup_cons.mp once
    rw [List.map_cons, List.lookup_cons]
    obtain rfl | inside := List.mem_cons.mp member
    · rw [beq_self_eq_true]
    · have other : (rule.name == first.name) = false :=
        beq_eq_false_iff_ne.mpr fun same => fresh (List.mem_map.mpr ⟨rule, inside, same⟩)
      rw [other]
      exact ih later inside

namespace Schema

/-- The record type that the names of fields lead to from another one. -/
def typeAt? (schema : Schema) : String → List String → Option RecordType
  | name, [] => schema.find? name
  | name, field :: rest =>
    (schema.find? name).bind fun type => (type.fields.find? (·.name == field)).bind fun rule =>
      rule.type.record?.bind fun inner => typeAt? schema inner rest

/-- The paths of the columns that have one. -/
def resolved (schema : Schema) (name : String) (columns : List String) : List Path :=
  columns.filterMap fun column => schema.findPath name column []

theorem mem_resolved {schema : Schema} {name : String} {columns : List String} {path : Path} :
    path ∈ schema.resolved name columns ↔ some path ∈ schema.columnPaths name columns := by
  unfold resolved columnPaths
  rw [List.mem_filterMap, List.mem_map]

/-- A path leads from a record type to a field when it ends with the field's name and input key,
behind what leads to the field's record type. -/
def Leads (schema : Schema) (name : String) (path : Path) (rule : FieldRule) : Prop :=
  ∃ (above : Path) (type : RecordType), path = above ++ [(rule.name, rule.inputKey)] ∧
    schema.typeAt? name above.names = some type ∧ rule ∈ type.openFields

/-- A column's path goes through fields that are not excluded, each but the last one behind the
other being of a record type. -/
structure Follows (schema : Schema) (name : String) (path : Path) : Prop where
  full : path ≠ []
  step : ∀ (above : Path) field rest, path = above ++ field :: rest →
    ∃ type rule, schema.typeAt? name above.names = some type ∧ rule ∈ type.openFields ∧
      field = (rule.name, rule.inputKey) ∧ (rest ≠ [] → ∃ inner, rule.type.record? = some inner)

theorem mem_of_find? {schema : Schema} {name : String} {type : RecordType}
    (found : schema.find? name = some type) : type ∈ schema ∧ type.name = name := by
  unfold find? at found
  exact ⟨List.mem_of_find?_eq_some found, by simpa using List.find?_some found⟩

theorem typeAt?_find? {schema : Schema} {name : String} {names : List String} {type : RecordType}
    (found : schema.typeAt? name names = some type) : schema.find? type.name = some type := by
  induction names generalizing name with
  | nil =>
    rw [(mem_of_find? found).2]
    exact found
  | cons field rest ih =>
    obtain ⟨outer, -, found⟩ := Option.bind_eq_some_iff.mp found
    obtain ⟨rule, -, found⟩ := Option.bind_eq_some_iff.mp found
    obtain ⟨inner, -, found⟩ := Option.bind_eq_some_iff.mp found
    exact ih found

theorem mem_of_ownField? {type : RecordType} {column : String} {rule : FieldRule}
    (own : type.ownField? column = some rule) : rule ∈ type.openFields := by
  unfold RecordType.ownField? at own
  obtain aliased | named := Option.or_eq_some_iff.mp own
  · exact List.mem_of_find?_eq_some aliased
  · exact List.mem_of_find?_eq_some named.2

section Search

variable {schema : Schema} {name column : String} {seen : List String} {type : RecordType}

/-- The path of a column that goes through a field, which takes the search to the record type
behind the field, if that is one that was not left before. -/
def pathThrough (schema : Schema) (column name : String) (seen : List String) (rule : FieldRule) :
    Option Path :=
  rule.type.record?.bind fun inner =>
    if seen.contains inner then none
    else (schema.findPath inner column (name :: seen)).map ((rule.name, rule.inputKey) :: ·)

theorem findPath_unknown (unknown : schema.find? name = none) :
    schema.findPath name column seen = none := by
  rw [findPath.eq_def]
  split
  · rfl
  · rename_i known
    rw [unknown] at known
    cases known

theorem findPath_own (known : schema.find? name = some type) {rule : FieldRule}
    (own : type.ownField? column = some rule) :
    schema.findPath name column seen = some [(rule.name, rule.inputKey)] := by
  rw [findPath.eq_def]
  split
  · rename_i unknown
    rw [known] at unknown
    cases unknown
  · rename_i other found
    rw [known] at found
    cases found
    rw [own]

theorem findPath_inner (known : schema.find? name = some type)
    (foreign : type.ownField? column = none) :
    schema.findPath name column seen =
      type.openFields.findSome? (schema.pathThrough column name seen) := by
  rw [findPath.eq_def]
  split
  · rename_i unknown
    rw [known] at unknown
    cases unknown
  · rename_i other found
    rw [known] at found
    cases found
    rw [foreign]
    refine congrArg (List.findSome? · _) (funext fun rule => ?_)
    unfold pathThrough
    cases rule.type.record? with
    | none => rfl
    | some inner => cases visited : seen.contains inner <;> simp

theorem pathThrough_eq_some_iff {rule : FieldRule} {path : Path} :
    schema.pathThrough column name seen rule = some path ↔
      ∃ inner below, rule.type.record? = some inner ∧ inner ∉ seen ∧
        schema.findPath inner column (name :: seen) = some below ∧
        path = (rule.name, rule.inputKey) :: below := by
  unfold pathThrough
  rw [Option.bind_eq_some_iff]
  constructor
  · rintro ⟨inner, nested, found⟩
    split at found
    · cases found
    · rename_i fresh
      obtain ⟨below, reached, rfl⟩ := Option.map_eq_some_iff.mp found
      exact ⟨inner, below, nested, fun member => fresh (List.contains_iff_mem.mpr member), reached,
        rfl⟩
  · rintro ⟨inner, below, nested, fresh, reached, rfl⟩
    refine ⟨inner, nested, ?_⟩
    rw [if_neg fun visited => fresh (List.contains_iff_mem.mp visited), reached]
    rfl

/-- A path is a field of the record type itself, or goes on inside the record type of one. -/
theorem findPath_cases {path : Path} (found : schema.findPath name column seen = some path) :
    ∃ type rule, schema.find? name = some type ∧ rule ∈ type.openFields ∧
      (path = [(rule.name, rule.inputKey)] ∨
        ∃ inner below, rule.type.record? = some inner ∧ seen.contains inner = false ∧
          schema.findPath inner column (name :: seen) = some below ∧
          path = (rule.name, rule.inputKey) :: below) := by
  cases known : schema.find? name with
  | none =>
    rw [findPath_unknown known] at found
    cases found
  | some type =>
    refine ⟨type, ?_⟩
    cases own : type.ownField? column with
    | some rule =>
      rw [findPath_own known own] at found
      cases found
      exact ⟨rule, rfl, mem_of_ownField? own, .inl rfl⟩
    | none =>
      rw [findPath_inner known own] at found
      obtain ⟨rule, member, through⟩ := List.exists_of_findSome?_eq_some found
      obtain ⟨inner, below, nested, fresh, reached, rfl⟩ := pathThrough_eq_some_iff.mp through
      have unseen : seen.contains inner = false :=
        Bool.eq_false_iff.mpr fun visited => fresh (List.contains_iff_mem.mp visited)
      exact ⟨rule, rfl, member, .inr ⟨inner, below, nested, unseen, reached, rfl⟩⟩

end Search

variable {schema : Schema} (once : ∀ type ∈ schema, type.NamesOnce)

include once

theorem typeAt?_cons {name inner : String} {type : RecordType} {rule : FieldRule}
    (known : schema.find? name = some type) (member : rule ∈ type.fields)
    (nested : rule.type.record? = some inner) (rest : List String) :
    schema.typeAt? name (rule.name :: rest) = schema.typeAt? inner rest := by
  rw [typeAt?, known, Option.bind_some,
    RecordType.find?_rule (once type (mem_of_find? known).1) member, Option.bind_some, nested,
    Option.bind_some]

theorem typeAt?_snoc {name inner : String} {above : List String} {type : RecordType}
    {rule : FieldRule} (found : schema.typeAt? name above = some type) (member : rule ∈ type.fields)
    (nested : rule.type.record? = some inner) :
    schema.typeAt? name (above ++ [rule.name]) = schema.find? inner := by
  induction above generalizing name with
  | nil => exact typeAt?_cons once found member nested []
  | cons field rest ih =>
    obtain ⟨outer, known, found⟩ := Option.bind_eq_some_iff.mp found
    obtain ⟨step, present, found⟩ := Option.bind_eq_some_iff.mp found
    obtain ⟨middle, entered, found⟩ := Option.bind_eq_some_iff.mp found
    rw [List.cons_append, typeAt?, known, Option.bind_some, present, Option.bind_some, entered,
      Option.bind_some]
    exact ih found

theorem findPath_follows (column : String) (path : Path) {name : String} {seen : List String}
    (found : schema.findPath name column seen = some path) : schema.Follows name path := by
  induction path generalizing name seen with
  | nil =>
    obtain ⟨type, rule, -, -, same | ⟨_, _, -, -, -, same⟩⟩ := findPath_cases found
    · cases same
    · cases same
  | cons field rest ih =>
    refine ⟨List.cons_ne_nil _ _, fun above step later split => ?_⟩
    obtain ⟨type, rule, known, member, same | ⟨inner, below, nested, -, found, same⟩⟩ :=
      findPath_cases found
    · rw [same] at split
      obtain ⟨rfl, rfl, rfl⟩ : above = [] ∧ step = (rule.name, rule.inputKey) ∧ later = [] := by
        cases above with
        | nil => simpa [eq_comm] using split
        | cons => simp at split
      exact ⟨type, rule, known, member, rfl, fun full => absurd rfl full⟩
    · cases same
      cases above with
      | nil =>
        cases split
        exact ⟨type, rule, known, member, rfl, fun _ => ⟨inner, nested⟩⟩
      | cons first above =>
        obtain ⟨rfl, below⟩ := List.cons.inj split
        obtain ⟨type', rule', at', rest'⟩ := (ih found).step above step later below
        refine ⟨type', rule', ?_, rest'⟩
        exact (typeAt?_cons once known (RecordType.fields_of_openFields member) nested _).trans at'

/-- Resolved paths go through fields one after the other. -/
theorem resolved_follows {name : String} {columns : List String} {path : Path}
    (member : path ∈ schema.resolved name columns) : schema.Follows name path := by
  obtain ⟨column, -, found⟩ := List.mem_filterMap.mp member
  exact findPath_follows once column path found

end Schema

/-- What names of fields lead to in records inside each other. -/
def valueAt : List String → Value → Option Value
  | [], value => some value
  | name :: rest, .record _ fields => (fields.lookup name).bind (valueAt rest)
  | _ :: _, _ => none

theorem valueAt_append (above names : List String) (value : Value) :
    valueAt (above ++ names) value = (valueAt above value).bind (valueAt names) := by
  induction above generalizing value with
  | nil => rfl
  | cons name rest ih =>
    cases value with
    | record kind fields =>
      rw [List.cons_append, valueAt, valueAt, Option.bind_assoc]
      exact congrArg _ (funext fun inner => ih inner)
    | _ => rfl

/-- A field is read under its input key when no key that is tried before it is in use. -/
def FieldRule.IsReadFirst (byName : Bool) (inUse : String → Prop) (rule : FieldRule) : Prop :=
  ∃ earlier later, rule.readingKeys byName = earlier ++ rule.inputKey :: later ∧
    ∀ key ∈ earlier, ¬inUse key

/-- The fields on the ways of paths are read under their input keys. -/
def Schema.ReadsFirst (schema : Schema) (name : String) (paths : List Path)
    (inUse : List String → Prop) : Prop :=
  ∀ path ∈ paths, ∀ (above : Path) field rest, path = above ++ field :: rest →
    ∀ type, schema.typeAt? name above.names = some type →
      ∀ rule ∈ type.fields, rule.name = field.1 →
        rule.IsReadFirst type.byName fun key => inUse (above.keys ++ [key])

/-- Fields that are tried under their input keys first are read so whatever is in use. -/
theorem Schema.readsFirst_of_head {schema : Schema}
    (heads : ∀ type ∈ schema, ∀ rule ∈ type.fields,
      (rule.readingKeys type.byName).head? = some rule.inputKey)
    (name : String) (paths : List Path) (inUse : List String → Prop) :
    schema.ReadsFirst name paths inUse := by
  intro path _ above field rest _ type known rule inside _
  have head := heads type (mem_of_find? (typeAt?_find? known)).1 rule inside
  obtain ⟨later, keys⟩ := List.head?_eq_some_iff.mp head
  exact ⟨[], later, keys, fun _ member => absurd member List.not_mem_nil⟩

theorem FieldRule.IsReadFirst.fitted {schema : Schema} {byName : Bool} {inUse : String → Prop}
    {rule : FieldRule} (first : rule.IsReadFirst byName inUse) {entries : Entries} {value : Value}
    (used : ∀ key found, Entries.get? (.text key) entries = some found → inUse key)
    (present : Entries.get? (.text rule.inputKey) entries = some value) :
    rule.fitted schema byName entries =
      (fit schema rule.type value).mapError (under (.field rule.inputKey)) := by
  obtain ⟨earlier, later, keys, unused⟩ := first
  have absent : ∀ key ∈ earlier, Entries.get? (.text key) entries = none := fun key member => by
    cases found : Entries.get? (.text key) entries with
    | none => rfl
    | some value => exact absurd (used key value found) (unused key member)
  unfold FieldRule.fitted
  rw [keys, firstPresent?_append absent present later]

/-- A field of a record made of a mapping holds what it makes of the value under its input key. -/
theorem FieldRule.IsReadFirst.taken {schema : Schema} {type : RecordType} (once : type.NamesOnce)
    (known : schema.find? type.name = some type) {inUse : String → Prop} {rule : FieldRule}
    (first : rule.IsReadFirst type.byName inUse) (inside : rule ∈ type.fields) {entries : Entries}
    {value : Value} (used : ∀ key found, Entries.get? (.text key) entries = some found → inUse key)
    (present : Entries.get? (.text rule.inputKey) entries = some value) {made : Fitted}
    (fits : fit schema (.record type.name) (.mapping entries) = .ok made) :
    ∃ leaf, fit schema rule.type value = .ok leaf ∧
      ∀ rest, valueAt (rule.name :: rest) made.value = valueAt rest leaf.value := by
  obtain ⟨each, same⟩ := fit_mapping_success schema type.name type entries known fits
  obtain ⟨leaf, ok⟩ := each rule inside
  refine ⟨leaf, ?_, fun rest => ?_⟩
  · rw [first.fitted used present] at ok
    cases result : fit schema rule.type value with
    | error flaws =>
      rw [result] at ok
      cases ok
    | ok other =>
      rw [result] at ok
      exact ok
  · rw [same, valueAt]
    unfold RecordType.fittedFields
    rw [lookup_rules once _ inside, ok]
    rfl

/-- Keys on the way of a matched column. -/
def Schema.IsReached (schema : Schema) (name : String) (columns : List String)
    (keys : List String) : Prop :=
  ∃ path ∈ schema.resolved name columns, keys <+: path.keys

section Rows

variable {schema : Schema} {name : String} {columns : List String} {row : List Value}
  {path : Path} {value found data : Value}

theorem Schema.mem_resolved_of_zip
    (member : (some path, value) ∈ (schema.columnPaths name columns).zip row) :
    path ∈ schema.resolved name columns :=
  mem_resolved.mpr (List.of_mem_zip member).1

/-- The paths of the columns end apart, or are one path. -/
def Schema.AreApartOrSame (schema : Schema) (name : String) (columns : List String) : Prop :=
  ∀ one ∈ schema.resolved name columns, ∀ other ∈ schema.resolved name columns,
    one = other ∨ Apart one.keys other.keys

theorem Schema.AreApartOrSame.ends (apart : schema.AreApartOrSame name columns) (row : List Value) :
    AreEnds (endsOf ((schema.columnPaths name columns).zip row)) := by
  intro one member other present
  obtain ⟨path, value, here, rfl⟩ := mem_endsOf.mp member
  obtain ⟨another, last, there, rfl⟩ := mem_endsOf.mp present
  exact (apart path (mem_resolved_of_zip here) another (mem_resolved_of_zip there)).imp
    (congrArg Path.keys) id

theorem assemble_grown (ok : assemble (schema.columnPaths name columns) row = .ok data) :
    Grown (endsOf ((schema.columnPaths name columns).zip row)) data :=
  grown_assignAll ok

theorem mem_endsOf_zip {above rest : Path} {field : String × String}
    (member : (some path, value) ∈ (schema.columnPaths name columns).zip row)
    (way : path = above ++ field :: rest) :
    above.keys ++ field.2 :: rest.keys ∈ endsOf ((schema.columnPaths name columns).zip row) :=
  mem_endsOf.mpr ⟨path, value, member, by rw [way, Path.keys_append]; rfl⟩

/-- In an assembled row nothing stands beside the ways of the columns. -/
theorem assemble_reached (ok : assemble (schema.columnPaths name columns) row = .ok data)
    (ends : AreEnds (endsOf ((schema.columnPaths name columns).zip row)))
    (member : (some path, value) ∈ (schema.columnPaths name columns).zip row) {above rest : Path}
    {field : String × String} (way : path = above ++ field :: rest) {key : String}
    (there : dig (above.keys ++ [key]) data = some found) :
    schema.IsReached name columns (above.keys ++ [key]) := by
  obtain ⟨keys, present, onWay⟩ :=
    (assemble_grown ok).onWay ends (mem_endsOf_zip member way) there
  obtain ⟨another, value, inside, rfl⟩ := mem_endsOf.mp present
  exact ⟨another, Schema.mem_resolved_of_zip inside, onWay⟩

/-- On the way of a column, what is in use in the row laid over another mapping is reached or in use
there. -/
theorem laid_used (ok : assemble (schema.columnPaths name columns) row = .ok data)
    (ends : AreEnds (endsOf ((schema.columnPaths name columns).zip row)))
    (member : (some path, value) ∈ (schema.columnPaths name columns).zip row)
    (held : dig path.keys data = some found) {above rest : Path} {field : String × String}
    (way : path = above ++ field :: rest) (base : Value) (key : String) {there : Value}
    (used : dig (above.keys ++ [key]) (overlay data (some base)) = some there) :
    schema.IsReached name columns (above.keys ++ [key]) ∨
      (dig (above.keys ++ [key]) base).isSome = true := by
  have keys : path.keys = above.keys ++ field.2 :: Path.keys rest := by
    rw [way, Path.keys_append]
    rfl
  obtain ⟨-, entry⟩ := (assemble_grown ok).laid_entry ends (mem_endsOf_zip member way)
    (keys ▸ held) (some base)
  rw [entry key] at used
  cases inside : dig (above.keys ++ [key]) data with
  | none =>
    rw [inside] at used
    exact .inr (Option.isSome_of_eq_some used)
  | some inner => exact .inl (assemble_reached ok ends member way inside)

end Rows

end Querywright
