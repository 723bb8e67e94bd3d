import Querywright.Proofs.RecordLoading
import Querywright.Proofs.WrittenRecords

/-! The fields of a record that a row does not touch. The record is written out, the row is laid
over it, and the whole is read again; where what is written out is read back, loading succeeds and
leaves every field, at any depth, that is apart from the paths of the columns. -/
namespace Querywright

theorem FieldRule.fitted_congr {schema : Schema} {byName : Bool} {rule : FieldRule}
    {entries others : Entries} (same : ∀ key ∈ rule.readingKeys byName,
      Entries.get? (.text key) entries = Entries.get? (.text key) others) :
    rule.fitted schema byName entries = rule.fitted schema byName others := by
  unfold FieldRule.fitted
  rw [firstPresent?_congr same]

namespace Schema

/-- A record on the way of a column: `above` leads to it, in the types and in the outer record. -/
structure OnWay (schema : Schema) (name : String) (columns : List String)
    (fields : List (String × Value)) (above : Path) (type : RecordType)
    (held : List (String × Value)) : Prop where
  way : ∃ path ∈ schema.resolved name columns, ∃ field rest, path = above ++ field :: rest
  known : schema.typeAt? name above.names = some type
  there : valueAt above.names (.record name fields) = some (.record type.name held)

/-- A field of a record on the way that no column's path goes through or ends at. -/
def IsUntouched (schema : Schema) (name : String) (columns : List String) (above : Path)
    (rule : FieldRule) : Prop :=
  ∀ path ∈ schema.resolved name columns, ¬above ++ [(rule.name, rule.inputKey)] <+: path

/-- A record on the way is written out where it is read, and of what it is written out as its
untouched fields are read back: inside another record to the values they have, else to any. -/
structure ReadsBack (schema : Schema) (name : String) (columns : List String)
    (fields : List (String × Value)) (above : Path) (type : RecordType)
    (held : List (String × Value)) : Prop where
  named : held.map (·.1) = type.fields.map (·.name)
  placed : dig above.keys (written schema (.record name fields)) =
    some (written schema (.record type.name held))
  unreached : ∀ rule ∈ type.fields, schema.IsUntouched name columns above rule →
    ∀ key ∈ rule.readingKeys type.byName, ¬schema.IsReached name columns (above.keys ++ [key])
  restored : ∀ rule ∈ type.fields, schema.IsUntouched name columns above rule →
    ∃ fitted, rule.fitted schema type.byName (type.writtenEntries schema held) = .ok fitted ∧
      (above ≠ [] → held.lookup rule.name = some fitted.value)

end Schema

section Loading

variable {schema : Schema} (once : ∀ type ∈ schema, type.NamesOnce) {name : String}
  {columns : List String} {fields : List (String × Value)} {row : List Value} {data : Value}

/-- Every column of a row that is long enough has a value. -/
theorem mem_zip_of_resolved (enough : columns.length ≤ row.length) {path : Path}
    (member : path ∈ schema.resolved name columns) :
    ∃ value, (some path, value) ∈ (schema.columnPaths name columns).zip row := by
  obtain ⟨place, bound, same⟩ := List.getElem_of_mem (Schema.mem_resolved.mp member)
  have long : place < row.length := by
    have size : (schema.columnPaths name columns).length = columns.length := List.length_map _
    omega
  refine ⟨row[place], List.mem_iff_getElem.mpr ⟨place, ?_, ?_⟩⟩
  · rw [List.length_zip]
    omega
  · rw [List.getElem_zip, same]

/-- Where paths are apart or the same, at the end of each there is the value of a column of that
path. -/
theorem Schema.AreApartOrSame.assembled (apart : schema.AreApartOrSame name columns)
    (enough : columns.length ≤ row.length)
    (ok : assemble (schema.columnPaths name columns) row = .ok data) {path : Path}
    (member : path ∈ schema.resolved name columns) :
    ∃ value, (some path, value) ∈ (schema.columnPaths name columns).zip row ∧
      dig path.keys data = some value := by
  obtain ⟨value, here⟩ := mem_zip_of_resolved enough member
  obtain ⟨other, last, there, same, held⟩ := dig_assignAll ok (apart.ends row)
    (mem_endsOf.mpr ⟨path, value, here, rfl⟩)
  obtain rfl | distinct := apart path member other (mem_resolved_of_zip there)
  · exact ⟨last, there, held⟩
  · rw [same] at distinct
    exact absurd (List.prefix_refl _) distinct.1

end Loading

/-- The value of each matched column is accepted by its field, laid over what the record has there.
-/
def Schema.Accepts (schema : Schema) (name : String) (columns : List String)
    (fields : List (String × Value)) (row : List Value) : Prop :=
  ∀ path value rule, (some path, value) ∈ (schema.columnPaths name columns).zip row →
    schema.Leads name path rule → ∃ fitted, fit schema rule.type
      (overlay value (dig path.keys (written schema (.record name fields)))) = .ok fitted

namespace Schema

/-- What is found in a record on the way once the row is laid over the whole: below a field that is
touched, and below any in an inner record, what is apart from the columns has the value it had. -/
def Keeps (schema : Schema) (name : String) (columns : List String) (whole : Value) (above : Path)
    (type : RecordType) (held : List (String × Value)) : Prop :=
  ∃ entries made, dig above.keys whole = some (.mapping entries) ∧
    fit schema (.record type.name) (.mapping entries) = .ok made ∧
    ∀ field rest, (∀ path ∈ schema.resolved name columns,
        Apart path.names (above.names ++ field :: rest)) →
      (above ≠ [] ∨ ∃ path ∈ schema.resolved name columns, ∃ key below,
        path = above ++ (field, key) :: below) →
      valueAt (field :: rest) made.value = valueAt (field :: rest) (.record type.name held)

section Reading

variable {schema : Schema} {name : String} {columns : List String}
  {fields : List (String × Value)} {row : List Value} {data : Value}
  (apart : schema.AreApartOrSame name columns) (enough : columns.length ≤ row.length)
  (assembled : assemble (schema.columnPaths name columns) row = .ok data)
  {above : Path} {type : RecordType} {held : List (String × Value)} {entries : Entries}
  {rule : FieldRule}

include apart enough assembled

/-- Where a record on the way was written out there is a mapping in the whole, too: under each key
what the row has, laid over what was written out, or else that. -/
theorem OnWay.laid (onWay : schema.OnWay name columns fields above type held) (base : Value) :
    (∃ entries, dig above.keys (overlay data (some base)) = some (.mapping entries)) ∧
      ∀ key, dig (above.keys ++ [key]) (overlay data (some base)) =
        (dig (above.keys ++ [key]) data).elim (dig (above.keys ++ [key]) base)
          fun found => some (overlay found (dig (above.keys ++ [key]) base)) := by
  obtain ⟨path, member, field, rest, way⟩ := onWay.way
  obtain ⟨value, inside, there⟩ := apart.assembled enough assembled member
  have keys : path.keys = above.keys ++ field.2 :: Path.keys rest := by
    rw [way, Path.keys_append]
    rfl
  exact (assemble_grown assembled).laid_entry (apart.ends row) (mem_endsOf_zip inside way)
    (keys ▸ there) (some base)

/-- Under a key that no column reaches there is what the record was written out with. -/
theorem OnWay.unreached_entry (onWay : schema.OnWay name columns fields above type held)
    (placed : dig above.keys (written schema (.record name fields)) =
      some (written schema (.record type.name held)))
    (node : dig above.keys (overlay data (some (written schema (.record name fields)))) =
      some (.mapping entries)) {key : String}
    (unreached : ¬schema.IsReached name columns (above.keys ++ [key])) :
    Entries.get? (.text key) entries =
      Entries.get? (.text key) (type.writtenEntries schema held) := by
  obtain ⟨path, member, field, rest, way⟩ := onWay.way
  obtain ⟨value, inside, -⟩ := apart.assembled enough assembled member
  have nothing : dig (above.keys ++ [key]) data = none := by
    cases found : dig (above.keys ++ [key]) data with
    | none => rfl
    | some other =>
      exact absurd (assemble_reached assembled (apart.ends row) inside way found) unreached
  rw [written_record (typeAt?_find? onWay.known)] at placed
  rw [← dig_entry node, (onWay.laid apart enough assembled _).2 key, nothing, ← dig_entry placed]
  rfl

/-- An untouched field is read as it was written out. -/
theorem OnWay.untouched_fitted (onWay : schema.OnWay name columns fields above type held)
    (back : schema.ReadsBack name columns fields above type held)
    (node : dig above.keys (overlay data (some (written schema (.record name fields)))) =
      some (.mapping entries)) (inside : rule ∈ type.fields)
    (untouched : schema.IsUntouched name columns above rule) :
    rule.fitted schema type.byName entries =
      rule.fitted schema type.byName (type.writtenEntries schema held) :=
  FieldRule.fitted_congr fun key member => onWay.unreached_entry apart enough assembled back.placed
    node (back.unreached rule inside untouched key member)

/-- A touched field is read under its input key. -/
theorem OnWay.touched_fitted (onWay : schema.OnWay name columns fields above type held)
    (reads : schema.ReadsFirst name (schema.resolved name columns) fun keys =>
      schema.IsReached name columns keys ∨
        (dig keys (written schema (.record name fields))).isSome = true)
    (node : dig above.keys (overlay data (some (written schema (.record name fields)))) =
      some (.mapping entries)) (inside : rule ∈ type.fields) {path rest : Path}
    (member : path ∈ schema.resolved name columns)
    (way : path = above ++ (rule.name, rule.inputKey) :: rest) {value : Value}
    (present : dig (above.keys ++ [rule.inputKey])
      (overlay data (some (written schema (.record name fields)))) = some value) {fitted : Fitted}
    (fits : fit schema rule.type value = .ok fitted) :
    rule.fitted schema type.byName entries = .ok fitted := by
  obtain ⟨last, there, held⟩ := apart.assembled enough assembled member
  have first := reads path member above _ rest way type onWay.known rule inside rfl
  rw [first.fitted (fun key found here => ?_) (by rw [← dig_entry node]; exact present), fits]
  · rfl
  · exact laid_used assembled (apart.ends row) there held way _ key
      (by rw [dig_entry node]; exact here)

end Reading

section Keeping

variable {schema : Schema} (once : ∀ type ∈ schema, type.NamesOnce) {name : String}
  {columns : List String} {fields : List (String × Value)} {row : List Value} {data : Value}
  (apart : schema.AreApartOrSame name columns) (enough : columns.length ≤ row.length)
  (assembled : assemble (schema.columnPaths name columns) row = .ok data)
  (exist : ∀ path ∈ schema.resolved name columns, ∀ (above : Path) field rest,
    path = above ++ field :: rest → ∃ type held,
      schema.OnWay name columns fields above type held)
  (accepts : schema.Accepts name columns fields row)
  (reads : schema.ReadsFirst name (schema.resolved name columns) fun keys =>
    schema.IsReached name columns keys ∨
      (dig keys (written schema (.record name fields))).isSome = true)
  (back : ∀ above type held, schema.OnWay name columns fields above type held →
    schema.ReadsBack name columns fields above type held)

variable {above : Path} {type : RecordType} {held : List (String × Value)}
  (onWay : schema.OnWay name columns fields above type held) {entries : Entries}
  (node : dig above.keys (overlay data (some (written schema (.record name fields)))) =
    some (.mapping entries)) {rule : FieldRule} (inside : rule ∈ type.fields)

include once onWay inside in
/-- A path through a field has its input key and goes on in the record type behind it. -/
theorem OnWay.step {path rest : Path} {field : String × String}
    (member : path ∈ schema.resolved name columns) (way : path = above ++ field :: rest)
    (named : field.1 = rule.name) :
    field = (rule.name, rule.inputKey) ∧ rule ∈ type.openFields ∧
      (rest ≠ [] → ∃ inner, rule.type.record? = some inner) := by
  obtain ⟨type', rule', known, open', rfl, nested⟩ :=
    (resolved_follows once member).step above _ rest way
  obtain rfl : type = type' := Option.some.inj (onWay.known.symm.trans known)
  have onceHere : type.NamesOnce := once type (mem_of_find? (typeAt?_find? known)).1
  obtain rfl := RecordType.rule_unique onceHere inside (RecordType.fields_of_openFields open')
    named.symm
  exact ⟨rfl, open', nested⟩

include once apart enough assembled accepts reads onWay node inside in
/-- A field at the end of a column's path takes the column's value. -/
theorem OnWay.end_fitted {path : Path} (member : path ∈ schema.resolved name columns)
    (way : path = above ++ [(rule.name, rule.inputKey)]) :
    ∃ fitted, rule.fitted schema type.byName entries = .ok fitted := by
  obtain ⟨value, here, there⟩ := apart.assembled enough assembled member
  obtain ⟨-, open', -⟩ := onWay.step once inside member way rfl
  obtain ⟨fitted, fits⟩ := accepts path value rule here ⟨above, type, way, onWay.known, open'⟩
  have laid := (assemble_grown assembled).laid (apart.ends row)
    (mem_endsOf.mpr ⟨path, value, here, rfl⟩) there (some (written schema (.record name fields)))
  have keys : path.keys = above.keys ++ [rule.inputKey] := by
    rw [way, Path.keys_append]
    rfl
  rw [keys] at laid fits
  exact ⟨fitted, onWay.touched_fitted apart enough assembled reads node inside member way laid fits⟩

include once apart enough assembled reads onWay node inside in
/-- A field on the way of a column's path takes the record that is read there. -/
theorem OnWay.inner_fitted {path rest : Path} {next : String × String}
    (member : path ∈ schema.resolved name columns)
    (way : path = above ++ (rule.name, rule.inputKey) :: next :: rest) {type' : RecordType}
    {held' : List (String × Value)}
    (onWay' : schema.OnWay name columns fields (above ++ [(rule.name, rule.inputKey)]) type' held')
    (kept : schema.Keeps name columns
      (overlay data (some (written schema (.record name fields))))
      (above ++ [(rule.name, rule.inputKey)]) type' held') :
    ∃ fitted, rule.fitted schema type.byName entries = .ok fitted ∧ ∀ field rest,
      (∀ path ∈ schema.resolved name columns,
        Apart path.names (above.names ++ rule.name :: field :: rest)) →
      valueAt (field :: rest) fitted.value =
        valueAt (field :: rest) (.record type'.name held') := by
  obtain ⟨below, made, there, fits, same⟩ := kept
  obtain ⟨-, -, nested⟩ := onWay.step once inside member way rfl
  obtain ⟨inner, nested⟩ := nested (List.cons_ne_nil _ _)
  have known : schema.find? inner = some type' := by
    rw [← typeAt?_snoc once onWay.known inside nested, ← onWay'.known, Path.names_append]
    rfl
  rw [(mem_of_find? known).2, ← fit_nested schema nested] at fits
  rw [Path.keys_append] at there
  refine ⟨made, onWay.touched_fitted apart enough assembled reads node inside member way there fits,
    fun field rest distinct => same field rest (fun path member => ?_) (.inl (by simp))⟩
  rw [Path.names_append, List.append_assoc]
  exact distinct path member

include once apart enough assembled exist accepts reads back onWay node inside in
/-- A field of a record on the way fits, and what is apart in it is kept, given that the records
inside keep what is apart in them. -/
theorem OnWay.field_kept
    (inner : ∀ type' held',
      schema.OnWay name columns fields (above ++ [(rule.name, rule.inputKey)]) type' held' →
        schema.Keeps name columns (overlay data (some (written schema (.record name fields))))
          (above ++ [(rule.name, rule.inputKey)]) type' held') :
    ∃ fitted, rule.fitted schema type.byName entries = .ok fitted ∧ ∀ rest,
      (∀ path ∈ schema.resolved name columns,
        Apart path.names (above.names ++ rule.name :: rest)) →
      (above ≠ [] ∨ ¬schema.IsUntouched name columns above rule) →
      valueAt rest fitted.value = (held.lookup rule.name).bind (valueAt rest) := by
  by_cases untouched : schema.IsUntouched name columns above rule
  · obtain ⟨fitted, fits, same⟩ := (back above type held onWay).restored rule inside untouched
    refine ⟨fitted, ?_, fun rest _ deep => ?_⟩
    · rw [onWay.untouched_fitted apart enough assembled (back _ _ _ onWay) node inside untouched]
      exact fits
    · rw [same (deep.resolve_right (not_not_intro untouched))]
      rfl
  obtain ⟨path, member, later, way⟩ : ∃ path ∈ schema.resolved name columns,
      ∃ later, path = above ++ (rule.name, rule.inputKey) :: later := by
    unfold IsUntouched at untouched
    push Not at untouched
    obtain ⟨path, member, later, way⟩ := untouched
    exact ⟨path, member, later, by rw [← way, List.append_assoc]; rfl⟩
  have names : path.names = above.names ++ rule.name :: Path.names later := by
    rw [way, Path.names_append]
    rfl
  cases later with
  | nil =>
    obtain ⟨fitted, fits⟩ := onWay.end_fitted once apart enough assembled accepts reads node inside
      member way
    refine ⟨fitted, fits, fun rest distinct _ => absurd ?_ (distinct path member).1⟩
    rw [names]
    exact (List.prefix_append_right_inj _).mpr (List.cons_prefix_cons.mpr ⟨rfl, List.nil_prefix⟩)
  | cons next later =>
    obtain ⟨type', held', onWay'⟩ := exist path member (above ++ [(rule.name, rule.inputKey)]) next
      later (by rw [way, List.append_assoc]; rfl)
    obtain ⟨fitted, fits, same⟩ := onWay.inner_fitted once apart enough assembled reads node inside
      member way onWay' (inner type' held' onWay')
    refine ⟨fitted, fits, fun rest distinct _ => ?_⟩
    have there := onWay'.there
    rw [Path.names_append, valueAt_append, onWay.there, Option.bind_some] at there
    have present : held.lookup rule.name = some (.record type'.name held') := by
      simpa [Path.names, valueAt] using there
    rw [present, Option.bind_some]
    cases rest with
    | nil =>
      refine absurd ?_ (distinct path member).2
      rw [names]
      exact (List.prefix_append_right_inj _).mpr (List.cons_prefix_cons.mpr ⟨rfl, List.nil_prefix⟩)
    | cons field rest => exact same field rest distinct

include once apart enough assembled exist accepts reads back

/-- Every record on the way fits and keeps what is apart in it, by induction on how far paths go on.
-/
theorem OnWay.kept (further : Nat) {above : Path} {type : RecordType}
    {held : List (String × Value)} (onWay : schema.OnWay name columns fields above type held)
    (short : ∀ path ∈ schema.resolved name columns, ∀ rest, path = above ++ rest →
      rest.length ≤ further) :
    schema.Keeps name columns (overlay data (some (written schema (.record name fields)))) above
      type held := by
  induction further generalizing above type held with
  | zero =>
    obtain ⟨path, member, field, rest, way⟩ := onWay.way
    exact absurd (short path member _ way) (by simp)
  | succ further ih =>
    obtain ⟨⟨entries, node⟩, -⟩ :=
      onWay.laid apart enough assembled (written schema (.record name fields))
    have known := typeAt?_find? onWay.known
    have onceHere : type.NamesOnce := once type (mem_of_find? known).1
    have each (rule : FieldRule) (inside : rule ∈ type.fields) :=
      onWay.field_kept once apart enough assembled exist accepts reads back node inside
        fun type' held' onWay' => ih onWay' fun path member rest way => by
          have longer := short path member ((rule.name, rule.inputKey) :: rest)
            (by rw [way, List.append_assoc]; rfl)
          simpa using longer
    obtain ⟨score, fits⟩ := fit_mapping_ok schema type.name type entries known
      fun rule inside => ⟨_, (each rule inside).choose_spec.1⟩
    refine ⟨entries, _, node, fits, fun field rest distinct touched => ?_⟩
    change ((type.fittedFields schema entries).lookup field).bind (valueAt rest) =
      (held.lookup field).bind (valueAt rest)
    by_cases own : field ∈ type.fields.map (·.name)
    · obtain ⟨rule, inside, rfl⟩ := List.mem_map.mp own
      obtain ⟨fitted, ok, same⟩ := each rule inside
      have deep : above ≠ [] ∨ ¬schema.IsUntouched name columns above rule := by
        refine touched.imp_right ?_
        rintro ⟨path, member, key, below, way⟩ untouched
        obtain ⟨entered, -, -⟩ := onWay.step once inside member way rfl
        rw [entered] at way
        exact untouched path member ⟨below, by rw [way, List.append_assoc]; rfl⟩
      unfold RecordType.fittedFields
      rw [lookup_rules onceHere _ inside, ok, Option.bind_some]
      exact same rest distinct deep
    · have names : (type.fittedFields schema entries).map (·.1) = type.fields.map (·.name) := by
        unfold RecordType.fittedFields
        rw [List.map_map]
        rfl
      rw [lookup_eq_none_of_names (by rw [names]; exact own),
        lookup_eq_none_of_names (by rw [(back above type held onWay).named]; exact own)]

/-- A row that can be assembled is loaded, and keeps what is apart from its columns. -/
theorem loadRecord_keeps : ∃ loaded, loadRecord schema name fields columns row = .ok loaded ∧
    ∀ names, (∀ path ∈ schema.resolved name columns, Apart path.names names) →
      valueAt names (.record name loaded) = valueAt names (.record name fields) := by
  by_cases full : data = .mapping []
  · subst full
    exact ⟨fields, loadRecord_nothing assembled, fun _ _ => rfl⟩
  obtain ⟨path, member⟩ : ∃ path, path ∈ schema.resolved name columns := by
    by_contra none
    have nothing : endsOf ((schema.columnPaths name columns).zip row) = [] :=
      List.eq_nil_iff_forall_not_mem.mpr fun keys inside => by
        obtain ⟨path, value, present, -⟩ := mem_endsOf.mp inside
        exact none ⟨path, mem_resolved_of_zip present⟩
    exact full (Except.ok.inj (assembled.symm.trans (assignAll_nothing nothing _)))
  obtain ⟨first, rest, way⟩ :=
    List.exists_cons_of_ne_nil (resolved_follows once member).full
  obtain ⟨type, held, onWay⟩ := exist path member [] first rest way
  have whole := Option.some.inj onWay.there
  obtain ⟨rfl, rfl⟩ := Value.record.inj whole
  obtain ⟨entries, made, node, fits, same⟩ := onWay.kept once apart enough assembled exist accepts
    reads back (schema.resolved type.name columns).flatten.length
    fun path member rest way => by
      rw [List.nil_append] at way
      rw [← way]
      exact (List.sublist_flatten_of_mem member).length_le
  have laid := Option.some.inj node
  obtain ⟨-, record⟩ := fit_mapping_success schema type.name type entries
    (typeAt?_find? onWay.known) fits
  refine ⟨_, loadRecord_made assembled full (by rw [laid]; exact fits) record,
    fun names distinct => ?_⟩
  cases names with
  | nil => exact absurd rfl (distinct path member).not_nil
  | cons field rest =>
    refine lookup_replaceFields_bind _ _ _ field (valueAt rest) fun touched => ?_
    obtain ⟨other, inside, head⟩ := List.mem_filterMap.mp touched
    obtain ⟨other, rfl, head⟩ := Option.bind_eq_some_iff.mp head
    obtain ⟨⟨front, key⟩, starts, rfl⟩ := Option.map_eq_some_iff.mp head
    obtain ⟨below, way⟩ := List.head?_eq_some_iff.mp starts
    have kept := same _ rest distinct (.inr ⟨other, mem_resolved.mpr inside, key, below, way⟩)
    rw [record] at kept
    exact kept

end Keeping

/-- A value that is accepted is accepted over what the record has, unless mappings are merged. -/
theorem accepts_of {schema : Schema} {name : String} {columns : List String}
    {fields : List (String × Value)} {row : List Value}
    (accepted : ∀ path value rule, (some path, value) ∈ (schema.columnPaths name columns).zip row →
      schema.Leads name path rule → ∃ fitted, fit schema rule.type value = .ok fitted)
    (mixed : ∀ path added entries rule,
      (some path, .mapping added) ∈ (schema.columnPaths name columns).zip row →
      schema.Leads name path rule →
      dig path.keys (written schema (.record name fields)) = some (.mapping entries) →
      ∃ fitted, fit schema rule.type (.mapping (merge added entries)) = .ok fitted) :
    schema.Accepts name columns fields row := by
  intro path value rule member leads
  by_cases merged : ∃ added entries, value = .mapping added ∧
      dig path.keys (written schema (.record name fields)) = some (.mapping entries)
  · obtain ⟨added, entries, rfl, there⟩ := merged
    rw [there, overlay_mapping]
    exact mixed path added entries rule member leads there
  · rw [overlay_unmixed fun added entries same there => merged ⟨added, entries, same, there⟩]
    exact accepted path value rule member leads

end Schema

/-- Loading a row into a record succeeds and keeps what the row does not touch: every field at any
depth, excluded ones included, that is apart from the paths of the matched columns has the value it
had. Each matched column has a value that its field accepts, alone and merged with a mapping that
the record has there, and the records on the ways of the columns exist. The ways end apart, their
fields are read under their input keys, and each record on the way reads back, in its untouched
fields, what it is written out as. -/
theorem untouched_fields_kept (schema : Schema) (once : ∀ type ∈ schema, type.NamesOnce)
    (name : String) (columns : List String) (fields : List (String × Value)) (row : List Value)
    (rows : List (List Value)) (enough : columns.length ≤ row.length)
    (accepted : ∀ path value rule, (some path, value) ∈ (schema.columnPaths name columns).zip row →
      schema.Leads name path rule → ∃ fitted, fit schema rule.type value = .ok fitted)
    (exist : ∀ path ∈ schema.resolved name columns, ∀ (above : Path) field rest,
      path = above ++ field :: rest → ∃ type held,
        schema.OnWay name columns fields above type held)
    (apart : schema.AreApartOrSame name columns)
    (mixed : ∀ path added entries rule,
      (some path, .mapping added) ∈ (schema.columnPaths name columns).zip row →
      schema.Leads name path rule →
      dig path.keys (written schema (.record name fields)) = some (.mapping entries) →
      ∃ fitted, fit schema rule.type (.mapping (merge added entries)) = .ok fitted)
    (reads : schema.ReadsFirst name (schema.resolved name columns) fun keys =>
      schema.IsReached name columns keys ∨
        (dig keys (written schema (.record name fields))).isSome = true)
    (back : ∀ above type held, schema.OnWay name columns fields above type held →
      schema.ReadsBack name columns fields above type held) :
    ∃ loaded, load schema .record (.record name fields) columns (row :: rows) =
        (.ok 1, .record name loaded) ∧
      ∀ names, (∀ path ∈ schema.resolved name columns, Apart path.names names) →
        valueAt names (.record name loaded) = valueAt names (.record name fields) := by
  have accepts := Schema.accepts_of accepted mixed
  obtain ⟨data, assembled⟩ : ∃ data, assemble (schema.columnPaths name columns) row = .ok data :=
    assignAll_success Grown.empty (by rw [List.append_nil]; exact apart.ends row)
  obtain ⟨loaded, loading, kept⟩ :=
    Schema.loadRecord_keeps once apart enough assembled exist accepts reads back
  refine ⟨loaded, ?_, kept⟩
  unfold load
  dsimp only
  rw [loading]

/-- A record type with an aliased field and a plain one. -/
def placeType : RecordType :=
  { name := "Place", fields := [{ name := "city", type := .text, otherName := some "City" },
    { name := "zip", type := .text }] }

/-- A record type with a record inside and an excluded field that has a default. -/
def residentType : RecordType :=
  { name := "Resident", fields := [{ name := "id", type := .integer },
    { name := "place", type := .record "Place" },
    { name := "note", type := .text, excluded := true, fallback := some (.text "") }] }

def residents : Schema :=
  [placeType, residentType]

def roman : List (String × Value) :=
  [("city", .text "Rome"), ("zip", .text "00100")]

def resident : List (String × Value) :=
  [("id", .integer 1), ("place", .record "Place" roman), ("note", .text "mine")]

def cityPath : Path :=
  [("place", "place"), ("city", "City")]

theorem cityPath_resolved : residents.resolved "Resident" ["City"] = [cityPath] := by
  decide +kernel

theorem cityPath_pair {path : Path} {value : Value} (inside : (some path, value) ∈
    (residents.columnPaths "Resident" ["City"]).zip [Value.text "Oslo"]) :
    path = cityPath ∧ value = .text "Oslo" := by
  have columns : residents.columnPaths "Resident" ["City"] = [some cityPath] := by
    decide +kernel
  rw [columns] at inside
  simpa using inside

/-- On the way of the city there are the resident and the place. -/
theorem cityPath_onWay {above : Path} {field : String × String} {rest : Path}
    (way : cityPath = above ++ field :: rest) : above = [] ∨ above = [("place", "place")] := by
  obtain _ | ⟨first, _ | ⟨second, above⟩⟩ := above
  · exact .inl rfl
  · cases way
    exact .inr rfl
  · simp [cityPath] at way

theorem resident_readsBack (above : Path) (type : RecordType) (held : List (String × Value))
    (onWay : residents.OnWay "Resident" ["City"] resident above type held) :
    residents.ReadsBack "Resident" ["City"] resident above type held := by
  obtain ⟨⟨path, member, field, rest, way⟩, known, there⟩ := onWay
  have through : cityPath ∈ residents.resolved "Resident" ["City"] := by
    rw [cityPath_resolved]
    exact List.mem_singleton_self _
  rw [cityPath_resolved] at member
  obtain rfl := List.mem_singleton.mp member
  obtain rfl | rfl := cityPath_onWay way
  · cases known
    cases there
    refine ⟨rfl, rfl, ?_, fun rule inside untouched => ?_⟩
    · unfold Schema.IsUntouched Schema.IsReached
      rw [cityPath_resolved]
      decide
    · simp only [residentType, List.mem_cons, List.not_mem_nil, or_false] at inside
      obtain rfl | rfl | rfl := inside
      · refine ⟨{ value := .integer 1 }, ?_, fun deep => absurd rfl deep⟩
        exact fitted_writtenEntries (by decide) (by decide) rfl (by simp [residentType]) rfl rfl rfl
          (by rw [fit]; rfl)
      · exact absurd (by decide) (untouched cityPath through)
      · exact ⟨{ value := .text "" }, rfl, fun deep => absurd rfl deep⟩
  · cases known
    cases there
    refine ⟨rfl, rfl, ?_, fun rule inside untouched => ?_⟩
    · unfold Schema.IsUntouched Schema.IsReached
      rw [cityPath_resolved]
      decide
    · simp only [placeType, List.mem_cons, List.not_mem_nil, or_false] at inside
      obtain rfl | rfl := inside
      · exact absurd (by decide) (untouched cityPath through)
      · refine ⟨{ value := .text "00100" }, ?_, fun _ => rfl⟩
        exact fitted_writtenEntries (by decide) (by decide) rfl (by simp [placeType]) rfl rfl rfl
          (by rw [fit]; rfl)

theorem oslo_accepted (path : Path) (value : Value) (rule : FieldRule)
    (inside : (some path, value) ∈
      (residents.columnPaths "Resident" ["City"]).zip [Value.text "Oslo"])
    (leads : residents.Leads "Resident" path rule) :
    ∃ fitted, fit residents rule.type value = .ok fitted := by
  obtain ⟨rfl, rfl⟩ := cityPath_pair inside
  obtain ⟨above, type, way, known, member⟩ := leads
  have last : [("place", "place")] ++ [("city", "City")] =
      above ++ [(rule.name, rule.inputKey)] := way
  obtain ⟨rfl, -⟩ := List.append_inj' last rfl
  cases known
  have text : rule.type = .text := by
    have inside := RecordType.fields_of_openFields member
    simp only [placeType, List.mem_cons, List.not_mem_nil, or_false] at inside
    obtain rfl | rfl := inside <;> rfl
  rw [text, fit]
  exact ⟨_, rfl⟩

theorem resident_exists (path : Path) (member : path ∈ residents.resolved "Resident" ["City"])
    (above : Path) (field : String × String) (rest : Path) (way : path = above ++ field :: rest) :
    ∃ type held, residents.OnWay "Resident" ["City"] resident above type held := by
  have through := member
  rw [cityPath_resolved] at member
  obtain rfl := List.mem_singleton.mp member
  obtain rfl | rfl := cityPath_onWay way
  · exact ⟨residentType, resident, ⟨_, through, field, rest, way⟩, rfl, rfl⟩
  · exact ⟨placeType, roman, ⟨_, through, field, rest, way⟩, rfl, rfl⟩

theorem zip_kept : ∃ loaded, load residents .record (.record "Resident" resident) ["City"]
      [[.text "Oslo"]] = (.ok 1, .record "Resident" loaded) ∧
    valueAt ["place", "zip"] (.record "Resident" loaded) = some (.text "00100") ∧
    valueAt ["note"] (.record "Resident" loaded) = some (.text "mine") := by
  have apart : residents.AreApartOrSame "Resident" ["City"] := by
    unfold Schema.AreApartOrSame
    rw [cityPath_resolved]
    decide
  obtain ⟨loaded, loading, kept⟩ := untouched_fields_kept residents (by decide) "Resident" ["City"]
    resident [.text "Oslo"] [] (by decide) oslo_accepted resident_exists apart
    (fun _ _ _ _ inside => by cases (cityPath_pair inside).2)
    (Schema.readsFirst_of_head (by decide) _ _ _) resident_readsBack
  have beside (names : List String) (here : Apart cityPath.names names) :
      ∀ path ∈ residents.resolved "Resident" ["City"], Apart path.names names := by
    rw [cityPath_resolved]
    exact List.forall_mem_singleton.mpr here
  exact ⟨loaded, loading, kept _ (beside _ (by decide)), kept _ (beside _ (by decide))⟩

/-- Users with an excluded field that has no default. -/
def vaults : Schema :=
  [{ name := "User", fields := [{ name := "id", type := .integer },
    { name := "secret", type := .text, excluded := true }] }]

/-- Residents whose places have an excluded field with a default. -/
def notedPlaces : Schema :=
  [{ name := "Place", fields := [{ name := "city", type := .text },
      { name := "note", type := .text, excluded := true, fallback := some (.text "none") }] },
    { name := "Resident", fields := [{ name := "place", type := .record "Place" }] }]

/-- An excluded field is not written out: a load that does not touch it fails for want of it, or,
inside another record, puts its default in its place. -/
theorem untouched_fields_lost :
    (vaults.resolved "User" ["id"] = [[("id", "id")]] ∧
      (∃ fitted, fit vaults .integer (.integer 2) = .ok fitted) ∧
      load vaults .record (.record "User" [("id", .integer 1), ("secret", .text "s")]) ["id"]
          [[.integer 2]] =
        (.error (.invalid [(.missing, [.field "secret"])]),
          .record "User" [("id", .integer 1), ("secret", .text "s")])) ∧
    (notedPlaces.resolved "Resident" ["city"] = [[("place", "place"), ("city", "city")]] ∧
      (∃ fitted, fit notedPlaces .text (.text "Oslo") = .ok fitted) ∧
      load notedPlaces .record (.record "Resident"
          [("place", .record "Place" [("city", .text "Rome"), ("note", .text "mine")])]) ["city"]
          [[.text "Oslo"]] =
        (.ok 1, .record "Resident"
          [("place", .record "Place" [("city", .text "Oslo"), ("note", .text "none")])])) := by
  refine ⟨⟨by decide +kernel, ?_, by cbv⟩, by decide +kernel, ?_, by cbv⟩
  · rw [fit]
    exact ⟨_, rfl⟩
  · rw [fit]
    exact ⟨_, rfl⟩

end Querywright
