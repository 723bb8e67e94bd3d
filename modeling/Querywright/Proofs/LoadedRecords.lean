import Mathlib.Data.List.Forall2
import Querywright.Proofs.OwnRows

/-! Rows loaded into an instance: a record, an expression or a builder. Whatever can fail is over
before the first field is set, and no field is set but those where the path of a column begins. -/
namespace Querywright

/-! Fields taken from another record -/

/-- A field, taken from another record if it is one of those named. -/
def renewed (names : List String) (fresh : FieldValues) (field : String × Value) :
    String × Value :=
  (field.1, if field.1 ∈ names then (fresh.lookup field.1).getD field.2 else field.2)

theorem replaceFields_eq_map (names : List String) (fresh fields : FieldValues) :
    replaceFields names fresh fields = fields.map (renewed names fresh) := by
  refine List.map_congr_left fun field _ => ?_
  unfold renewed
  dsimp only
  by_cases touched : field.1 ∈ names
  · rw [if_pos touched, if_pos (List.contains_iff_mem.mpr touched)]
  · rw [if_neg touched, if_neg (fun named => touched (List.contains_iff_mem.mp named))]

theorem renewed_again (names others : List String) (fresh : FieldValues)
    (field : String × Value) :
    renewed names fresh (renewed others fresh field) = renewed (others ++ names) fresh field := by
  unfold renewed
  cases fresh.lookup field.1 <;> by_cases field.1 ∈ names <;> by_cases field.1 ∈ others <;>
    simp [*]

theorem replaceFields_nothing (names : List String) (fields : FieldValues) :
    replaceFields names [] fields = fields := by
  rw [replaceFields_eq_map]
  refine (List.map_congr_left fun field _ => ?_).trans (List.map_id fields)
  unfold renewed
  rw [List.lookup_nil, Option.getD_none, ite_self]
  rfl

theorem replaceFields_congr {names others : List String}
    (same : ∀ name, name ∈ names ↔ name ∈ others) (fresh fields : FieldValues) :
    replaceFields names fresh fields = replaceFields others fresh fields := by
  rw [replaceFields_eq_map, replaceFields_eq_map]
  unfold renewed
  simp only [same]

/-- One field taken from another record. -/
def setField (fresh fields : FieldValues) (name : String) : FieldValues :=
  replaceFields [name] fresh fields

/-- Fields that are set one after the other, in whatever order and however often, are in the end
those of one record with some of them taken from another. -/
theorem foldl_setField (order : List String) (fresh fields : FieldValues) :
    order.foldl (setField fresh) fields = replaceFields order fresh fields := by
  induction order generalizing fields with
  | nil => simp [replaceFields]
  | cons name rest ih =>
    rw [List.foldl_cons, ih, setField, replaceFields_eq_map, replaceFields_eq_map,
      replaceFields_eq_map, List.map_map]
    exact List.map_congr_left fun field _ => renewed_again rest [name] fresh field

/-! Fields that are kept -/

/-- The same fields in the same order, each with the value it had unless it is touched. -/
def FieldsKept (touched : String → Prop) (before after : FieldValues) : Prop :=
  List.Forall₂ (fun old new => new.1 = old.1 ∧ (¬touched old.1 → new.2 = old.2)) before after

namespace FieldsKept

variable {touched others : String → Prop} {before between after : FieldValues}

theorem refl (touched : String → Prop) (fields : FieldValues) :
    FieldsKept touched fields fields :=
  List.forall₂_same.mpr fun _ _ => ⟨rfl, fun _ => rfl⟩

theorem mono (within : ∀ name, touched name → others name) (kept : FieldsKept touched before after) :
    FieldsKept others before after :=
  List.Forall₂.imp (fun _ _ same => ⟨same.1, fun other => same.2 fun inside =>
    other (within _ inside)⟩) kept

theorem trans (first : FieldsKept touched before between)
    (second : FieldsKept touched between after) : FieldsKept touched before after := by
  unfold FieldsKept at *
  induction first generalizing after with
  | nil => cases second; exact .nil
  | cons same _ ih =>
    cases second with
    | cons again rest =>
      refine .cons ⟨again.1.trans same.1, fun untouched => ?_⟩ (ih rest)
      exact (again.2 (same.1 ▸ untouched)).trans (same.2 untouched)

theorem replaceFields (names : List String) (fresh fields : FieldValues) :
    FieldsKept (· ∈ names) fields (replaceFields names fresh fields) := by
  rw [replaceFields_eq_map]
  unfold FieldsKept
  rw [List.forall₂_map_right_iff]
  exact List.forall₂_same.mpr fun field _ => ⟨rfl, fun untouched => if_neg untouched⟩

theorem lookup (kept : FieldsKept touched before after) {name : String}
    (untouched : ¬touched name) : after.lookup name = before.lookup name := by
  unfold FieldsKept at kept
  induction kept with
  | nil => rfl
  | @cons old new _ _ same _ ih =>
    obtain ⟨one, value⟩ := old
    obtain ⟨other, fresh⟩ := new
    obtain ⟨named, valued⟩ := same
    dsimp only at named valued
    rw [List.lookup_cons, List.lookup_cons, ih, named]
    by_cases here : name = one
    · rw [valued (here ▸ untouched)]
    · rw [beq_eq_false_iff_ne.mpr here]

end FieldsKept

/-! Instances -/

/-- An instance as rows see it: the record types that columns are matched with, the name of its own,
and the values of its fields. -/
structure Instance where
  schema : Schema
  name : String
  fields : FieldValues

/-- A column goes to a field if its path begins there. -/
def Instance.Matches (columns : List String) (subject : Instance) (field : String) : Prop :=
  ∃ column ∈ columns, ∃ path, subject.schema.findPath subject.name column [] = some path ∧
    path.head?.map (·.1) = some field

theorem mem_touchedFields_iff (schema : Schema) (name : String) (columns : List String)
    (field : String) : field ∈ touchedFields (schema.columnPaths name columns) ↔
      ∃ column ∈ columns, ∃ path, schema.findPath name column [] = some path ∧
        path.head?.map (·.1) = some field := by
  unfold touchedFields Schema.columnPaths
  simp only [List.mem_filterMap, List.mem_map, exists_exists_and_eq_and, Option.bind_eq_some_iff]

/-- What a row makes of the fields: those where a path begins are taken from a record that was made
beside the instance. -/
theorem loadRecord_replaces {schema : Schema} {name : String} {fields loaded : FieldValues}
    {columns : List String} {row : List Value}
    (ok : loadRecord schema name fields columns row = .ok loaded) :
    ∃ fresh, loaded = replaceFields (touchedFields (schema.columnPaths name columns)) fresh fields := by
  obtain ⟨data, -, ok⟩ := bind_success ok
  split at ok
  · exact ⟨[], (return_success ok).symm.trans (replaceFields_nothing _ _).symm⟩
  · obtain ⟨validated, -, ok⟩ := bind_success ok
    split at ok
    · exact ⟨_, (return_success ok).symm⟩
    · exact ⟨[], (return_success ok).symm.trans (replaceFields_nothing _ _).symm⟩

/-- A row is checked before any field is set, and then fields are set one after the other, in
whatever order. -/
theorem loadRecord_sets {schema : Schema} {name : String} {fields loaded : FieldValues}
    {columns : List String} {row : List Value}
    (ok : loadRecord schema name fields columns row = .ok loaded) :
    ∃ fresh, ∀ order : List String,
      (∀ field, field ∈ order ↔ Instance.Matches columns ⟨schema, name, fields⟩ field) →
        loaded = order.foldl (setField fresh) fields := by
  obtain ⟨fresh, rfl⟩ := loadRecord_replaces ok
  refine ⟨fresh, fun order same => ?_⟩
  rw [foldl_setField]
  exact replaceFields_congr (fun field =>
    (mem_touchedFields_iff schema name columns field).trans (same field).symm) fresh fields

theorem loadRecord_keeps {schema : Schema} {name : String} {fields loaded : FieldValues}
    {columns : List String} {row : List Value}
    (ok : loadRecord schema name fields columns row = .ok loaded) :
    FieldsKept (Instance.Matches columns ⟨schema, name, fields⟩) fields loaded := by
  obtain ⟨fresh, rfl⟩ := loadRecord_replaces ok
  exact (FieldsKept.replaceFields _ fresh fields).mono fun field touched =>
    (mem_touchedFields_iff schema name columns field).mp touched

/-! Expressions -/

namespace FieldsKept

variable {touched : String → Prop} {before after : FieldValues}

theorem value (kept : FieldsKept touched before after) (name : String)
    (untouched : ¬touched name) : after.value name = before.value name := by
  unfold FieldValues.value
  rw [kept.lookup untouched]

theorem text (kept : FieldsKept touched before after) (name : String)
    (untouched : ¬touched name) {content : String} (held : before.value name = .text content) :
    after.text name = content := by
  unfold FieldValues.text
  rw [kept.value name untouched, held]
  rfl

theorem row (kept : FieldsKept touched before after) (name : String)
    (untouched : ¬touched name) {items : List Value} (held : before.value name = .tuple items) :
    after.row name = items := by
  unfold FieldValues.row
  rw [kept.value name untouched, held]
  rfl

end FieldsKept

section Expressions

variable {touched : String → Prop} {loaded : FieldValues}

theorem Condition.ofFields_keeps (condition : Condition)
    (kept : FieldsKept touched condition.fields loaded) :
    FieldsKept touched condition.fields (Condition.ofFields loaded).fields := by
  refine .cons ⟨rfl, fun free => ?_⟩ (.cons ⟨rfl, fun free => ?_⟩ (.cons ⟨rfl, fun free => ?_⟩
    (.cons ⟨rfl, fun free => ?_⟩ (.cons ⟨rfl, fun free => ?_⟩ (.cons ⟨rfl, fun free => ?_⟩
      (.cons ⟨rfl, fun free => ?_⟩ .nil))))))
  · have same : loaded.text "connector" = condition.connector.text :=
      kept.text "connector" free rfl
    unfold Condition.ofFields
    rw [same]
    cases condition.connector <;> rfl
  · have same : loaded.text "kind" = condition.body.form.name := kept.text "kind" free rfl
    unfold Condition.ofFields
    rw [same]
    cases condition.body.form <;> rfl
  · exact congrArg Value.text (kept.text "raw" free rfl)
  · exact congrArg Value.tuple (kept.row "raw_values" free rfl)
  · exact congrArg Value.text (kept.text "column" free rfl)
  · exact congrArg Value.text (kept.text "operator" free rfl)
  · exact congrArg Value.tuple (kept.row "operands" free rfl)

theorem Order.ofFields_keeps (order : Order) (kept : FieldsKept touched order.fields loaded) :
    FieldsKept touched order.fields (Order.ofFields loaded).fields := by
  refine .cons ⟨rfl, fun free => ?_⟩ (.cons ⟨rfl, fun free => ?_⟩ (.cons ⟨rfl, fun free => ?_⟩
    .nil))
  · exact congrArg Value.text (kept.text "column" free rfl)
  · have same : loaded.value "direction" = .ofText? order.direction :=
      kept.value "direction" free
    unfold Order.ofFields
    rw [same]
    cases order.direction <;> rfl
  · exact congrArg Value.tuple (kept.row "field_values" free rfl)

/-- The fields of an expression. Of a nested select these are the clauses inside, its name and its
statement; arguments it has with the statement only. -/
def Expression.ownFields : Expression → FieldValues
  | .subquery inner =>
    [("builder", .thing "Builder" inner.clauses.fields [] "" ""),
      ("alias", .ofText? inner.derivedName), ("statement", .ofText? (inner.recorded.map (·.1)))]
  | other => other.fields

theorem Subquery.ofFields_keeps (subquery : Subquery)
    (kept : FieldsKept touched subquery.fields loaded) :
    FieldsKept touched (Expression.ownFields (.subquery subquery))
      (Expression.ownFields (.subquery (subquery.ofFields loaded))) := by
  refine .cons ⟨rfl, fun _ => rfl⟩ (.cons ⟨rfl, fun free => ?_⟩ (.cons ⟨rfl, fun free => ?_⟩ .nil))
  · have same : loaded.value "alias" = .ofText? subquery.derivedName := kept.value "alias" free
    unfold Subquery.ofFields
    rw [same]
    cases subquery.derivedName <;> rfl
  · have same : loaded.value "statement" = .ofText? (subquery.recorded.map (·.1)) :=
      kept.value "statement" free
    unfold Subquery.ofFields
    rw [same]
    cases subquery.recorded <;> rfl

theorem Expression.ofFields_keeps (expression : Expression)
    (kept : FieldsKept touched expression.fields loaded) :
    FieldsKept touched expression.ownFields (expression.ofFields loaded).ownFields := by
  cases expression with
  | base | null => exact .nil
  | literal value => exact .cons ⟨rfl, fun free => kept.value "value" free⟩ .nil
  | function template arguments =>
    refine .cons ⟨rfl, fun free => ?_⟩ (.cons ⟨rfl, fun free => ?_⟩ .nil)
    · exact congrArg Value.text (kept.text "template" free rfl)
    · exact congrArg Value.tuple (kept.row "arguments" free rfl)
  | timestamp part value =>
    refine .cons ⟨rfl, fun free => ?_⟩ (.cons ⟨rfl, kept.value "value"⟩ .nil)
    exact congrArg Value.text (kept.text "template" free rfl)
  | patterned pattern value =>
    refine .cons ⟨rfl, fun free => ?_⟩ (.cons ⟨rfl, kept.value "value"⟩ .nil)
    exact congrArg Value.text (kept.text "template" free rfl)
  | condition condition => exact condition.ofFields_keeps kept
  | order order => exact order.ofFields_keeps kept
  | subquery subquery => exact subquery.ofFields_keeps kept

end Expressions

/-! Builders -/

namespace Builder

theorem assign_keeps (builder : Builder) (field : String × Value) :
    FieldsKept (· = field.1) builder.fields (builder.assign field).fields := by
  obtain ⟨name, value⟩ := field
  unfold fields Clauses.fields assign FieldsKept
  dsimp only
  simp only [List.cons_append, List.nil_append, List.forall₂_cons, List.forall₂_nil_left_iff,
    true_and, and_true]
  refine ⟨?_, ?_, ?_, ?_, ?_, ?_, ?_, ?_, ?_, ?_, ?_, ?_, ?_, ?_, ?_, ?_, ?_, ?_, ?_, ?_, ?_, ?_⟩
  -- One goal for each field, which only the branch of its own name sets.
  all_goals
    intro other
    first
      | unfold assignClause
      | unfold assignSetting
      | unfold assignResult
      | unfold assignTraces
    split <;> first | rfl | exact absurd rfl other

theorem foldl_assign_keeps {touched : String → Prop} (changes : FieldValues)
    (within : ∀ change ∈ changes, touched change.1) (builder : Builder) :
    FieldsKept touched builder.fields (changes.foldl assign builder).fields := by
  induction changes generalizing builder with
  | nil => exact .refl touched builder.fields
  | cons change rest ih =>
    have first : FieldsKept touched builder.fields (builder.assign change).fields :=
      (builder.assign_keeps change).mono fun name (same : name = change.1) =>
        same ▸ within change List.mem_cons_self
    exact first.trans
      (ih (fun other member => within other (List.mem_cons_of_mem _ member)) _)

end Builder

/-! Destinations -/

/-- A destination as rows see it, if it is an instance. -/
def Destination.asInstance? (schema : Schema) : Destination → Option Instance
  | .record name fields => some ⟨schema, name, fields⟩
  | .expression inner => some ⟨inner.recordType :: schema, inner.kindName, inner.ownFields⟩
  | .builder _ fields _ => some ⟨Builder.recordTypes ++ schema, "Builder", fields⟩
  | .holder .. | .list _ | .mapping _ => none

/-- What is given a sink for records is an instance. -/
theorem asInstance?_of_selectSink {schema : Schema} {destination : Destination}
    {rule : ElementRule} (selected : selectSink schema destination rule = .ok .record) :
    ∃ subject, destination.asInstance? schema = some subject := by
  cases destination with
  | record | expression | builder => exact ⟨_, rfl⟩
  | holder | list | mapping => cases selected

/-- A load that fails has touched nothing, whatever it is for. -/
theorem load_refused {schema : Schema} {destination after : Destination} {columns : List String}
    {rows : List (List Value)} {reason : Error}
    (refused : load schema .record destination columns rows = (.error reason, after)) :
    after = destination := by
  unfold load at refused
  cases destination with
  | list items => cases refused
  | mapping entries => cases rows <;> cases refused
  | holder | record | expression | builder =>
    cases rows with
    | nil => cases refused
    | cons row rest =>
      dsimp only at refused
      split at refused <;> cases refused
      rfl

/-- Without a row nothing is loaded. -/
theorem load_rowless {schema : Schema} {destination : Destination} {columns : List String}
    {subject : Instance} (shown : destination.asInstance? schema = some subject) :
    load schema .record destination columns [] = (.ok 0, destination) := by
  cases destination with
  | record | expression | builder => rfl
  | holder | list | mapping => cases shown

theorem load_row {schema : Schema} {destination after : Destination} {columns : List String}
    {row : List Value} {rest : List (List Value)} {count : Nat} {subject : Instance}
    (shown : destination.asInstance? schema = some subject)
    (accepted : load schema .record destination columns (row :: rest) = (.ok count, after)) :
    count = 1 ∧ ∃ fields, after.asInstance? schema = some { subject with fields := fields } ∧
      FieldsKept (subject.Matches columns) subject.fields fields := by
  unfold load at accepted
  cases destination with
  | holder | list | mapping => cases shown
  | record name fields =>
    cases shown
    dsimp only at accepted
    split at accepted <;> cases accepted
    rename_i loaded ok
    exact ⟨rfl, loaded, rfl, loadRecord_keeps ok⟩
  | builder number fields changes =>
    cases shown
    dsimp only at accepted
    split at accepted <;> cases accepted
    rename_i loaded ok
    exact ⟨rfl, loaded, rfl, loadRecord_keeps ok⟩
  | expression expression =>
    cases shown
    dsimp only at accepted
    split at accepted <;> cases accepted
    rename_i loaded ok
    refine ⟨rfl, (expression.ofFields loaded).ownFields, ?_,
      expression.ofFields_keeps (loadRecord_keeps ok)⟩
    cases expression <;> rfl

/-- Two columns of a row may go to a record inside and to one of its fields. -/
def lodgers : Schema :=
  [{ name := "Lodger"
     fields := [{ name := "name", type := .text }, { name := "room", type := .record "Room" }] },
    { name := "Room", fields := [{ name := "floor", type := .integer }] }]

def lodger : List (String × Value) :=
  [("name", .text "Ann"), ("room", .record "Room" [("floor", .integer 2)])]

/-- A builder takes over what a load has changed: nothing if it failed, and else fields that have the
name of a column. -/
theorem builder_load_keeps (schema : Schema) (number : Nat) (builder : Builder)
    (columns : List String) (rows : List (List Value)) :
    let outcome := load schema .record (.builder number builder.fields []) columns rows
    let after := outcome.2.changes.foldl Builder.assign builder
    (∀ reason, outcome.1 = .error reason → after = builder) ∧
      FieldsKept (· ∈ columns) builder.fields after.fields := by
  intro outcome after
  constructor
  · intro reason failed
    have same : outcome.2 = .builder number builder.fields [] :=
      load_refused (Prod.ext failed rfl)
    change outcome.2.changes.foldl Builder.assign builder = builder
    rw [same]
    rfl
  · exact Builder.foldl_assign_keeps _ (fun field changed =>
      load_changes number schema builder.fields columns rows field changed) builder

end Querywright
