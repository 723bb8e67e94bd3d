import Querywright.Record.Validation

/-! Fitting a mapping to a record type. Each field is fitted on its own, and the record has the
fitted values when all of them fit. -/
namespace Querywright

/-- What a mapping gives for one field of a record. -/
def FieldRule.fitted (schema : Schema) (byName : Bool) (entries : Entries) (rule : FieldRule) :
    Except Flaws Fitted :=
  match firstPresent? entries (rule.readingKeys byName) with
  | some (key, value) => (fit schema rule.type value).mapError (under (.field key))
  | none =>
    match rule.fallback with
    | some value => .ok { value := value }
    | none => .error [(.missing, [.field ((rule.readingKeys byName).headD rule.name)])]

theorem firstPresent?_append {entries : Entries} {earlier : List String}
    (absent : ∀ key ∈ earlier, Entries.get? (.text key) entries = none) {key : String}
    {value : Value}
    (present : Entries.get? (.text key) entries = some value) (later : List String) :
    firstPresent? entries (earlier ++ key :: later) = some (key, value) := by
  induction earlier with
  | nil => rw [List.nil_append, firstPresent?, present]
  | cons first rest ih =>
    rw [List.cons_append, firstPresent?, absent first List.mem_cons_self]
    exact ih fun other member => absent other (List.mem_cons_of_mem _ member)

theorem firstPresent?_congr {entries others : Entries} {keys : List String}
    (same : ∀ key ∈ keys, Entries.get? (.text key) entries = Entries.get? (.text key) others) :
    firstPresent? entries keys = firstPresent? others keys := by
  induction keys with
  | nil => rfl
  | cons first rest ih =>
    rw [firstPresent?, firstPresent?, same first List.mem_cons_self,
      ih fun key member => same key (List.mem_cons_of_mem _ member)]

theorem FieldRule.fitted_of_present {schema : Schema} {byName : Bool} {entries : Entries}
    {rule : FieldRule} {key : String} {value : Value} {fitted : Fitted}
    (present : firstPresent? entries (rule.readingKeys byName) = some (key, value))
    (fits : fit schema rule.type value = .ok fitted) :
    rule.fitted schema byName entries = .ok fitted := by
  unfold FieldRule.fitted
  rw [present]
  dsimp only
  rw [fits]
  rfl

/-- A value that is there is fitted to an optional type as to the type itself. -/
theorem fit_optional (schema : Schema) {type : FieldType} (alone : type.optional.branches = [type])
    (value : Value) : fit schema type.optional value =
      if value.isNull then .ok { value := .null } else fit schema type value := by
  have accepts : type.optional.acceptsAbsent = true := by
    simp [FieldType.optional, FieldType.acceptsAbsent, FieldType.alternatives,
      FieldType.alternativesOfAll, FieldType.isAbsent]
  have results : (type.optional.branches.attach.map fun branch =>
      (branch.1, fit schema branch.1 value)) = [(type, fit schema type value)] := by
    refine List.attach_map_val.trans (?_ :
      type.optional.branches.map (fun branch => (branch, fit schema branch value)) = _)
    rw [alone]
    rfl
  unfold FieldType.optional at accepts results ⊢
  rw [fit, accepts, Bool.true_and, results]

theorem fit_mapping (schema : Schema) (name : String) (recordType : RecordType) (entries : Entries)
    (known : schema.find? name = some recordType) :
    fit schema (.record name) (.mapping entries) =
      (gatherFields (recordType.fields.map fun rule =>
        (rule.name, rule.fitted schema recordType.byName entries))).map fun gathered =>
          { value := .record name gathered.1
            score := recordScore (recordType.countPresent entries) gathered.2 } := by
  rw [fit, known]
  dsimp only
  rw [List.map_congr_left (g := fun rule =>
    (rule.name, rule.fitted schema recordType.byName entries))]
  · cases gatherFields (recordType.fields.map fun rule =>
        (rule.name, rule.fitted schema recordType.byName entries)) with
    | error flaws => rfl
    | ok gathered => rfl
  · intro rule _
    unfold FieldRule.fitted
    split
    · rename_i key value found
      rw [found]
    · rename_i found
      rewrite [found]
      rfl

/-- A type with one record type behind it makes of a mapping what that type makes of it. -/
theorem fit_nested (schema : Schema) {type : FieldType} {inner : String}
    (nested : type.record? = some inner) (entries : Entries) :
    fit schema type (.mapping entries) = fit schema (.record inner) (.mapping entries) := by
  have single : type.branches = [.record inner] := by
    unfold FieldType.record? at nested
    split at nested
    · rename_i name branches
      cases nested
      exact branches
    · cases nested
  cases type with
  | union form branches =>
    have fitted : ((FieldType.union form branches).branches.attach.map fun branch =>
        (branch.1, fit schema branch.1 (.mapping entries))) =
          [(.record inner, fit schema (.record inner) (.mapping entries))] := by
      rw [List.attach_map_val (f := fun branch => (branch, fit schema branch (.mapping entries))),
        single]
      rfl
    rw [fit]
    simp only [Value.isNull, Bool.and_false]
    rw [fitted]
    rfl
  | record name =>
    cases single
    rfl
  | _ => cases single

def Fitted.valueOf : Except Flaws Fitted → Value
  | .ok fitted => fitted.value
  | .error _ => .null

theorem gatherFields_ok (results : List (String × Except Flaws Fitted))
    (each : ∀ result ∈ results, ∃ fitted, result.2 = .ok fitted) :
    ∃ score, gatherFields results =
      .ok (results.map fun result => (result.1, Fitted.valueOf result.2), score) := by
  induction results with
  | nil => exact ⟨{}, rfl⟩
  | cons result rest ih =>
    obtain ⟨name, result⟩ := result
    obtain ⟨fitted, rfl⟩ : ∃ fitted, result = .ok fitted := each _ List.mem_cons_self
    obtain ⟨score, gathered⟩ := ih fun other member => each other (List.mem_cons_of_mem _ member)
    exact ⟨fitted.score.followedBy score, by simp [gatherFields, gathered, Fitted.valueOf]⟩

theorem gatherFields_success (results : List (String × Except Flaws Fitted))
    (gathered : List (String × Value) × Score) (ok : gatherFields results = .ok gathered) :
    ∀ result ∈ results, ∃ fitted, result.2 = .ok fitted := by
  induction results generalizing gathered with
  | nil => simp
  | cons result rest ih =>
    obtain ⟨name, result⟩ := result
    cases result with
    | error flaws =>
      cases others : gatherFields rest with
      | error more => simp [gatherFields, others] at ok
      | ok gathered => simp [gatherFields, others] at ok
    | ok fitted =>
      cases others : gatherFields rest with
      | error more => simp [gatherFields, others] at ok
      | ok below => exact List.forall_mem_cons.mpr ⟨⟨fitted, rfl⟩, ih below others⟩

/-- The record that a mapping makes, where each of its fields fits. -/
def RecordType.fittedFields (schema : Schema) (type : RecordType) (entries : Entries) :
    List (String × Value) :=
  type.fields.map fun rule => (rule.name, Fitted.valueOf (rule.fitted schema type.byName entries))

/-- A mapping that fits in every field makes a record of the fitted values. -/
theorem fit_mapping_ok (schema : Schema) (name : String) (recordType : RecordType)
    (entries : Entries) (known : schema.find? name = some recordType)
    (each : ∀ rule ∈ recordType.fields,
      ∃ fitted, rule.fitted schema recordType.byName entries = .ok fitted) :
    ∃ score, fit schema (.record name) (.mapping entries) =
      .ok { value := .record name (recordType.fittedFields schema entries), score := score } := by
  obtain ⟨score, gathered⟩ := gatherFields_ok
    (recordType.fields.map fun rule => (rule.name, rule.fitted schema recordType.byName entries))
    (List.forall_mem_map.mpr each)
  rw [fit_mapping schema name recordType entries known, gathered, List.map_map]
  exact ⟨_, rfl⟩

/-- A record is made of a mapping only if each of its fields fits. -/
theorem fit_mapping_success (schema : Schema) (name : String) (recordType : RecordType)
    (entries : Entries) (known : schema.find? name = some recordType) {made : Fitted}
    (ok : fit schema (.record name) (.mapping entries) = .ok made) :
    (∀ rule ∈ recordType.fields,
        ∃ fitted, rule.fitted schema recordType.byName entries = .ok fitted) ∧
      made.value = .record name (recordType.fittedFields schema entries) := by
  have each : ∀ rule ∈ recordType.fields,
      ∃ fitted, rule.fitted schema recordType.byName entries = .ok fitted := by
    rw [fit_mapping schema name recordType entries known] at ok
    cases gathered : gatherFields (recordType.fields.map fun rule =>
        (rule.name, rule.fitted schema recordType.byName entries)) with
    | error flaws =>
      rw [gathered] at ok
      cases ok
    | ok fields =>
      exact fun rule member =>
        gatherFields_success _ fields gathered _ (List.mem_map_of_mem (f := _) member)
  obtain ⟨score, same⟩ := fit_mapping_ok schema name recordType entries known each
  rw [same] at ok
  cases ok
  exact ⟨each, rfl⟩

end Querywright
