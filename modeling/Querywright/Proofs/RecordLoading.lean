import Querywright.Destination
import Querywright.Proofs.Outcome
import Querywright.Proofs.RecordFitting

/-! Loading a row into a record. The row is laid over the record as it is written out, the whole is
fitted to the record type, and of the record made the fields that the row touches are taken. -/
namespace Querywright

theorem lookup_replaceFields (names : List String) (fresh fields : List (String × Value))
    (name : String) : (replaceFields names fresh fields).lookup name =
      (fields.lookup name).map fun value =>
        if names.contains name then (fresh.lookup name).getD value else value := by
  induction fields with
  | nil => rfl
  | cons field rest ih =>
    obtain ⟨other, old⟩ := field
    have head : replaceFields names fresh ((other, old) :: rest) =
        (other, if names.contains other then (fresh.lookup other).getD old else old) ::
          replaceFields names fresh rest := by
      unfold replaceFields
      rw [List.map_cons]
      congr 1
      dsimp only
      split <;> rfl
    rw [head, List.lookup_cons, List.lookup_cons]
    by_cases same : name = other
    · subst same
      rw [beq_self_eq_true]
      rfl
    · rw [beq_eq_false_iff_ne.mpr same]
      exact ih

/-- A path through a field that is taken finds what it finds in the other record. -/
theorem lookup_replaceFields_bind {β : Type} (names : List String)
    (fresh fields : List (String × Value)) (name : String) (find : Value → Option β)
    (same : name ∈ names → (fresh.lookup name).bind find = (fields.lookup name).bind find) :
    ((replaceFields names fresh fields).lookup name).bind find =
      (fields.lookup name).bind find := by
  rw [lookup_replaceFields]
  cases there : fields.lookup name with
  | none => rfl
  | some old =>
    rw [Option.map_some, Option.bind_some, Option.bind_some]
    split
    · rename_i touched
      have known := same (List.contains_iff_mem.mp touched)
      rw [there] at known
      cases found : fresh.lookup name with
      | none => rfl
      | some value =>
        rw [found] at known
        exact known
    · rfl

theorem lookup_isSome_of_names {fields : List (String × Value)} {name : String}
    (member : name ∈ fields.map (·.1)) : ∃ value, fields.lookup name = some value := by
  obtain ⟨field, inside, rfl⟩ := List.mem_map.mp member
  exact Option.isSome_iff_exists.mp (List.lookup_isSome_iff.mpr ⟨field, inside, beq_self_eq_true _⟩)

theorem lookup_eq_none_of_names {fields : List (String × Value)} {name : String}
    (absent : name ∉ fields.map (·.1)) : fields.lookup name = none := by
  refine List.lookup_eq_none_iff.mpr fun field inside => bne_iff_ne.mpr fun same => absent ?_
  rw [same]
  exact List.mem_map_of_mem inside

variable {schema : Schema} {name : String} {fields loaded : List (String × Value)}
  {columns : List String} {row : List Value} {data : Value}

/-- A row that gives something to lay over the record brings in the fields of the record made. -/
theorem loadRecord_made (assembled : assemble (schema.columnPaths name columns) row = .ok data)
    (full : data ≠ .mapping []) {made : Fitted} {fresh : List (String × Value)} {other : String}
    (fits : fit schema (.record name) (overlay data (some (written schema (.record name fields)))) =
      .ok made) (same : made.value = .record other fresh) :
    loadRecord schema name fields columns row =
      .ok (replaceFields (touchedFields (schema.columnPaths name columns)) fresh fields) := by
  have valid : validate schema (.record name)
      (overlay data (some (written schema (.record name fields)))) = .ok (.record other fresh) := by
    unfold validate
    rw [fits, ← same]
  unfold loadRecord
  dsimp only
  rw [assembled]
  dsimp only [bind, Except.bind]
  split
  · exact absurd rfl full
  · rw [valid]
    rfl

/-- A row laid over the record as it is written out, where each field of the whole fits. -/
theorem loadRecord_laid {paths : List (Option Path)} {added entries : Entries} {type : RecordType}
    (columns' : schema.columnPaths name columns = paths)
    (assembled : assemble paths row = .ok (.mapping added)) (full : added ≠ [])
    (laid : overlay (.mapping added) (some (written schema (.record name fields))) =
      .mapping entries) (known : schema.find? name = some type)
    (each : ∀ rule ∈ type.fields, ∃ fitted, rule.fitted schema type.byName entries = .ok fitted) :
    loadRecord schema name fields columns row =
      .ok (replaceFields (touchedFields paths) (type.fittedFields schema entries) fields) := by
  obtain ⟨score, fits⟩ := fit_mapping_ok schema name type entries known each
  subst columns'
  exact loadRecord_made assembled (fun same => full (Value.mapping.inj same))
    (by rw [laid]; exact fits) rfl

/-- A row that is loaded has nothing to lay over the record, or the whole fits. -/
theorem loadRecord_success (ok : loadRecord schema name fields columns row = .ok loaded) :
    ∃ data, assemble (schema.columnPaths name columns) row = .ok data ∧
      (data = .mapping [] ∨ ∃ made, fit schema (.record name)
          (overlay data (some (written schema (.record name fields)))) = .ok made ∧
        ∀ other fresh, made.value = .record other fresh → loaded =
          replaceFields (touchedFields (schema.columnPaths name columns)) fresh fields) := by
  obtain ⟨data, assembled, ok⟩ := bind_success ok
  refine ⟨data, assembled, ?_⟩
  split at ok
  · exact .inl rfl
  · obtain ⟨validated, valid, ok⟩ := bind_success ok
    unfold validate at valid
    split at valid
    · rename_i made fits
      cases valid
      refine .inr ⟨made, fits, fun other fresh same => ?_⟩
      rw [same] at ok
      exact (return_success ok).symm
    · cases valid

/-- A row of no matched column is loaded and changes nothing. -/
theorem loadRecord_nothing
    (assembled : assemble (schema.columnPaths name columns) row = .ok (.mapping [])) :
    loadRecord schema name fields columns row = .ok fields := by
  unfold loadRecord
  dsimp only
  rw [assembled]
  rfl

end Querywright
