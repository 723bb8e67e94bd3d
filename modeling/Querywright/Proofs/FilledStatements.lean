import Querywright.Proofs.FilledText
import Querywright.Proofs.StatementPieces

/-! Whole statements from filled clauses. What is written into a row or looked for is bound, columns
and tables are written. -/
namespace Querywright
open Fragment

variable (filling : Filling)

theorem Expression.fragment_follows (expression : Expression) :
    Follows (Fragment.filled filling) expression.fragment (expression.filled filling).fragment :=
  have alike := expression.written_alike filling
  bind_follows alike.supplied alike.written

theorem columnFragment_follows (column : Value) :
    Follows (Fragment.filled filling) (columnFragment column)
      (columnFragment (column.filled filling false)) := by
  cases column with
  | expression inner => exact inner.fragment_follows filling
  | text name =>
    simp only [Value.filled, Bool.false_eq_true, if_false, columnFragment]
    split
    · exact .failure rfl
    · exact .success _
  | _ => exact .failure rfl

theorem columnsFragment_follows (columns : List Value) :
    Follows (Fragment.filled filling) (columnsFragment columns)
      (columnsFragment (columns.map (Value.filled filling false))) := by
  cases columns with
  | nil => exact .success (plain "*")
  | cons first rest =>
    refine (Follows.mapM (first :: rest) fun column _ => columnFragment_follows filling column).bind
      fun fragments _ => .of_eq ?_
    simp [listed, fill_joined]

namespace Clauses

variable (clauses : Clauses)

theorem select_follows (columns : List Value) :
    Follows (Fragment.filled filling) (clauses.select columns)
      ((clauses.filled filling).select (columns.map (Value.filled filling false))) := by
  refine (clauses.requireTable_follows filling false).bind fun _ _ => ?_
  refine (columnsFragment_follows filling columns).bind fun written _ => ?_
  refine (clauses.sources_follows filling).bind fun sources _ => .of_eq ?_
  rw [leading_fill, selectEnding_fill, assembleSelect_fill]

theorem selectCounting_follows (columns : List Value) :
    Follows (Fragment.filled filling) (clauses.selectCounting columns)
      ((clauses.filled filling).selectCounting (columns.map (Value.filled filling false))) := by
  unfold selectCounting selectCountingWith
  rw [leading_fill]
  refine (clauses.requireTable_follows filling false).bind fun _ _ => ?_
  have selected (written : Fragment) :
      Follows (Fragment.filled filling)
        (do
          let sources ← clauses.sources
          return assembleSelect (clauses.leading.filter countingOptions.contains) written sources [])
        (do
          let sources ← (clauses.filled filling).sources
          return assembleSelect (clauses.leading.filter countingOptions.contains)
            (written.filled filling) sources []) := by
    refine (clauses.sources_follows filling).bind fun sources _ => .of_eq ?_
    exact assembleSelect_fill filling _ written sources []
  dsimp only
  split
  · exact (columnsFragment_follows filling columns).bind fun written _ => selected written
  · exact (columnsFragment_follows filling [.text "1"]).bind fun written _ => selected written

theorem countRows_follows (columns : List Value) :
    Follows (Fragment.filled filling) (clauses.countRows columns)
      ((clauses.filled filling).countRows (columns.map (Value.filled filling false))) :=
  (clauses.selectCounting_follows filling columns).map fun _ => rfl

end Clauses

/-! Rows to write. -/

theorem lookup_map {κ α β : Type} [BEq κ] (change : α → β) (key : κ) (entries : List (κ × α)) :
    (entries.map fun (key, value) => (key, change value)).lookup key =
      (entries.lookup key).map change := by
  induction entries with
  | nil => rfl
  | cons entry rest ih =>
    obtain ⟨name, value⟩ := entry
    simp only [List.map_cons, List.lookup_cons]
    split
    · rfl
    · exact ih

def Payload.filled (payload : Payload) : Payload :=
  payload.map fun (column, value) => (column, value.filled filling true)

theorem Payload.columns_fill (payload : Payload) :
    Payload.columns (payload.filled filling) = payload.columns := by
  simp [Payload.columns, Payload.filled, Function.comp_def]

theorem Payload.value_fill (payload : Payload) (column : String) :
    Payload.value (payload.filled filling) column = (payload.value column).filled filling true := by
  unfold Payload.value Payload.filled
  rw [lookup_map]
  cases payload.lookup column <;> rfl

theorem payloadKey_follows (key : Value) :
    Follows id (payloadKey key) (payloadKey (key.filled filling false)) := by
  cases key with
  | text name => exact .same _
  | _ => exact .failure rfl

theorem payloadOf_follows (data : Value) :
    Follows (Payload.filled filling) (payloadOf data) (payloadOf (data.rowFilled filling)) := by
  cases data with
  | mapping entries =>
    rw [Value.rowFilled, Value.isMapping, Value.filled, Value.fillEntries_eq_map]
    cases entries with
    | nil => exact .failure rfl
    | cons entry rest =>
      exact Follows.mapM (entry :: rest) fun item _ =>
        (payloadKey_follows filling item.1).bind fun _ _ => .success _
  | _ => exact .failure rfl

theorem asExpression_follows (value : Value) :
    Follows (Fragment.filled filling) value.asExpression.fragment
      (value.filled filling true).asExpression.fragment := by
  rw [Value.asExpression_fill]
  exact value.asExpression.fragment_follows filling

theorem rowFragment_follows (columns : List String) (row : Payload) :
    Follows (Fragment.filled filling) (rowFragment columns row)
      (rowFragment columns (row.filled filling)) := by
  unfold rowFragment
  rw [Payload.columns_fill]
  split
  · exact .failure rfl
  · have each : Follows (List.map (Fragment.filled filling))
        (columns.mapM fun column => (row.value column).asExpression.fragment)
        ((columns.map id).mapM fun column =>
          (Payload.value (row.filled filling) column).asExpression.fragment) := by
      refine Follows.mapM columns fun column _ => ?_
      rw [id, Payload.value_fill]
      exact asExpression_follows filling _
    rw [List.map_id] at each
    refine each.bind fun values _ => .of_eq ?_
    simp [listed, fill_surrounded, fill_joined]

theorem assignmentFragment_follows (assignment : String × Value) :
    Follows (Fragment.filled filling) (assignmentFragment assignment)
      (assignmentFragment (assignment.1, assignment.2.filled filling true)) :=
  (asExpression_follows filling assignment.2).bind fun _ _ => .success _

namespace Clauses

variable (clauses : Clauses)

theorem tableTexts_fill (accepted : clauses.requireTable true = .ok ()) :
    (clauses.filled filling).tableTexts = clauses.tableTexts := by
  unfold tableTexts
  rw [fill_eq, List.map_map]
  refine List.map_congr_left fun table member => ?_
  obtain ⟨name, rfl⟩ := text_of_writes clauses accepted table member
  rfl

theorem firstTable_fill (accepted : clauses.requireTable true = .ok ()) :
    (clauses.filled filling).firstTable = clauses.firstTable := by
  unfold firstTable
  rw [tableTexts_fill filling clauses accepted]

theorem insert_follows (keyword : String) (rows : List Value) :
    Follows (Fragment.filled filling) (clauses.insert keyword rows)
      ((clauses.filled filling).insert keyword (rows.map (Value.rowFilled filling))) := by
  refine (clauses.requireTable_follows filling true).bind fun _ accepted => ?_
  refine (Follows.mapM rows fun row _ => payloadOf_follows filling row).bind fun payloads _ => ?_
  cases payloads with
  | nil => exact .failure rfl
  | cons first rest =>
    rw [List.map_cons]
    dsimp only
    rw [Payload.columns_fill, ← List.map_cons]
    refine (Follows.mapM (first :: rest) fun row _ =>
      rowFragment_follows filling (Payload.columns first) row).bind fun tuples _ => .of_eq ?_
    have upserts : (clauses.filled filling).hasUpsert = clauses.hasUpsert ∧
        (clauses.filled filling).upsertText = clauses.upsertText := by
      rw [fill_eq]
      exact ⟨rfl, rfl⟩
    rw [firstTable_fill filling clauses accepted, leading_fill, upserts.1, upserts.2]
    simp only [spaced, listed, fill_joined, List.map_cons, List.map_append, fill_plains, fill_plain,
      List.map_nil]
    split <;> rfl

theorem joins_follow : Follows (List.map (Fragment.filled filling)) (Join.fragments clauses.joins)
    (Join.fragments (clauses.filled filling).joins) := by
  rw [fill_eq]
  exact Join.fragments_follows filling clauses.joins

theorem conditions_follow : Follows (List.map (Fragment.filled filling))
    (Condition.fragments true clauses.conditions)
    (Condition.fragments true (clauses.filled filling).conditions) := by
  rw [fill_eq]
  exact Condition.fragments_follows filling true clauses.conditions

theorem update_follows (data : Value) :
    Follows (Fragment.filled filling) (clauses.update data)
      ((clauses.filled filling).update (data.rowFilled filling)) := by
  refine (clauses.requireTable_follows filling true).bind fun _ accepted => ?_
  refine (payloadOf_follows filling data).bind fun payload _ => ?_
  refine (clauses.joins_follow filling).bind fun joins _ => ?_
  refine (Follows.mapM payload fun assignment _ =>
    assignmentFragment_follows filling assignment).bind fun assignments _ => ?_
  refine (clauses.conditions_follow filling).bind fun conditions _ => .of_eq ?_
  rw [leading_fill, firstTable_fill filling clauses accepted, ledBy_fill, window_fill]
  simp only [spaced, listed, fill_joined, fill_surrounded, List.map_cons, List.map_append,
    fill_plains, fill_plain, List.map_nil]

theorem delete_follows :
    Follows (Fragment.filled filling) clauses.delete (clauses.filled filling).delete := by
  refine (clauses.requireTable_follows filling true).bind fun _ accepted => ?_
  have many : (1 < (clauses.filled filling).tables.length || !(clauses.filled filling).joins.isEmpty) =
      (1 < clauses.tables.length || !clauses.joins.isEmpty) := by
    rw [fill_eq]
    simp
  rw [many, leading_fill, tableTexts_fill filling clauses accepted, window_fill]
  split
  · refine (clauses.joins_follow filling).bind fun joins _ => ?_
    refine (clauses.conditions_follow filling).bind fun conditions _ => .of_eq ?_
    simp only [spaced, fill_joined, List.map_cons, List.map_append, fill_plains, fill_plain,
      List.map_nil, ledBy_fill]
  · refine (clauses.conditions_follow filling).bind fun conditions _ => .of_eq ?_
    simp only [spaced, fill_joined, List.map_cons, List.map_append, fill_plains, fill_plain,
      List.map_nil, ledBy_fill]

end Clauses
end Querywright
