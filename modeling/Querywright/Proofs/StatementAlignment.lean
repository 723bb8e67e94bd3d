import Querywright.Interval
import Querywright.Proofs.MatchedPieces
import Querywright.Proofs.StatementAssembly

/-! Values of matched clauses stand at the placeholders of the pieces that they were supplied with,
in selects, counts, inserts, updates and deletes alike. -/
namespace Querywright
open Fragment Placeholder

private theorem interval_bare (interval : Interval) : IsBare interval.text := by
  have opening : IsBare ((if interval.forward then "+" else "-") ++ " INTERVAL ") := by
    cases interval.forward <;> decide
  have closing : IsBare (" " ++ interval.unit.keyword) := by
    cases interval.unit <;> decide
  have text : interval.text = ((if interval.forward then "+" else "-") ++ " INTERVAL ") ++
      (toString interval.amount ++ (" " ++ interval.unit.keyword)) := by
    simp [Interval.text, String.append_assoc]
  rw [text]
  exact opening.append ((bare_natural _).append closing)

theorem now_matched (intervals : List Value) (moment : Expression)
    (written : now intervals = .ok moment) : moment.IsMatched := by
  obtain ⟨shifts, read, written⟩ := bind_success written
  rw [← return_success written, Expression.IsMatched]
  refine plain_whole (bare_intercalate (by decide) _ ?_)
  intro text member
  rcases List.mem_cons.mp member with rfl | later
  · decide
  · obtain ⟨interval, -, rfl⟩ := List.mem_map.mp later
    exact interval_bare interval

theorem payload_matched (data : Value) (matched : data.PayloadMatched) (payload : Payload)
    (read : payloadOf data = .ok payload) :
    ∀ entry ∈ payload, IsBare entry.1 ∧ entry.2.asExpression.IsMatched := by
  cases data with
  | mapping entries =>
    cases entries with
    | nil => cases read
    | cons first rest =>
      intro entry member
      obtain ⟨⟨key, value⟩, present, found⟩ :=
        mapM_member _ (first :: rest) payload read entry member
      obtain ⟨name, known, found⟩ := bind_success found
      obtain ⟨bare, inner⟩ := matched (key, value) present
      rw [← return_success found]
      refine ⟨bare name ?_, inner⟩
      unfold payloadKey at known
      split at known
      · split at known
        · cases known
        · exact congrArg Value.text (Except.ok.inj known)
      · cases known
  | _ => cases read

theorem value_matched (payload : Payload)
    (matched : ∀ entry ∈ payload, IsBare entry.1 ∧ entry.2.asExpression.IsMatched)
    (column : String) : (payload.value column).asExpression.IsMatched := by
  unfold Payload.value
  cases found : payload.lookup column with
  | none => simp [Value.asExpression, Expression.IsMatched]
  | some value =>
    obtain ⟨before, after, split, -⟩ := List.lookup_eq_some_iff.mp found
    exact (matched (column, value) (by simp [split])).2

theorem names_bare (tables : List Value) (matched : Value.TablesMatched tables) :
    ∀ name ∈ tables.filterMap Value.asText?, IsBare name := by
  induction tables with
  | nil => simp
  | cons table rest ih =>
    rw [Value.TablesMatched] at matched
    intro name member
    cases table with
    | text given =>
      rw [Value.TableMatched] at matched
      rcases List.mem_cons.mp member with rfl | later
      · exact matched.1
      · exact ih matched.2 name later
    | _ => exact ih matched.2 name member

theorem first_name_bare (clauses : Clauses) (matched : Value.TablesMatched clauses.tables) :
    IsBare (clauses.tableNames.headD "") := by
  have names := names_bare clauses.tables matched
  unfold Clauses.tableNames
  cases present : clauses.tables.filterMap Value.asText? with
  | nil => exact bare_empty
  | cons name rest => exact names name (by simp [present])

theorem sources_parts (clauses : Clauses) (matched : clauses.SourcesMatched) :
    Value.TablesMatched clauses.tables ∧ Join.AllMatched clauses.joins ∧
      Condition.AllMatched clauses.conditions ∧
      (∀ name, Value.text name ∈ clauses.groups → IsBare name) ∧
      Condition.AllMatched clauses.groupConditions := by
  cases clauses
  rwa [Clauses.SourcesMatched] at matched

theorem upsert_bare (clauses : Clauses) (matched : clauses.UpsertMatched) :
    IsBare clauses.upsertText := by
  refine bare_intercalate (by decide) _ ?_
  intro text member
  rcases List.mem_append.mp member with kept | renewed
  · split at kept
    · simp at kept
    · rename_i column given
      split at kept
      · obtain rfl := List.mem_singleton.mp kept
        have bare := matched.insertId column given
        exact ((bare.append (by decide)).append bare).append (by decide)
      · simp at kept
  · obtain ⟨column, listed, rfl⟩ := List.mem_map.mp renewed
    have bare := matched.columns column listed
    exact ((bare.append (by decide)).append bare).append (by decide)

namespace Rendering

theorem column_whole (column : Value) (matched : column.ColumnMatched) :
    AreWhole (columnPieces column) := by
  cases column with
  | text name => simpa [columnPieces] using plain_whole matched
  | expression inner => exact inner.pieces_whole matched
  | _ => exact areWhole_nil

theorem columns_whole (columns : List Value) (matched : ∀ column ∈ columns, column.ColumnMatched) :
    AreWhole (columnsPieces columns) := by
  unfold columnsPieces
  split
  · simpa using plain_whole (by decide : IsBare "*")
  · refine separated_whole (by decide) _ ?_
    intro row member
    obtain ⟨column, listed, rfl⟩ := List.mem_map.mp member
    exact column_whole column (matched column listed)

theorem row_whole (columns : List String) (row : Payload)
    (matched : ∀ entry ∈ row, IsBare entry.1 ∧ entry.2.asExpression.IsMatched) :
    AreWhole (rowPieces columns row) := by
  refine bracketed_whole (by decide) (by decide) (separated_whole (by decide) _ ?_)
  intro pieces member
  obtain ⟨column, -, rfl⟩ := List.mem_map.mp member
  exact Expression.pieces_whole _ (value_matched row matched column)

theorem assignment_whole (assignment : String × Value)
    (matched : IsBare assignment.1 ∧ assignment.2.asExpression.IsMatched) :
    AreWhole (assignmentPieces assignment) := by
  unfold assignmentPieces
  rw [areWhole_cons]
  exact ⟨plain_whole (matched.1.append (by decide)), Expression.pieces_whole _ matched.2⟩

theorem insert_whole (keyword : String) (bare : IsBare keyword) (rows : List Value)
    (matched : ∀ row ∈ rows, row.PayloadMatched) (clauses : Clauses)
    (held : clauses.IsMatched) : AreWhole (pieces (.insert keyword rows) clauses) := by
  obtain ⟨tables, -⟩ := sources_parts clauses held.sources
  have each : ∀ payload ∈ (rows.mapM payloadOf).toOption.getD [],
      ∀ entry ∈ payload, IsBare entry.1 ∧ entry.2.asExpression.IsMatched := by
    cases read : rows.mapM payloadOf with
    | error reason => simp [Except.toOption]
    | ok payloads =>
      intro payload member
      obtain ⟨row, listed, found⟩ := mapM_member payloadOf rows payloads read payload member
      exact payload_matched row (matched row listed) payload found
  unfold pieces insertPieces
  dsimp only
  generalize (rows.mapM payloadOf).toOption.getD [] = payloads at each ⊢
  have columns : ∀ column ∈ (payloads.head?.map Payload.columns).getD [], IsBare column := by
    cases payloads with
    | nil => simp
    | cons first rest =>
      intro column member
      obtain ⟨entry, present, rfl⟩ := List.mem_map.mp member
      exact (each first (by simp) entry present).1
  refine separated_whole (by decide) _ ?_
  intro row member
  rcases List.mem_append.mp member with word | part
  · refine words_whole _ ?_ row word
    intro word listed
    simp only [List.cons_append, List.mem_cons, List.mem_append, List.not_mem_nil, or_false]
      at listed
    rcases listed with rfl | option | rfl | rfl | rfl | rfl
    · exact bare
    · exact leading_bare clauses word option
    · decide
    · exact first_name_bare clauses tables
    · exact ((IsBare.append (by decide) (bare_intercalate (by decide) _ columns)).append (by decide))
    · decide
  · rcases List.mem_cons.mp part with rfl | upsert
    · refine separated_whole (by decide) _ ?_
      intro pieces listed
      obtain ⟨payload, present, rfl⟩ := List.mem_map.mp listed
      exact row_whole _ payload (each payload present)
    · unfold upsertRows at upsert
      split at upsert
      · obtain rfl := List.mem_singleton.mp upsert
        simpa using plain_whole (IsBare.append (by decide) (upsert_bare clauses held.upsert))
      · simp at upsert

theorem update_whole (data : Value) (matched : data.PayloadMatched) (clauses : Clauses)
    (held : clauses.IsMatched) : AreWhole (pieces (.update data) clauses) := by
  obtain ⟨tables, joins, conditions, -⟩ := sources_parts clauses held.sources
  have each : ∀ entry ∈ (payloadOf data).toOption.getD [],
      IsBare entry.1 ∧ entry.2.asExpression.IsMatched := by
    cases read : payloadOf data with
    | error reason => simp [Except.toOption]
    | ok payload => exact payload_matched data matched payload read
  unfold pieces updatePieces
  dsimp only
  refine separated_whole (by decide) _ ?_
  intro row member
  simp only [List.append_assoc, List.mem_append, List.mem_singleton] at member
  rcases member with word | joined | rfl | filtered | closing
  · refine words_whole _ ?_ row word
    intro word listed
    simp only [List.cons_append, List.mem_cons, List.mem_append, List.not_mem_nil, or_false]
      at listed
    rcases listed with rfl | option | rfl
    · decide
    · exact leading_bare clauses word option
    · exact first_name_bare clauses tables
  · exact Join.rows_whole _ joins row joined
  · rw [areWhole_cons]
    refine ⟨plain_whole (by decide), separated_whole (by decide) _ ?_⟩
    intro pieces listed
    obtain ⟨assignment, present, rfl⟩ := List.mem_map.mp listed
    exact assignment_whole assignment (each assignment present)
  · exact led_whole (by decide) _ (Condition.rows_whole _ conditions true) row filtered
  · exact window_whole clauses held.window row closing

theorem delete_whole (clauses : Clauses) (held : clauses.IsMatched) :
    AreWhole (pieces .delete clauses) := by
  obtain ⟨tables, joins, conditions, -⟩ := sources_parts clauses held.sources
  have names := bare_intercalate (by decide : IsBare ", ") _ (names_bare _ tables)
  have filtered := led_whole (by decide : IsBare ("WHERE" ++ " ")) _
    (Condition.rows_whole _ conditions true)
  unfold pieces deletePieces
  dsimp only
  split
  · refine separated_whole (by decide) _ ?_
    intro row member
    simp only [List.append_assoc, List.mem_append] at member
    rcases member with word | joined | chosen
    · refine words_whole _ ?_ row word
      intro word listed
      simp only [List.cons_append, List.mem_cons, List.mem_append, List.not_mem_nil, or_false]
        at listed
      rcases listed with rfl | option | rfl | rfl | rfl
      · decide
      · exact leading_bare clauses word option
      · exact names
      · decide
      · exact names
    · exact Join.rows_whole _ joins row joined
    · exact filtered row chosen
  · refine separated_whole (by decide) _ ?_
    intro row member
    simp only [List.append_assoc, List.mem_append] at member
    rcases member with word | chosen | closing
    · refine words_whole _ ?_ row word
      intro word listed
      simp only [List.cons_append, List.mem_cons, List.mem_append, List.not_mem_nil, or_false]
        at listed
      rcases listed with rfl | option | rfl | rfl
      · decide
      · exact leading_bare clauses word option
      · decide
      · exact names
    · exact filtered row chosen
    · exact window_whole clauses held.window row closing

/-- What callers matched stays matched: every piece of the statement is whole. -/
theorem pieces_whole (rendering : Rendering) (given : rendering.IsMatched) (clauses : Clauses)
    (held : clauses.IsMatched) : AreWhole (rendering.pieces clauses) := by
  cases rendering with
  | select columns =>
    exact select_whole _ _ _ _ (leading_bare clauses) (columns_whole columns given)
      (clauses.sourcePieces_whole held.sources) (ending_whole clauses held.window)
  | counting columns =>
    refine select_whole _ _ _ _ ?_ ?_ (clauses.sourcePieces_whole held.sources) (by simp)
    · intro option member
      exact leading_bare clauses option (List.mem_filter.mp member).1
    · split
      · exact columns_whole columns given
      · simpa using plain_whole (by decide : IsBare "1")
  | insert keyword rows => exact insert_whole keyword given.1 rows given.2 clauses held
  | update data => exact update_whole data given clauses held
  | delete => exact delete_whole clauses held
  | written text arguments => simpa [pieces, IsMatched] using given

end Rendering

/-- In a statement from matched clauses there are as many placeholders as values, every value
stands at a placeholder of the piece that it was supplied with, and putting all values in their
places is the same as putting those of each piece in its own. -/
theorem render_aligned (rendering : Rendering) (clauses : Clauses) (given : rendering.IsMatched)
    (held : clauses.IsMatched) (fragment : Fragment)
    (written : rendering.render clauses = .ok fragment) :
    fragment = ofPieces (rendering.pieces clauses) ∧
      count fragment.text = fragment.arguments.length ∧
      KeepsValues (rendering.pieces clauses) ∧
      fragment.inPlace = (rendering.pieces clauses).flatMap inPlace := by
  have assembled := rendering.assembled clauses fragment written
  have whole := rendering.pieces_whole given clauses held
  refine ⟨assembled, ?_, ?_, ?_⟩
  · rw [assembled]
    exact (IsWhole.ofPieces whole).balanced
  · exact (keepsValues_iff _).mpr (countsFrom_whole _ whole)
  · rw [assembled]
    exact inPlace_ofPieces _ whole

/-- A report that binds seven values: in a nested select that is joined, in what is asked of the
join, in a list with a function call, in a comparison of a moment, in a ranking. -/
def paidReport : Clauses :=
  let recent : Subquery :=
    ⟨{ tables := [.text "payments"]
       conditions := [⟨.both, .comparison "amount" ">" (.literal (.integer 10))⟩] },
      20, some "p", none⟩
  { tables := [.text "orders"]
    joins := [⟨.left, .derived recent, "p.owner = orders.id",
      [⟨.both, .raw "p.note <> '?' AND p.kind = ?" [.text "card"]⟩]⟩]
    conditions :=
      [⟨.both, .membership "state" false
          [.literal (.text "new"), .function "LOWER(?)" [.text "PAID"]]⟩,
        ⟨.either, .comparison "created" "=" (.timestamp .year (.integer 2024))⟩]
    orders := [⟨"state", some "DESC", [.text "new", .text "paid"]⟩]
    limit := [.integer 5] }

theorem paidReport_aligned :
    ∃ fragment, (Rendering.select [.text "id"]).render paidReport = .ok fragment ∧
      fragment.arguments.length = 7 ∧ count fragment.text = 7 ∧
      KeepsValues ((Rendering.select [.text "id"]).pieces paidReport) := by
  have shown : ((Rendering.select [.text "id"]).render paidReport).toOption.map
      (fun fragment => fragment.arguments.length) = some 7 := by decide +kernel
  have given : (Rendering.select [.text "id"]).IsMatched := by
    simp only [Rendering.IsMatched, List.forall_mem_cons, Value.ColumnMatched]
    exact ⟨by decide, by simp⟩
  have held : paidReport.IsMatched := by
    refine ⟨?_, ⟨?_, ?_⟩, ⟨by simp [paidReport], by simp [paidReport]⟩⟩
    · simp only [paidReport, Clauses.SourcesMatched, Value.TablesMatched, Value.TableMatched,
        Join.AllMatched, Join.IsMatched, JoinTarget.IsMatched, Subquery.IsMatched,
        Condition.AllMatched, Condition.IsMatched, ConditionBody.IsMatched, Expression.AllMatched,
        Expression.IsMatched, List.not_mem_nil, false_implies, implies_true, and_true, true_and]
      refine ⟨by decide, ⟨⟨⟨⟨by decide, by decide, by decide⟩, ?_⟩, by decide⟩, by decide, by decide⟩,
        ⟨by decide, by decide⟩, by decide, by decide⟩
      exact ⟨by simp, by simp⟩
    · simp only [paidReport, List.forall_mem_cons]
      exact ⟨⟨by decide, by decide⟩, by simp⟩
    · simp only [paidReport, List.forall_mem_cons]
      exact ⟨trivial, by simp⟩
  cases written : (Rendering.select [.text "id"]).render paidReport with
  | error reason => simp [written, Except.toOption] at shown
  | ok fragment =>
    obtain ⟨-, balanced, kept, -⟩ := render_aligned _ _ given held fragment written
    have size : fragment.arguments.length = 7 := by simpa [written, Except.toOption] using shown
    exact ⟨fragment, rfl, size, balanced.trans size, kept⟩

end Querywright
