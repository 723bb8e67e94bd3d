import Querywright.Proofs.CountedSelects
import Querywright.Proofs.SelectRuns

/-! The statements of a select with its total. Two are sent, the select itself and the count of what
it selects, and the select stays the last statement. A builder that is its own destination may lose
its request, or its statement, to a row. -/
namespace Querywright
open Work

variable {τ : Type}

theorem Setting.Answers.watched {kind : Report → Prop} {setting : Setting τ}
    (answers : setting.Answers kind) : setting.watched.Answers kind := by
  exact answers.wrapped rfl Prod.fst fun _ _ _ _ => rfl

namespace TotalCourse.Leads

theorem noted {itself : Bool} {setting : Setting τ} {executor : Executor τ} {columns : List Value}
    {entry after : Desk (τ × List Sent)} {course : TotalCourse (τ × List Sent)}
    (leads : course.Leads itself setting.watched executor.watched columns entry after) :
    after.outside.2 = entry.outside.2 ++
      [⟨.text course.main.text, course.main.arguments⟩,
        ⟨.text (countText course.counting), course.counting.arguments⟩] := by
  rw [leads.ending.1, leads.fetched.answered.noted, leads.outside, leads.answered.noted,
    List.append_assoc]
  rfl

end TotalCourse.Leads

/-- Two statements are sent, the select and the count of its rows, and the select is the one kept.
-/
def TerminalCall.SendsTotal (itself : Bool) (setting : Setting τ) (call : TerminalCall)
    (columns : List Value) (desk after : Desk (τ × List Sent)) : Prop :=
  ∃ entry main counting, call.opened setting.watched desk = .ok (.select columns, entry) ∧
    entry.builder.clauses.select columns = .ok main ∧
    entry.builder.clauses.selectCounting columns = .ok counting ∧
    after.outside.2 = desk.outside.2 ++ [⟨.text main.text, main.arguments⟩,
      ⟨.text ("SELECT COUNT(*) FROM (" ++ counting.text ++ ") AS counted"), counting.arguments⟩] ∧
    ((itself = true → setting.Answers (Report.Spares Builder.statementNames)) →
      after.builder.results.query = .text main.text ∧
        after.builder.results.arguments = main.arguments)

theorem TerminalCall.performAs_total (itself : Bool) (setting : Setting τ) (call : TerminalCall)
    (columns : List Value) (desk : Desk (τ × List Sent))
    (selects : call.selected? = some columns) (present : setting.executor.isSome = true)
    (asks : call.asksTotal desk.builder.clauses = true)
    (spares : itself = true → setting.Answers (Report.Spares Builder.clauseNames)) :
    let outcome := (call.performAs itself setting.watched).run desk
    outcome.1.isOk = true → call.SendsTotal itself setting columns desk outcome.2 := by
  intro outcome returned
  obtain ⟨executor, found⟩ := Option.isSome_iff_exists.mp present
  have watched : setting.watched.executor = some executor.watched := by
    unfold Setting.watched
    rw [found]
    rfl
  cases ran : outcome with
  | mk ending after =>
    rw [ran] at returned
    cases ending with
    | error reason => cases returned
    | ok result =>
      obtain ⟨own, entry, left, course, bound, opens, leads, rfl⟩ :=
        call.performAs_course itself watched columns selects desk after asks
          (fun same => (spares same).watched) result ran
      obtain ⟨-, outside, -, -⟩ :=
        call.perform_selected setting.watched columns selects desk _ entry opens
      refine ⟨entry, course.main, course.counting, opens, leads.rendered, leads.counting, ?_, ?_⟩
      · rw [← outside]
        exact leads.noted
      · intro kept
        refine leads.statement fun same => ?_
        exact (kept (bound same)).watched _ watched _ _ _ course.rows _ leads.answered.answer

/-- The count is a select of the same clauses without those that only arrange the rows, its values
are those of the select without the ordering and, unless equal rows count once, the columns. A call
that asks for its total and returns has sent both and kept the first, unless the rows went to the
builder itself and named its clauses or its statement. -/
theorem total_counts_select :
    (∀ (clauses : Clauses) (columns : List Value),
      clauses.selectCounting columns = clauses.counted.select (clauses.countedColumns columns) ∧
        ∀ main, clauses.select columns = .ok main →
          ∃ chosen sources counting, columnsFragment columns = .ok chosen ∧
            clauses.sources = .ok sources ∧ clauses.selectCounting columns = .ok counting ∧
            main.arguments =
              chosen.arguments ++ sources.arguments ++ orderValues clauses.orders ∧
            counting.arguments =
              (if isDistinct clauses.options then chosen.arguments else []) ++
                sources.arguments) ∧
      ∀ (τ : Type) (itself : Bool) (setting : Setting τ) (call : TerminalCall)
        (columns : List Value) (desk : Desk (τ × List Sent)),
        call.selected? = some columns → setting.executor.isSome = true →
        call.asksTotal desk.builder.clauses = true →
        (itself = true → setting.Answers (Report.Spares Builder.clauseNames)) →
        let outcome := (call.performAs itself setting.watched).run desk
        outcome.1.isOk = true → call.SendsTotal itself setting columns desk outcome.2 :=
  ⟨fun clauses columns => ⟨clauses.selectCounting_eq columns, clauses.select_counted columns⟩,
    fun _ itself setting call columns desk => call.performAs_total itself setting columns desk⟩

def threeRows : Report :=
  { columns := ["n"], rows := [[.integer 3]] }

/-- A builder for the rows of a table in some order, its statements being noted. -/
def ranked : Desk (Unit × List Sent) :=
  ⟨{ clauses := { tables := [.text "T"], orders := [⟨"a", none, [.integer 7, .null]⟩] } }, [],
    ((), [])⟩

theorem secondPage_totalled :
    let call := TerminalCall.paginate (.integer 2) [.text "a"]
    let outcome := (call.performAs false (answering threeRows).watched).run ranked
    call.selected? = some [.text "a"] ∧ (answering threeRows).executor.isSome = true ∧
      call.asksTotal ranked.builder.clauses = true ∧ outcome.1.isOk = true ∧
      outcome.2.outside.2.map (fun sent => (sent.statement.asText?, sent.arguments.length)) =
        [(some "SELECT a FROM T ORDER BY FIELD(a, ?, ?) ASC LIMIT 20, 20", 2),
          (some "SELECT COUNT(*) FROM (SELECT 1 FROM T) AS counted", 0)] ∧
      call.SendsTotal false (answering threeRows) [.text "a"] ranked outcome.2 := by
  intro call outcome
  have returned : outcome.1.isOk = true := by decide +kernel
  refine ⟨rfl, rfl, rfl, returned, by decide +kernel, ?_⟩
  exact total_counts_select.2 Unit false (answering threeRows) call [.text "a"] ranked rfl rfl rfl
    (fun own => absurd own Bool.false_ne_true) returned

/-- A row of its own that withdraws the request for the total and names another statement. -/
def withdrawing : Report :=
  { columns := ["total_count_requested", "last_query"], rows := [[.truth false, .text "X"]] }

/-- A builder that is its own destination and asks for the total of its rows. -/
def requesting : Desk (Unit × List Sent) :=
  ⟨{ clauses := { tables := [.text "T"], totalRequested := true }
     settings := { pageLimit := .integer 5 }, binding := some ⟨0, .record⟩ }, [.builder 0 [] []],
    ((), [])⟩

def requestingStatement : Fragment :=
  ⟨"SELECT * FROM T", []⟩

/-- The builder behind its select, and its statement noted. -/
def answeredRequest : Desk (Unit × List Sent) :=
  { requesting.begun.kept requestingStatement with
    outside := ((), [⟨.text requestingStatement.text, requestingStatement.arguments⟩]) }

def withdrawnNames : List String :=
  ["total_count_requested", "last_query"]

/-- Its fields once the row has been checked. -/
def withdrawnFields : FieldValues :=
  replaceFields withdrawnNames (Builder.recordType.fields.map fun rule =>
    (rule.name, Fitted.valueOf (rule.fitted Builder.recordTypes false laidOver)))
    answeredRequest.builder.fields

theorem withdrawing_paths : Builder.recordTypes.columnPaths "Builder" withdrawing.columns =
    [some [("total_count_requested", "total_count_requested")],
      some [("last_query", "last_query")]] := by
  decide +kernel

theorem withdrawing_checked :
    loadRecord Builder.recordTypes "Builder" answeredRequest.builder.fields withdrawing.columns
      [.truth false, .text "X"] = .ok withdrawnFields := by
  have assembled : assemble [some [("total_count_requested", "total_count_requested")],
      some [("last_query", "last_query")]] [.truth false, .text "X"] =
        .ok (.mapping [(.text "total_count_requested", .truth false),
          (.text "last_query", .text "X")]) := rfl
  have laid : overlay (.mapping [(.text "total_count_requested", .truth false),
      (.text "last_query", .text "X")])
      (some (written Builder.recordTypes (.record "Builder" answeredRequest.builder.fields))) =
        .mapping laidOver := rfl
  have loaded := loadRecord_laid withdrawing_paths assembled (List.cons_ne_nil _ _) laid rfl
    laidOver_fitted
  unfold RecordType.fittedFields at loaded
  exact loaded

def withdrawals : FieldValues :=
  [("total_count_requested", .truth false), ("last_query", .text "X")]

theorem withdrawnFields_changed :
    withdrawnFields.filter (fun field => withdrawnNames.contains field.1) = withdrawals := by
  have request : FieldRule.fitted Builder.recordTypes false laidOver
      { name := "total_count_requested", type := .truth } = .ok { value := .truth false } :=
    FieldRule.fitted_of_present rfl (by rw [fit]; rfl)
  have query : FieldRule.fitted Builder.recordTypes false laidOver
      { name := "last_query", type := .text } = .ok { value := .text "X" } :=
    FieldRule.fitted_of_present rfl (by rw [fit]; rfl)
  have changed : withdrawnFields.filter (fun field => withdrawnNames.contains field.1) =
      [("total_count_requested", Fitted.valueOf (FieldRule.fitted Builder.recordTypes false laidOver
          { name := "total_count_requested", type := .truth })),
        ("last_query", Fitted.valueOf (FieldRule.fitted Builder.recordTypes false laidOver
          { name := "last_query", type := .text }))] := rfl
  rw [changed, request, query]
  rfl

/-- What the row makes of the builder. -/
def withdrawn : Desk (Unit × List Sent) :=
  let changed := withdrawals.foldl Builder.assign answeredRequest.builder
  { answeredRequest with builder := { changed with results := { changed.results with count := 1 } } }

theorem takeBound_withdrawing (binding : Option Binding) :
    (takeBound true [] binding (some withdrawing)).run answeredRequest = (.ok (), withdrawn) := by
  have touched : touchedFields (Builder.recordTypes.columnPaths "Builder" withdrawing.columns) =
      withdrawnNames := by
    rw [withdrawing_paths]
    rfl
  have rows : withdrawing.rows = [[.truth false, .text "X"]] := rfl
  have loaded : load [] .record (.builder 0 answeredRequest.builder.fields []) withdrawing.columns
      withdrawing.rows = (.ok 1, .builder 0 withdrawnFields withdrawals) := by
    unfold load
    rw [rows]
    dsimp only
    rw [List.append_nil, withdrawing_checked]
    dsimp only
    rw [touched, withdrawnFields_changed]
  have took : (loadItself [] withdrawing).run answeredRequest =
      (.ok 1, { answeredRequest with
        builder := withdrawals.foldl Builder.assign answeredRequest.builder }) := by
    change loadItself [] withdrawing answeredRequest = _
    unfold loadItself ExceptT.mk
    dsimp only
    rw [loaded]
    rfl
  change (loadItself [] withdrawing >>= fun count =>
    changeResults fun results => { results with count := count }).run _ = _
  rw [run_bind_ok took]
  rfl

theorem withdrawn_request_uncounted :
    let outcome :=
      ((TerminalCall.get []).performAs true (answering withdrawing).watched).run requesting
    requesting.builder.clauses.totalRequested = true ∧ outcome.1.isOk = true ∧
      outcome.2.outside.2.map (·.statement.asText?) = [some "SELECT * FROM T"] ∧
      outcome.2.builder.results.query.asText? = some "X" := by
  intro outcome
  have rendered : requesting.begun.builder.clauses.select [] = .ok requestingStatement :=
    selected_rendered
  have sent : (execute (answering withdrawing).watched requestingStatement).run requesting.begun =
      (.ok (some withdrawing), answeredRequest) := by
    rw [execute_balanced _ _ rfl]
    rfl
  have ran : outcome = (.ok none, withdrawn.closed) := by
    refine (run_given rfl rendered).trans ?_
    rw [run_bind_ok sent, run_bind_ok (run_builder _)]
    exact congrArg (conclude _) (run_bind_ok (takeBound_withdrawing _) _)
  rw [ran]
  exact ⟨rfl, rfl, rfl, rfl⟩

end Querywright
