import Querywright.Proofs.SparedFields

/-! Selects that come to their end without a failure. From such a run it can be read what was
rendered, what was sent, and what was made of the answers. -/
namespace Querywright
open Work

variable {τ : Type}

/-- An executor has answered a statement, and nothing but traces has been added to the builder. -/
structure Answered (executor : Executor τ) (statement : Value) (arguments : List Value)
    (report : Report) (before after : Desk τ) : Prop where
  answer : executor statement arguments before.outside = (.ok report, after.outside)
  clauses : after.builder.clauses = before.builder.clauses
  settings : after.builder.settings = before.builder.settings
  results : after.builder.results = before.builder.results

/-- A watched executor answers as the one inside, and has noted the statement. -/
theorem Answered.noted {executor : Executor τ} {statement : Value} {arguments : List Value}
    {report : Report} {before after : Desk (τ × List Sent)}
    (answered : Answered executor.watched statement arguments report before after) :
    after.outside.2 = before.outside.2 ++ [⟨statement, arguments⟩] := by
  have answer := congrArg (fun outcome => outcome.2.2) answered.answer
  exact answer.symm

namespace Work

theorem send_success (executor : Executor τ) (statement : Value) (arguments : List Value)
    (desk after : Desk τ) (report : Report)
    (ran : (send executor statement arguments).run desk = (.ok report, after)) :
    Answered executor statement arguments report desk after := by
  change send executor statement arguments desk = (.ok report, after) at ran
  unfold send ExceptT.mk at ran
  dsimp only at ran
  cases answer : executor statement arguments desk.outside with
  | mk result outside =>
    rw [answer] at ran
    split at ran
    · split at ran
      · cases ran
      · cases ran
        exact ⟨answer, rfl, rfl, rfl⟩
    · cases ran
      exact ⟨answer, rfl, rfl, rfl⟩

theorem dispatch_success {setting : Setting τ} {executor : Executor τ}
    (present : setting.executor = some executor) (statement : Value) (arguments : List Value)
    (desk after : Desk τ) (answer : Option Report)
    (ran : (dispatch setting statement arguments).run desk = (.ok answer, after)) :
    ∃ report, answer = some report ∧
      Answered executor statement arguments report desk after := by
  unfold dispatch at ran
  rw [present] at ran
  obtain ⟨report, between, sent, ended⟩ := run_bind_success ran
  cases ended
  exact ⟨report, rfl, send_success executor statement arguments desk _ report sent⟩

theorem ofResult_success {α β : Type} {given : Except Error α} {next : α → Work τ β}
    {desk after : Desk τ} {result : β}
    (ran : (ofResult given >>= next).run desk = (.ok result, after)) :
    ∃ value, given = .ok value ∧ (next value).run desk = (.ok result, after) := by
  obtain ⟨value, between, opened, ran⟩ := run_bind_success ran
  rw [run_ofResult] at opened
  cases opened
  exact ⟨value, rfl, ran⟩

theorem execute_success {setting : Setting τ} {executor : Executor τ}
    (present : setting.executor = some executor) (statement : Fragment) (desk after : Desk τ)
    (answer : Option Report) (ran : (execute setting statement).run desk = (.ok answer, after)) :
    ∃ report, answer = some report ∧
      Answered executor (.text statement.text) statement.arguments report (desk.kept statement)
        after := by
  cases balanced : statement.isBalanced with
  | false =>
    rw [execute_unbalanced setting statement balanced] at ran
    cases ran
  | true =>
    rw [execute_balanced setting statement balanced] at ran
    exact dispatch_success present _ _ _ after answer ran

theorem executeAside_success {setting : Setting τ} {executor : Executor τ}
    (present : setting.executor = some executor) (statement : Fragment) (desk after : Desk τ)
    (answer : Option Report)
    (ran : (executeAside setting statement).run desk = (.ok answer, after)) :
    ∃ report, answer = some report ∧
      Answered executor (.text statement.text) statement.arguments report desk after := by
  unfold executeAside at ran
  obtain ⟨checked, passed, ran⟩ := ofResult_success ran
  obtain ⟨-, same⟩ := Fragment.checked_balanced passed
  rw [same] at ran
  exact dispatch_success present _ _ desk after answer ran

end Work

def countText (counting : Fragment) : String :=
  "SELECT COUNT(*) FROM (" ++ counting.text ++ ") AS counted"

theorem Clauses.countRows_success (clauses : Clauses) (columns : List Value) (statement : Fragment)
    (counts : clauses.countRows columns = .ok statement) :
    ∃ counting, clauses.selectCounting columns = .ok counting ∧
      statement = ⟨countText counting, counting.arguments⟩ := by
  obtain ⟨counting, rendered, rfl⟩ := map_success counts
  exact ⟨counting, rendered, rfl⟩

def Desk.totalled (total pages : Int) (desk : Desk τ) : Desk τ :=
  { desk with
    builder := { desk.builder with
      results := { desk.builder.results with total := total, pages := pages } } }

/-- A count that was fetched: the statement for it, its answer, and what was made of that. An answer
without rows leaves the total as it is. -/
structure Fetched (executor : Executor τ) (columns : List Value) (counting : Fragment)
    (report : Report) (before between after : Desk τ) : Prop where
  rendered : before.builder.clauses.selectCounting columns = .ok counting
  answered : Answered executor (.text (countText counting)) counting.arguments report before between
  taken : match firstCell report with
    | none => after = between
    | some cell => ∃ value total pages, cell = .ok value ∧ totalOf value = .ok total ∧
      pagesOf total before.builder.settings.pageLimit = .ok pages ∧
      after = between.totalled total pages

theorem Work.fetchTotal_success {setting : Setting τ} {executor : Executor τ}
    (present : setting.executor = some executor) (columns : List Value) (desk after : Desk τ)
    (ran : (fetchTotal setting columns).run desk = (.ok (), after)) :
    ∃ counting report between, Fetched executor columns counting report desk between after := by
  unfold fetchTotal at ran
  rw [run_bind_ok (run_pending desk)] at ran
  obtain ⟨statement, counts, ran⟩ := ofResult_success ran
  obtain ⟨counting, rendered, rfl⟩ := Clauses.countRows_success _ columns statement counts
  obtain ⟨answer, between, sent, ran⟩ := run_bind_success ran
  obtain ⟨report, rfl, answered⟩ := executeAside_success present _ desk between answer sent
  refine ⟨counting, report, between, rendered, answered, ?_⟩
  change (match firstCell report with
    | none => _
    | some cell => _ : Work τ Unit).run between = _ at ran
  split at ran
  · cases ran
    rfl
  · rename_i cell found
    clear found
    obtain ⟨total, known, counts⟩ := ofResult_success ran
    clear ran
    obtain ⟨value, rfl, counted⟩ := bind_success known
    obtain ⟨_, _, changed, counts⟩ := run_bind_success counts
    cases changed
    obtain ⟨_, _, read, counts⟩ := run_bind_success counts
    cases read
    obtain ⟨pages, divided, counts⟩ := ofResult_success counts
    cases counts
    refine ⟨value, total, pages, rfl, counted, ?_, rfl⟩
    rw [← answered.settings]
    exact divided

namespace Builder

/-- The names of the fields for clauses. -/
def clauseNames : List String :=
  ["tables", "where_conditions", "having_conditions", "joins", "orders", "group_by_columns",
    "limit_value", "query_options", "on_duplicate_columns", "last_insert_id_column",
    "total_count_requested"]

theorem assignClause_same (name : String) (value : Value) (clauses : Clauses)
    (other : name ∉ clauseNames) : assignClause name value clauses = clauses := by
  unfold clauseNames at other
  unfold assignClause
  split <;> simp_all

end Builder

/-- Nothing is sent, and where they are spared the clauses are as they were. -/
structure Undisturbed (lasting : Prop) (before after : Desk τ) : Prop where
  outside : after.outside = before.outside
  clauses : lasting → after.builder.clauses = before.builder.clauses

variable {lasting : Prop}

instance : Std.Refl (Undisturbed lasting : Desk τ → Desk τ → Prop) where
  refl _ := ⟨rfl, fun _ => rfl⟩

instance : IsTrans (Desk τ) (Undisturbed lasting) where
  trans _ _ _ first second :=
    ⟨second.outside.trans first.outside,
      fun kept => (second.clauses kept).trans (first.clauses kept)⟩

namespace Work

theorem undisturbed_tolerates :
    Tolerates (Undisturbed lasting : Desk τ → Desk τ → Prop) :=
  ⟨fun _ _ _ _ => ⟨rfl, fun _ => rfl⟩, fun _ _ => ⟨rfl, fun _ => rfl⟩⟩

theorem loadItself_undisturbed (schema : Schema) (report : Report)
    (kept : lasting → report.Spares Builder.clauseNames) :
    Moves (Undisturbed lasting) (loadItself schema report : Work τ Nat) := by
  intro desk
  have named := load_changes 0 schema desk.builder.fields report.columns report.rows
  refine ⟨rfl, fun spares => ?_⟩
  refine Builder.foldl_assign_same Builder.clauses _ ?_ desk.builder
  intro change changed builder
  refine Builder.assignClause_same change.1 change.2 builder.clauses ?_
  exact fun member => kept spares change.1 member (named change changed)

theorem takeBound_undisturbed (itself : Bool) (schema : Schema) (binding : Option Binding)
    (report : Report) (kept : lasting → itself = true → report.Spares Builder.clauseNames) :
    Moves (Undisturbed lasting) (takeBound itself schema binding report : Work τ Unit) := by
  cases itself with
  | false => exact undisturbed_tolerates.takeRows schema binding (some report)
  | true =>
    rw [takeBound, if_pos rfl]
    unfold takeItself
    dsimp only
    split
    · exact undisturbed_tolerates.changeResults _ (fun _ => rfl) fun _ => rfl
    · refine .bind (loadItself_undisturbed schema report fun spares => kept spares rfl)
        fun count => ?_
      exact undisturbed_tolerates.changeResults _ (fun _ => rfl) fun _ => rfl

end Work

/-- What happens between the start and the end of a select with its total: two statements, the
report on each, and the desk when the rows were answered, taken over, and counted. -/
structure TotalCourse (τ : Type) where
  main : Fragment
  counting : Fragment
  rows : Report
  count : Report
  answered : Desk τ
  taken : Desk τ
  counted : Desk τ

structure TotalCourse.Leads (itself : Bool) (setting : Setting τ) (executor : Executor τ)
    (columns : List Value) (entry after : Desk τ) (course : TotalCourse τ) : Prop where
  rendered : entry.builder.clauses.select columns = .ok course.main
  answered : Answered executor (.text course.main.text) course.main.arguments course.rows
    (entry.kept course.main) course.answered
  taken : (takeBound itself setting.schema course.answered.builder.binding course.rows).run
    course.answered = (.ok (), course.taken)
  clauses : course.taken.builder.clauses = entry.builder.clauses
  fetched : Fetched executor columns course.counting course.count course.taken course.counted after

namespace TotalCourse.Leads

variable {itself : Bool} {setting : Setting τ} {executor : Executor τ} {columns : List Value}
  {entry after : Desk τ} {course : TotalCourse τ}

theorem outside (leads : course.Leads itself setting executor columns entry after) :
    course.taken.outside = course.answered.outside := by
  have moved := takeBound_undisturbed itself setting.schema
    course.answered.builder.binding course.rows False.elim course.answered
  rw [leads.taken] at moved
  exact moved.outside

theorem spared {γ : Type} {watch : Watch γ} {settings statement : Prop}
    (leads : course.Leads itself setting executor columns entry after)
    (harmless : IsHarmless watch itself settings statement course.rows) :
    Spared watch settings statement course.answered course.taken := by
  have moved := takeBound_spared itself setting.schema course.answered.builder.binding
    (some course.rows) (fun found same => Option.some.inj same ▸ harmless) course.answered
  rw [leads.taken] at moved
  exact moved

theorem counting (leads : course.Leads itself setting executor columns entry after) :
    entry.builder.clauses.selectCounting columns = .ok course.counting :=
  leads.clauses ▸ leads.fetched.rendered

/-- What a total is made of changes neither the statement nor what was sent. -/
theorem ending (leads : course.Leads itself setting executor columns entry after) :
    after.outside = course.counted.outside ∧
      after.builder.results.query = course.taken.builder.results.query ∧
      after.builder.results.arguments = course.taken.builder.results.arguments := by
  have taken := leads.fetched.taken
  rw [← leads.fetched.answered.results]
  split at taken
  · rw [taken]
    exact ⟨rfl, rfl, rfl⟩
  · obtain ⟨value, total, pages, -, -, -, rfl⟩ := taken
    exact ⟨rfl, rfl, rfl⟩

theorem statement (leads : course.Leads itself setting executor columns entry after)
    (spares : itself = true → course.rows.Spares Builder.statementNames) :
    after.builder.results.query = .text course.main.text ∧
      after.builder.results.arguments = course.main.arguments := by
  have spared : Spared Watch.all False True course.answered course.taken :=
    leads.spared fun own => ⟨False.elim, fun _ => spares own⟩
  obtain ⟨-, query, arguments⟩ := leads.ending
  rw [query, arguments, spared.query trivial, spared.arguments trivial, leads.answered.results]
  exact ⟨rfl, rfl⟩

end TotalCourse.Leads

/-- A select that is asked for its total, and returns, has gone such a course. -/
theorem Work.selectBound_course {setting : Setting τ} {executor : Executor τ}
    (present : setting.executor = some executor) (itself : Bool) (columns : List Value)
    (spares : itself = true → setting.Answers (Report.Spares Builder.clauseNames))
    (entry after : Desk τ) (requested : entry.builder.clauses.totalRequested = true)
    (ran : (selectBound itself setting columns).run entry = (.ok (), after)) :
    ∃ course : TotalCourse τ, course.Leads itself setting executor columns entry after := by
  unfold selectBound at ran
  rw [run_bind_ok (run_pending entry)] at ran
  obtain ⟨main, rendered, sends⟩ := ofResult_success ran
  clear ran
  obtain ⟨answer, answered, sent, takes⟩ := run_bind_success sends
  obtain ⟨rows, rfl, replied⟩ := execute_success present main entry answered answer sent
  rw [run_bind_ok (run_builder answered)] at takes
  obtain ⟨⟨⟩, taken, took, counts⟩ := run_bind_success takes
  have moved := takeBound_undisturbed itself setting.schema
    answered.builder.binding rows
    (fun (_ : True) own => spares own executor present _ _ _ rows _ replied.answer) answered
  rw [took] at moved
  have clauses : taken.builder.clauses = entry.builder.clauses :=
    (moved.clauses trivial).trans replied.clauses
  rw [run_bind_ok (run_pending taken), clauses, if_pos requested] at counts
  obtain ⟨counting, count, counted, fetched⟩ := fetchTotal_success present columns taken after counts
  exact ⟨⟨main, counting, rows, count, answered, taken, counted⟩, rendered, replied, took, clauses,
    fetched⟩

namespace Work

theorem conclude_success {β : Type} {answer : β → Desk τ → Option Value}
    {outcome : Except Error β × Desk τ} {result : Option Value} {after : Desk τ}
    (ended : conclude answer outcome = (.ok result, after)) :
    ∃ value between, outcome = (.ok value, between) ∧ after = between.closed := by
  obtain ⟨ending, between⟩ := outcome
  cases ending with
  | error reason => cases ended
  | ok value =>
    cases ended
    exact ⟨value, between, rfl, rfl⟩

theorem scope_success {body : Work τ Unit} {desk after : Desk τ} {result : Option Value}
    (ran : (do statement body; return none : Work τ (Option Value)).run desk =
      (.ok result, after)) :
    ∃ left, body.run desk.begun = (.ok (), left) ∧ after = left.closed := by
  have ended := (run_scope body (fun _ => pure none) (fun _ _ => none) (fun _ _ => rfl)
    desk).symm.trans ran
  obtain ⟨⟨⟩, left, returned, rfl⟩ := conclude_success ended
  exact ⟨left, returned, rfl⟩

end Work

/-- A call that fetches rows and returns has run its select. Only a call that takes what is bound
can be on the builder itself. -/
theorem TerminalCall.performAs_selected (itself : Bool) (setting : Setting τ) (call : TerminalCall)
    (columns : List Value) (selects : call.selected? = some columns) (desk after : Desk τ)
    (result : Option Value) (ran : (call.performAs itself setting).run desk = (.ok result, after)) :
    ∃ own entry left, (own = true → itself = true) ∧
      call.opened setting desk = .ok (.select columns, entry) ∧
      (selectBound own setting columns).run entry = (.ok (), left) ∧ after = left.closed := by
  cases call with
  | get columns =>
    cases selects
    obtain ⟨left, selected, rfl⟩ := scope_success ran
    exact ⟨itself, desk.begun, left, id, rfl, selected, rfl⟩
  | getOne columns =>
    cases selects
    obtain ⟨left, selected, rfl⟩ := scope_success ran
    exact ⟨itself, desk.begun.limited, left, id, rfl, selected, rfl⟩
  | paginate page columns =>
    cases selects
    obtain ⟨left, selected, rfl⟩ := scope_success ran
    rw [run_bind_ok (run_builder desk.begun)] at selected
    obtain ⟨window, found, selected⟩ := ofResult_success selected
    refine ⟨itself, desk.begun.windowed window, left, id, ?_, selected, rfl⟩
    change (pageWindow page desk.builder.settings.pageLimit).map _ = _
    change pageWindow page desk.builder.settings.pageLimit = .ok window at found
    rw [found]
    rfl
  | getValue column =>
    cases selects
    have ended := (run_fetched (rfl : Builder.freshHolder.run desk =
      (.ok desk.shelf.length, desk.boundHolder)) _).symm.trans ran
    obtain ⟨⟨⟩, left, selected, rfl⟩ := conclude_success ended
    exact ⟨false, desk.boundHolder.begun.limited, left, fun own => absurd own Bool.false_ne_true,
      rfl, selected, rfl⟩
  | getValues column =>
    cases selects
    have ended := (run_fetched (rfl : Builder.freshList.run desk =
      (.ok desk.shelf.length, desk.boundList)) _).symm.trans ran
    obtain ⟨⟨⟩, left, selected, rfl⟩ := conclude_success ended
    exact ⟨false, desk.boundList.begun, left, fun own => absurd own Bool.false_ne_true, rfl,
      selected, rfl⟩
  | _ => cases selects

/-- Whether a call that selects also asks for the total of its rows. -/
def TerminalCall.asksTotal (clauses : Clauses) : TerminalCall → Bool
  | .paginate _ _ => true
  | _ => clauses.totalRequested

theorem TerminalCall.opened_requested (setting : Setting τ) (call : TerminalCall)
    (columns : List Value) (selects : call.selected? = some columns) (desk entry : Desk τ)
    (rendering : Rendering) (asks : call.asksTotal desk.builder.clauses = true)
    (opens : call.opened setting desk = .ok (rendering, entry)) :
    entry.builder.clauses.totalRequested = true := by
  cases call with
  | get | getOne | getValue | getValues =>
    cases opens
    exact asks
  | paginate page columns =>
    obtain ⟨window, -, same⟩ := map_success opens
    cases same
    rfl
  | _ => cases selects

theorem TerminalCall.performAs_course (itself : Bool) {setting : Setting τ}
    {executor : Executor τ} (present : setting.executor = some executor) (call : TerminalCall)
    (columns : List Value) (selects : call.selected? = some columns) (desk after : Desk τ)
    (asks : call.asksTotal desk.builder.clauses = true)
    (spares : itself = true → setting.Answers (Report.Spares Builder.clauseNames))
    (result : Option Value) (ran : (call.performAs itself setting).run desk = (.ok result, after)) :
    ∃ own entry left, ∃ course : TotalCourse τ, (own = true → itself = true) ∧
      call.opened setting desk = .ok (.select columns, entry) ∧
      course.Leads own setting executor columns entry left ∧ after = left.closed := by
  obtain ⟨own, entry, left, bound, opens, selected, rfl⟩ :=
    call.performAs_selected itself setting columns selects desk after result ran
  have requested := call.opened_requested setting columns selects desk entry _ asks opens
  obtain ⟨course, leads⟩ := selectBound_course present own columns (fun same => spares (bound same))
    entry left requested selected
  exact ⟨own, entry, left, course, bound, opens, leads, rfl⟩

end Querywright
