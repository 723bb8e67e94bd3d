import Querywright.Proofs.BuilderRuns

/-! Statements and their numbers of values over whole runs. Whatever a builder has gone through, the
statement that it keeps and all statements that it has sent have as many values as placeholders;
one that has not is refused before it is kept or sent, the count of a total included. -/
namespace Querywright
open Work

variable {τ : Type}

def Work.takeFetched (setting : Setting τ) (report : Option Report) : Work τ Unit := do
  takeRows setting.schema (← builder).binding report

theorem Work.takeFetched_continues (setting : Setting τ) (report : Option Report) :
    Moves (Continues setting) (takeFetched setting report) := by
  refine .bind (.of_same fun _ => rfl) fun builder => ?_
  exact takeRows_continues setting setting.schema builder.binding report

def Work.selectRows (setting : Setting τ) (columns : List Value) : Work τ Unit :=
  mainStatement setting (.select columns) (takeFetched setting)

def Work.requestedTotal (setting : Setting τ) (columns : List Value) : Work τ Unit := do
  if (← pending).totalRequested then fetchTotal setting columns

theorem Work.takeSelected_rows (setting : Setting τ) (columns : List Value) :
    mainStatement setting (.select columns) (takeSelected setting columns) =
      (selectRows setting columns >>= fun _ => requestedTotal setting columns) := by
  unfold selectRows mainStatement
  simp only [bind_assoc]
  rfl

theorem Work.fetchTotal_unbalanced (setting : Setting τ) (columns : List Value) (desk : Desk τ)
    (counting : Fragment) (rendered : desk.builder.clauses.countRows columns = .ok counting)
    (unbalanced : counting.isBalanced = false) :
    (fetchTotal setting columns).run desk =
      (.error (.placeholderCount counting.text (Placeholder.count counting.text)
        counting.arguments.length), desk) := by
  have aside : (executeAside setting counting).run desk = (.error (.placeholderCount counting.text
      (Placeholder.count counting.text) counting.arguments.length), desk) := by
    unfold executeAside
    rw [run_bind, run_ofResult, Fragment.checked, unbalanced]
    rfl
  unfold fetchTotal
  rw [run_bind_ok (run_pending desk), rendered, run_bind_ok (run_ofResult _ _),
    run_bind_error aside]

theorem Served.same_of_none {setting : Setting τ} (absent : setting.executor = none) {before after : τ}
    (served : Served setting before after) : after = before := by
  induction served with
  | nothing => rfl
  | sent _ executor present => simp [absent] at present

def Setting.receives (setting : Setting τ) (statement : Fragment) : List Sent :=
  match setting.executor with
  | none => []
  | some _ => [⟨.text statement.text, statement.arguments⟩]

theorem Work.dispatch_noted (setting : Setting τ) (statement : Fragment)
    (desk : Desk (τ × List Sent)) :
    ((dispatch setting.watched (.text statement.text) statement.arguments).run desk).2.outside.2 =
      desk.outside.2 ++ setting.receives statement := by
  unfold dispatch Setting.receives Setting.watched
  cases present : setting.executor with
  | none => simp
  | some executor =>
    dsimp only [Option.map_some]
    have sent : ((send executor.watched (.text statement.text) statement.arguments).run
        desk).2.outside.2 = desk.outside.2 ++ [⟨.text statement.text, statement.arguments⟩] := by
      change (send executor.watched _ _ desk).2.outside.2 = _
      unfold send ExceptT.mk
      dsimp only
      split
      · split <;> rfl
      · rfl
    rw [run_bind]
    cases ran : (send executor.watched (.text statement.text) statement.arguments).run desk with
    | mk result after =>
      rw [ran] at sent
      cases result <;> exact sent

theorem Work.takeFetched_outside (setting : Setting τ) (report : Option Report) (desk : Desk τ) :
    ((takeFetched setting report).run desk).2.outside = desk.outside :=
  (takeRows_continues {} setting.schema desk.builder.binding report desk).served.same_of_none rfl

theorem Work.selectRows_noted (setting : Setting τ) (columns : List Value)
    (entry : Desk (τ × List Sent)) (statement : Fragment)
    (rendered : entry.builder.clauses.select columns = .ok statement)
    (balanced : statement.isBalanced) :
    let after := ((selectRows setting.watched columns).run entry).2
    after.outside.2 = entry.outside.2 ++ setting.receives statement ∧
      after.builder.clauses = entry.builder.clauses := by
  intro after
  have continued := mainStatement_balanced setting.watched (.select columns) _
    (takeFetched_continues setting.watched) entry statement rendered balanced
  have noted := dispatch_noted setting statement (entry.kept statement)
  refine ⟨?_, continued.clauses⟩
  have opened : (selectRows setting.watched columns).run entry =
      (dispatch setting.watched (.text statement.text) statement.arguments >>=
        takeFetched setting.watched).run (entry.kept statement) := by
    unfold selectRows mainStatement
    rw [run_bind_ok (run_pending entry)]
    change ((ofResult (entry.builder.clauses.select columns) >>= _).run entry) = _
    rw [rendered, run_bind_ok (run_ofResult _ _), run_bind, execute_balanced _ statement balanced,
      ← run_bind]
  simp only [after, opened]
  rw [run_bind]
  cases ran : (dispatch setting.watched (.text statement.text) statement.arguments).run
      (entry.kept statement) with
  | mk result left =>
    rw [ran] at noted
    cases result with
    | error reason => exact noted
    | ok report =>
      dsimp only
      rw [takeFetched_outside]
      exact noted

/-- Where the total is asked for and its count is unbalanced, the call fails behind its rows and
sends no more than the statement for them. -/
theorem TerminalCall.perform_uncounted (setting : Setting τ) (call : TerminalCall)
    (columns : List Value) (selects : call.selected? = some columns)
    (desk : Desk (τ × List Sent)) (rendering : Rendering) (entry : Desk (τ × List Sent))
    (opens : call.opened setting.watched desk = .ok (rendering, entry)) (statement : Fragment)
    (rendered : rendering.render entry.builder.clauses = .ok statement)
    (balanced : statement.isBalanced) (requested : entry.builder.clauses.totalRequested)
    (counting : Fragment) (counts : entry.builder.clauses.countRows columns = .ok counting)
    (unbalanced : counting.isBalanced = false) :
    let outcome := (call.perform setting.watched).run desk
    outcome.2.outside.2 = desk.outside.2 ++ setting.receives statement ∧
      outcome.1 = match ((selectRows setting.watched columns).run entry).1 with
        | .error reason => .error reason
        | .ok () => .error (.placeholderCount counting.text (Placeholder.count counting.text)
          counting.arguments.length) := by
  obtain ⟨rfl, outside, -, answer, ran⟩ :=
    call.perform_selected setting.watched columns selects desk rendering entry opens
  obtain ⟨noted, clauses⟩ := selectRows_noted setting columns entry statement rendered balanced
  rw [ran, takeSelected_rows, run_bind, ← outside]
  cases rows : (selectRows setting.watched columns).run entry with
  | mk result after =>
    rw [rows] at noted clauses
    cases result with
    | error reason => exact ⟨noted, rfl⟩
    | ok value =>
      have total : (requestedTotal setting.watched columns).run after =
          (fetchTotal setting.watched columns).run after := by
        unfold requestedTotal
        rw [run_bind_ok (run_pending after), clauses, if_pos requested]
      dsimp only
      rw [total, fetchTotal_unbalanced _ columns after counting (clauses ▸ counts) unbalanced]
      exact ⟨noted, rfl⟩

/-- A main statement with more or fewer values than placeholders makes the call fail, is not sent and
leaves no statement. -/
def TerminalCall.RefusesUnbalanced (setting : Setting τ) (call : TerminalCall)
    (desk : Desk (τ × List Sent)) : Prop :=
  ∀ rendering entry statement, call.opened setting.watched desk = .ok (rendering, entry) →
    rendering.render entry.builder.clauses = .ok statement → statement.isBalanced = false →
    let outcome := (call.perform setting.watched).run desk
    outcome.1 = .error (.placeholderCount statement.text (Placeholder.count statement.text)
        statement.arguments.length) ∧
      outcome.2.outside = desk.outside ∧ outcome.2.builder.results.query = .text "" ∧
      outcome.2.builder.results.arguments = []

/-- A count with more or fewer values than placeholders is not sent behind the statement for the
rows; the call fails for it, unless it has already failed for the rows. -/
def TerminalCall.RefusesUncounted (setting : Setting τ) (call : TerminalCall)
    (desk : Desk (τ × List Sent)) : Prop :=
  ∀ columns rendering entry statement counting, call.selected? = some columns →
    call.opened setting.watched desk = .ok (rendering, entry) →
    rendering.render entry.builder.clauses = .ok statement → statement.isBalanced →
    entry.builder.clauses.totalRequested →
    entry.builder.clauses.countRows columns = .ok counting → counting.isBalanced = false →
    let outcome := (call.perform setting.watched).run desk
    outcome.2.outside.2 = desk.outside.2 ++ setting.receives statement ∧
      outcome.1 = match ((selectRows setting.watched columns).run entry).1 with
        | .error reason => .error reason
        | .ok () => .error (.placeholderCount counting.text (Placeholder.count counting.text)
          counting.arguments.length)

theorem TerminalCall.refuses_unbalanced (setting : Setting τ) (call : TerminalCall)
    (textual : call.IsTextual) (desk : Desk (τ × List Sent)) :
    call.RefusesUnbalanced setting desk := by
  intro rendering entry statement opens rendered unbalanced outcome
  obtain ⟨after, ran, outside, cleared⟩ := call.perform_unbalanced setting.watched textual desk
    rendering entry opens statement rendered unbalanced
  have failed : outcome = (.error (.placeholderCount statement.text
      (Placeholder.count statement.text) statement.arguments.length), after) := ran
  rw [failed]
  exact ⟨rfl, outside, congrArg Results.query cleared, congrArg Results.arguments cleared⟩

theorem TerminalCall.refuses_uncounted (setting : Setting τ) (call : TerminalCall)
    (desk : Desk (τ × List Sent)) : call.RefusesUncounted setting desk := by
  intro columns rendering entry statement counting selects opens rendered balanced requested counts
    unbalanced
  exact call.perform_uncounted setting columns selects desk rendering entry opens statement rendered
    balanced requested counting counts unbalanced

def watchedMoves (moves : List (Setting τ × Move)) : List (Setting (τ × List Sent) × Move) :=
  moves.map fun (setting, move) => (setting.watched, move)

theorem runMoves_settled (moves : List (Setting τ × Move))
    (textual : ∀ step ∈ moves, step.2.IsTextual) (desk : Desk (τ × List Sent))
    (start : desk.builder.results.IsBalanced) (noted : ∀ sent ∈ desk.outside.2, sent.IsBalanced) :
    let last := runMoves (watchedMoves moves) desk
    last.builder.results.IsBalanced ∧ ∀ sent ∈ last.outside.2, sent.IsBalanced := by
  refine runMoves_invariant
    (fun desk => desk.builder.results.IsBalanced ∧ ∀ sent ∈ desk.outside.2, sent.IsBalanced)
    (fun step => step.2.IsTextual ∧ ∃ setting : Setting τ, step.1 = setting.watched)
    ?_ (watchedMoves moves) ?_ desk ⟨start, noted⟩
  · rintro setting move desk ⟨textual, setting, rfl⟩ ⟨balanced, each⟩
    -- The log only grows, and what is new in it was checked before it was sent.
    have settled := move.perform_settles setting.watched textual desk
    obtain ⟨sent, log, fresh⟩ := settled.served.noted
    constructor
    · rcases settled.results with same | settled
      · rw [same]
        exact balanced
      · exact settled
    · intro one member
      rw [log] at member
      rcases List.mem_append.mp member with old | new
      · exact each one old
      · exact fresh one new
  · intro step member
    obtain ⟨⟨setting, move⟩, present, rfl⟩ := List.mem_map.mp member
    exact ⟨textual _ present, setting, rfl⟩

end Querywright
