import Querywright.Proofs.TerminalLifecycle

/-! Builders without an executor. Their operations render, check and keep, and touch nothing but the
clauses, the results and what is bound; a select comes to the statement that it renders or to the
reason why there is none. -/
namespace Querywright
open Work

variable {τ : Type}

/-- Nothing differs but clauses, results and the destination. -/
structure Idle (before after : Desk τ) : Prop where
  settings : after.builder.settings = before.builder.settings
  traces : after.builder.traces = before.builder.traces
  backing : after.builder.backing = before.builder.backing
  shelf : after.shelf = before.shelf
  outside : after.outside = before.outside

instance : Std.Refl (Idle : Desk τ → Desk τ → Prop) where
  refl _ := ⟨rfl, rfl, rfl, rfl, rfl⟩

instance : IsTrans (Desk τ) Idle where
  trans _ _ _ first second :=
    ⟨second.settings.trans first.settings, second.traces.trans first.traces,
      second.backing.trans first.backing, second.shelf.trans first.shelf,
      second.outside.trans first.outside⟩

/-- A select for a caller, or a statement of the caller's own. -/
def TerminalCall.selects : TerminalCall → Bool
  | .get _ | .getOne _ | .paginate _ _ | .rawQuery _ _ => true
  | _ => false

namespace Work

theorem changeClauses_idle (change : Clauses → Clauses) :
    Moves Idle (changeClauses change : Work τ Unit) :=
  fun _ => ⟨rfl, rfl, rfl, rfl, rfl⟩

theorem keep_idle (written : Value) (arguments : List Value) :
    Moves Idle (keep written arguments : Work τ Unit) :=
  fun _ => ⟨rfl, rfl, rfl, rfl, rfl⟩

theorem statement_idle {α : Type} {body : Work τ α} (idle : Moves Idle body) :
    Moves Idle (statement body) := by
  intro desk
  have inner := idle desk.begun
  exact ⟨inner.settings, inner.traces, inner.backing, inner.shelf, inner.outside⟩

theorem executeAside_idle (fragment : Fragment) :
    Moves Idle (executeAside ({} : Setting τ) fragment) :=
  .bind (.ofResult _) fun _ => .pure none

theorem execute_idle (fragment : Fragment) : Moves Idle (execute ({} : Setting τ) fragment) :=
  .bind (.ofResult _) fun _ => .bind (keep_idle _ _) fun _ => .pure none

theorem executeLoose_idle (written : Value) (values : List Value) :
    Moves Idle (executeLoose ({} : Setting τ) written values) :=
  .bind (.ofResult _) fun _ => .bind (keep_idle _ _) fun _ => .pure none

theorem pure_gives {α : Type} {result : α → Prop} {value : α} (fits : result value) :
    Gives result (pure value : Work τ α) := by
  rintro desk value after ⟨⟩
  exact fits

theorem unanswered (fragment : Fragment) :
    Gives (· = none) (execute ({} : Setting τ) fragment) :=
  .bind fun _ => .bind fun _ => pure_gives rfl

theorem fetchTotal_idle (columns : List Value) :
    Moves Idle (fetchTotal ({} : Setting τ) columns) := by
  refine .bind (.of_same fun _ => rfl) fun clauses => ?_
  refine .bind (.ofResult _) fun fragment => ?_
  have silent : Gives (· = none) (executeAside ({} : Setting τ) fragment) :=
    .bind fun _ => pure_gives rfl
  refine .bind_given silent (executeAside_idle fragment) ?_
  rintro _ rfl
  exact .pure ()

theorem select_idle (columns : List Value) : Moves Idle (select ({} : Setting τ) columns) := by
  refine .bind (.of_same fun _ => rfl) fun clauses => ?_
  refine .bind (.ofResult _) fun fragment => ?_
  refine .bind_given (unanswered fragment) (execute_idle fragment) ?_
  rintro _ rfl
  refine .bind (.of_same fun _ => rfl) fun builder => ?_
  refine .bind (.pure ()) fun _ => ?_
  refine .bind (.of_same fun _ => rfl) fun clauses => ?_
  split
  · exact fetchTotal_idle columns
  · exact .pure ()

end Work

theorem TerminalCall.selects_scope (call : TerminalCall) (selects : call.selects = true)
    (textual : call.IsTextual) : IsScope .all True (call.perform ({} : Setting τ)) := by
  refine call.perform_scope .all {} textual fun locks => ?_
  cases call with
  | lock | unlock => cases selects
  | _ => cases locks

theorem TerminalCall.selects_idle (call : TerminalCall) (selects : call.selects = true) :
    Moves Idle (call.perform ({} : Setting τ)) := by
  cases call with
  | get columns => exact .bind (statement_idle (select_idle columns)) fun _ => .pure none
  | getOne columns =>
    refine .bind (statement_idle ?_) fun _ => .pure none
    exact .bind (changeClauses_idle _) fun _ => select_idle columns
  | paginate page columns =>
    refine .bind (statement_idle ?_) fun _ => .pure none
    refine .bind (.of_same fun _ => rfl) fun builder => ?_
    refine .bind (.ofResult _) fun window => ?_
    exact .bind (changeClauses_idle _) fun _ => select_idle columns
  | rawQuery text values =>
    refine .bind (statement_idle ?_) fun _ => .pure none
    refine .bind (.of_same fun _ => rfl) fun builder => ?_
    have silent : Gives (· = none) (executeLoose ({} : Setting τ) text values) :=
      .bind fun _ => .bind fun _ => pure_gives rfl
    refine .bind_given silent (executeLoose_idle text values) ?_
    rintro _ rfl
    exact .pure ()
  | _ => cases selects

section Select

variable (desk : Desk τ)

/-- A select of everything keeps the statement that it renders. -/
theorem get_rendered (uncounted : desk.builder.clauses.totalRequested = false)
    (statement : Fragment)
    (rendered : desk.builder.clauses.select [] >>= Fragment.checked = .ok statement) :
    ((TerminalCall.get []).perform ({} : Setting τ)).run desk =
      (.ok none, (desk.begun.kept statement).closed) := by
  obtain ⟨fragment, written, checked⟩ := bind_success rendered
  have executed : (execute ({} : Setting τ) fragment).run desk.begun =
      (.ok none, desk.begun.kept statement) := by
    unfold execute
    rw [checked]
    rfl
  refine (run_given rfl written).trans ?_
  rw [run_bind_ok executed]
  change conclude _ ((if desk.builder.clauses.totalRequested = true
    then fetchTotal ({} : Setting τ) [] else pure ()).run (desk.begun.kept statement)) = _
  rw [uncounted]
  rfl

theorem get_unrendered (reason : Error)
    (failed : desk.builder.clauses.select [] >>= Fragment.checked = .error reason) :
    ((TerminalCall.get []).perform ({} : Setting τ)).run desk =
      (.error reason, desk.begun.closed) := by
  cases written : desk.builder.clauses.select [] with
  | error other =>
    rw [written] at failed
    cases failed
    exact run_missing rfl written
  | ok fragment =>
    have unchecked : fragment.checked = .error reason := by
      rwa [written] at failed
    have refused : (execute ({} : Setting τ) fragment).run desk.begun =
        (.error reason, desk.begun) := by
      unfold execute
      rw [unchecked]
      rfl
    refine (run_given rfl written).trans ?_
    rw [run_bind_error refused]
    rfl

end Select

/-- A statement of the caller's own is kept in the form that it has. -/
theorem rawQuery_kept (written : Value) (values : List Value)
    (balanced : Placeholder.checkBalance written values.length = .ok ()) (desk : Desk τ) :
    ((TerminalCall.rawQuery written values).perform {}).run desk =
      (.ok none, Desk.closed (desk.withResults { query := written, arguments := values })) := by
  have executed : (executeLoose ({} : Setting τ) written values).run desk.begun =
      (.ok none, desk.withResults { query := written, arguments := values }) := by
    unfold executeLoose
    rw [balanced]
    rfl
  have body : (do takeRows [] (← builder).binding (← executeLoose ({} : Setting τ) written values)
      : Work τ Unit).run desk.begun =
        (.ok (), desk.withResults { query := written, arguments := values }) := by
    refine (run_bind_ok (run_builder _) _).trans ?_
    rw [run_bind_ok executed]
    rfl
  have performed : (TerminalCall.rawQuery written values).perform ({} : Setting τ) =
      (do statement (do
            takeRows [] (← builder).binding (← executeLoose ({} : Setting τ) written values))
          return none) := rfl
  rw [performed, run_scope _ (fun _ => pure none) (fun _ _ => none) fun _ _ => rfl, body]
  rfl

end Querywright
