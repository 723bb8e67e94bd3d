import Querywright.Call.Itself
import Querywright.Proofs.TerminalCourse

/-! What an operation does with no regard to the destination that is bound. Such work comes to the
same when nothing is bound, and leaves every destination as it is. -/
namespace Querywright
open Work

variable {τ α β : Type}

def Desk.unbound (desk : Desk τ) : Desk τ :=
  { desk with builder := { desk.builder with binding := none } }

/-- Takes no notice of what is bound, and leaves it and the shelf alone. -/
structure IsBlind (work : Work τ α) : Prop where
  unbound : ∀ desk, work.run desk.unbound = ((work.run desk).1, (work.run desk).2.unbound)
  binding : ∀ desk, (work.run desk).2.builder.binding = desk.builder.binding
  shelf : ∀ desk, (work.run desk).2.shelf = desk.shelf

namespace IsBlind

theorem pure (value : α) : IsBlind (Pure.pure value : Work τ α) :=
  ⟨fun _ => rfl, fun _ => rfl, fun _ => rfl⟩

theorem ofResult (result : Except Error α) : IsBlind (ofResult result : Work τ α) := by
  refine ⟨fun desk => ?_, fun desk => ?_, fun desk => ?_⟩ <;> simp only [run_ofResult]

theorem pending : IsBlind (pending : Work τ Clauses) :=
  ⟨fun _ => rfl, fun _ => rfl, fun _ => rfl⟩

theorem changeClauses (change : Clauses → Clauses) :
    IsBlind (changeClauses change : Work τ Unit) :=
  ⟨fun _ => rfl, fun _ => rfl, fun _ => rfl⟩

theorem changeResults (change : Results → Results) :
    IsBlind (changeResults change : Work τ Unit) :=
  ⟨fun _ => rfl, fun _ => rfl, fun _ => rfl⟩

theorem bind {work : Work τ α} {next : α → Work τ β} (blind : IsBlind work)
    (others : ∀ value, IsBlind (next value)) : IsBlind (work >>= next) := by
  refine ⟨fun desk => ?_, fun desk => ?_, fun desk => ?_⟩
  · rw [run_bind, run_bind, blind.unbound]
    cases work.run desk with
    | mk result after =>
      cases result with
      | error reason => rfl
      | ok value => exact (others value).unbound after
  · rw [run_bind, ← blind.binding desk]
    cases work.run desk with
    | mk result after =>
      cases result with
      | error reason => rfl
      | ok value => exact (others value).binding after
  · rw [run_bind, ← blind.shelf desk]
    cases work.run desk with
    | mk result after =>
      cases result with
      | error reason => rfl
      | ok value => exact (others value).shelf after

/-- A builder may be looked at, if not for what is bound. -/
theorem reading {next : Builder → Work τ β}
    (same : ∀ builder, next { builder with binding := none } = next builder)
    (others : ∀ builder, IsBlind (next builder)) : IsBlind (builder >>= next) := by
  refine ⟨fun desk => ?_, fun desk => ?_, fun desk => ?_⟩
  · rw [run_bind_ok (run_builder _), run_bind_ok (run_builder _), ← (others _).unbound]
    exact congrArg (fun work : Work τ β => work.run desk.unbound) (same desk.builder)
  · rw [run_bind_ok (run_builder _)]
    exact (others _).binding desk
  · rw [run_bind_ok (run_builder _)]
    exact (others _).shelf desk

theorem send (executor : Executor τ) (statement : Value) (arguments : List Value) :
    IsBlind (send executor statement arguments) := by
  refine ⟨fun desk => ?_, fun desk => ?_, fun desk => ?_⟩
  all_goals
    unfold Work.send ExceptT.mk
    dsimp only [ExceptT.run, Desk.unbound]
    split
    · split <;> rfl
    · rfl

theorem dispatch (setting : Setting τ) (statement : Value) (arguments : List Value) :
    IsBlind (dispatch setting statement arguments) := by
  unfold Work.dispatch
  split
  · exact .pure none
  · exact .bind (.send _ _ _) fun _ => .pure _

theorem execute (setting : Setting τ) (statement : Fragment) :
    IsBlind (execute setting statement) :=
  .bind (.ofResult _) fun _ => .bind (.changeResults _) fun _ => .dispatch setting _ _

theorem executeLoose (setting : Setting τ) (statement : Value) (arguments : List Value) :
    IsBlind (executeLoose setting statement arguments) :=
  .bind (.ofResult _) fun _ => .bind (.changeResults _) fun _ => .dispatch setting _ _

theorem executeAside (setting : Setting τ) (statement : Fragment) :
    IsBlind (executeAside setting statement) :=
  .bind (.ofResult _) fun _ => .dispatch setting _ _

theorem takeRows (schema : Schema) (report : Option Report) :
    IsBlind (takeRows schema none report : Work τ Unit) := by
  cases report with
  | none => exact .pure ()
  | some report =>
    by_cases empty : report.columns.isEmpty
    · simp only [Work.takeRows, if_pos empty]
      exact .changeResults _
    · simp only [Work.takeRows, if_neg empty]
      exact .changeResults _

theorem takeWrite (inserted : Bool) (report : Option Report) :
    IsBlind (takeWrite inserted report : Work τ Unit) := by
  cases report with
  | none => exact .pure ()
  | some report =>
    refine .bind (.changeResults _) fun _ => ?_
    split
    · exact .changeResults _
    · exact .pure ()

theorem fetchTotal (setting : Setting τ) (columns : List Value) :
    IsBlind (fetchTotal setting columns) := by
  refine .bind .pending fun clauses => .bind (.ofResult _) fun statement => ?_
  refine .bind (.executeAside setting statement) fun report => ?_
  split
  · exact .pure ()
  · refine .bind (.ofResult _) fun total => .bind (.changeResults _) fun _ => ?_
    refine .reading (fun _ => rfl) fun builder => ?_
    exact .bind (.ofResult _) fun pages => .changeResults _

/-- At the end of a scope nothing is bound in any case. -/
theorem run_statement {body : Work τ α} (blind : IsBlind body) (next : α → Work τ β)
    (desk : Desk τ) :
    (statement body >>= next).run desk.unbound = (statement body >>= next).run desk := by
  have same : (statement body).run desk.unbound = (statement body).run desk := by
    rw [Work.run_statement, Work.run_statement]
    change ((body.run desk.begun.unbound).1, (body.run desk.begun.unbound).2.closed) = _
    rw [blind.unbound]
    rfl
  rw [run_bind, run_bind, same]

end IsBlind
end Querywright
