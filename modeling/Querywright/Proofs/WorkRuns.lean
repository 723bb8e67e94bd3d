import Querywright.Builder.Terminal
import Mathlib.Order.Defs.Unbundled

/-! What an operation does to the desk, step by step. A relation between the desk before and the
desk after holds of an operation as soon as it holds of its steps, failures included. -/
namespace Querywright

section Runs

variable {state α β : Type} {first : ExceptT Error (StateM state) α} {before after : state}

theorem run_bind_ok {value : α} (ok : first.run before = (.ok value, after))
    (next : α → ExceptT Error (StateM state) β) :
    (first >>= next).run before = (next value).run after := by
  change (ExceptT.bind first next).run before = _
  unfold ExceptT.bind ExceptT.run ExceptT.mk
  change StateT.bind first _ before = _
  unfold StateT.bind
  rw [show first before = _ from ok]
  rfl

theorem run_bind_error {reason : Error} (failed : first.run before = (.error reason, after))
    (next : α → ExceptT Error (StateM state) β) :
    (first >>= next).run before = (.error reason, after) := by
  change (ExceptT.bind first next).run before = _
  unfold ExceptT.bind ExceptT.run ExceptT.mk
  change StateT.bind first _ before = _
  unfold StateT.bind
  rw [show first before = _ from failed]
  rfl

end Runs

namespace Work

variable {τ α β : Type}

theorem run_bind (first : Work τ α) (next : α → Work τ β) (desk : Desk τ) :
    (first >>= next).run desk = match first.run desk with
      | (.ok value, after) => (next value).run after
      | (.error reason, after) => (.error reason, after) := by
  cases ran : first.run desk with
  | mk result after =>
    cases result with
    | error reason => exact run_bind_error ran next
    | ok value => exact run_bind_ok ran next

theorem run_bind_success {first : Work τ α} {next : α → Work τ β} {desk after : Desk τ}
    {result : β} (ran : (first >>= next).run desk = (.ok result, after)) :
    ∃ value between, first.run desk = (.ok value, between) ∧
      (next value).run between = (.ok result, after) := by
  rw [run_bind] at ran
  split at ran
  · rename_i value between opened
    exact ⟨value, between, opened, ran⟩
  · cases ran

/-- What only reads may follow without a trace on the desk. -/
theorem run_bind_reading {first : Work τ α} {next : α → Work τ β}
    (reads : ∀ value desk, ((next value).run desk).2 = desk) (desk : Desk τ) :
    ((first >>= next).run desk).2 = (first.run desk).2 := by
  rw [run_bind]
  cases first.run desk with
  | mk result after =>
    cases result with
    | error reason => rfl
    | ok value => exact reads value after

@[simp] theorem run_pure (value : α) (desk : Desk τ) :
    (pure value : Work τ α).run desk = (.ok value, desk) :=
  rfl

@[simp] theorem run_ofResult (result : Except Error α) (desk : Desk τ) :
    (ofResult result : Work τ α).run desk = (result, desk) := by
  cases result <;> rfl

@[simp] theorem run_throw (reason : Error) (desk : Desk τ) :
    (throw reason : Work τ α).run desk = (.error reason, desk) :=
  rfl

@[simp] theorem run_builder (desk : Desk τ) :
    (builder : Work τ Builder).run desk = (.ok desk.builder, desk) :=
  rfl

@[simp] theorem run_pending (desk : Desk τ) :
    (pending : Work τ Clauses).run desk = (.ok desk.builder.clauses, desk) :=
  rfl

/-- An operation, finished or failed, takes any desk to a related one. -/
def Moves (relation : Desk τ → Desk τ → Prop) (work : Work τ α) : Prop :=
  ∀ desk, relation desk (work.run desk).2

variable {relation : Desk τ → Desk τ → Prop}

/-- What comes out of an operation, when anything does. -/
def Gives (result : α → Prop) (work : Work τ α) : Prop :=
  ∀ desk value after, work.run desk = (.ok value, after) → result value

theorem Gives.bind {first : Work τ α} {next : α → Work τ β} {result : β → Prop}
    (others : ∀ value, Gives result (next value)) : Gives result (first >>= next) := by
  intro desk value after ran
  rw [run_bind] at ran
  split at ran
  · rename_i inner between opened
    exact others inner between value after ran
  · cases ran

theorem Moves.bind_given [IsTrans (Desk τ) relation] {first : Work τ α} {next : α → Work τ β}
    {result : α → Prop} (gives : Gives result first) (moved : Moves relation first)
    (others : ∀ value, result value → Moves relation (next value)) :
    Moves relation (first >>= next) := by
  intro desk
  have step := moved desk
  rw [run_bind]
  cases ran : first.run desk with
  | mk outcome after =>
    rw [ran] at step
    cases outcome with
    | error reason => exact step
    | ok value => exact Trans.trans step (others value (gives desk value after ran) after)

theorem Moves.bind [IsTrans (Desk τ) relation] {first : Work τ α} {next : α → Work τ β}
    (moved : Moves relation first) (others : ∀ value, Moves relation (next value)) :
    Moves relation (first >>= next) :=
  .bind_given (fun _ _ _ _ => trivial) moved fun value _ => others value

theorem Moves.of_same [Std.Refl relation] {work : Work τ α}
    (same : ∀ desk, (work.run desk).2 = desk) : Moves relation work := by
  intro desk
  rw [same]
  exact Std.Refl.refl desk

theorem Moves.pure [Std.Refl relation] (value : α) :
    Moves relation (Pure.pure value : Work τ α) :=
  .of_same fun _ => rfl

theorem Moves.ofResult [Std.Refl relation] (result : Except Error α) :
    Moves relation (ofResult result) :=
  .of_same fun desk => by rw [run_ofResult]

/-- What goes on with a result may rely on where it comes from. -/
theorem Moves.ofResult_bind [Std.Refl relation] {result : Except Error α} {next : α → Work τ β}
    (others : ∀ value, result = .ok value → Moves relation (next value)) :
    Moves relation (Work.ofResult result >>= next) := by
  intro desk
  rw [run_bind, run_ofResult]
  cases result with
  | error reason => exact Std.Refl.refl desk
  | ok value => exact others value rfl desk

end Work
end Querywright
