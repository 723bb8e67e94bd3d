import Querywright.Proofs.TerminalCourse

/-! Runs of a builder: calls of any kind, copies, new destinations, a page limit assigned, each with
whatever schema and executor there is at that moment. A move that fails leaves what it has changed,
and the run goes on from there. -/
namespace Querywright
open Work

variable {τ : Type}

inductive Move where
  | invoke (call : BuilderCall)
  | clone
  | place (destination : Destination)
  | setPageLimit (pageLimit : Value)

namespace Move

def IsTextual : Move → Prop
  | .invoke (.terminal call) => call.IsTextual
  | _ => True

/-- Behind a copy the run goes on with the copy. -/
def perform (setting : Setting τ) : Move → Work τ (Option Value)
  | .invoke call => call.perform setting
  | .clone => do
    BuilderCall.replaceBuilder fun desk => desk.builder.clone
    return none
  | .place destination => do
    modify fun desk => { desk with shelf := desk.shelf ++ [destination] }
    return none
  | .setPageLimit pageLimit => do
    changeBuilder (Builder.setPageLimit pageLimit)
    return none

end Move

def runMoves : List (Setting τ × Move) → Desk τ → Desk τ
  | [], desk => desk
  | (setting, move) :: rest, desk => runMoves rest ((move.perform setting).run desk).2

theorem runMoves_invariant (invariant : Desk τ → Prop) (allowed : Setting τ × Move → Prop)
    (preserves : ∀ setting move desk, allowed (setting, move) → invariant desk →
      invariant ((move.perform setting).run desk).2)
    (moves : List (Setting τ × Move)) (each : ∀ move ∈ moves, allowed move) (desk : Desk τ)
    (start : invariant desk) : invariant (runMoves moves desk) := by
  induction moves generalizing desk with
  | nil => exact start
  | cons move rest ih =>
    obtain ⟨setting, move⟩ := move
    have step := preserves setting move desk (each _ (by simp)) start
    exact ih (fun other member => each other (by simp [member])) _ step

/-- The statement kept is a text with as many placeholders as values. -/
def Results.IsBalanced (results : Results) : Prop :=
  ∃ text, results.query = .text text ∧ Placeholder.count text = results.arguments.length

theorem Results.balanced_empty : Results.IsBalanced {} :=
  ⟨"", rfl, by decide⟩

/-- The results are as they were or hold a balanced statement, and only balanced statements were
sent. -/
structure Settles (setting : Setting τ) (before after : Desk τ) : Prop where
  served : Served setting before.outside after.outside
  results : after.builder.results = before.builder.results ∨ after.builder.results.IsBalanced

instance (setting : Setting τ) : Std.Refl (Settles setting) where
  refl _ := ⟨.nothing _, .inl rfl⟩

instance (setting : Setting τ) : IsTrans (Desk τ) (Settles setting) where
  trans _ _ _ first second := by
    refine ⟨first.served.trans second.served, ?_⟩
    rcases second.results with same | balanced
    · rcases first.results with still | before
      · exact .inl (same.trans still)
      · exact .inr (same ▸ before)
    · exact .inr balanced

theorem TerminalCall.perform_settles (setting : Setting τ) (call : TerminalCall)
    (textual : call.IsTextual) : Moves (Settles setting) (call.perform setting) := by
  intro desk
  cases opens : call.opened setting desk with
  | error reason =>
    obtain ⟨left, ran, outside, settled⟩ := call.perform_refused setting textual desk reason opens
    rw [ran]
    refine ⟨outside ▸ .nothing _, ?_⟩
    rcases settled with rfl | cleared
    · exact .inl rfl
    · exact .inr (cleared ▸ Results.balanced_empty)
  | ok opened =>
    obtain ⟨rendering, entry⟩ := opened
    cases rendered : rendering.render entry.builder.clauses with
    | error reason =>
      obtain ⟨left, ran, outside, cleared⟩ :=
        call.perform_unrendered setting textual desk rendering entry opens reason rendered
      rw [ran]
      exact ⟨outside ▸ .nothing _, .inr (cleared ▸ Results.balanced_empty)⟩
    | ok statement =>
      cases balanced : statement.isBalanced with
      | false =>
        obtain ⟨left, ran, outside, cleared⟩ := call.perform_unbalanced setting textual desk
          rendering entry opens statement rendered balanced
        rw [ran]
        exact ⟨outside ▸ .nothing _, .inr (cleared ▸ Results.balanced_empty)⟩
      | true =>
        obtain ⟨query, arguments, served⟩ := call.perform_balanced setting textual desk rendering
          entry opens statement rendered balanced
        refine ⟨served, .inr ⟨statement.text, query, ?_⟩⟩
        rw [arguments]
        exact beq_iff_eq.mp balanced

theorem BuilderCall.run_replaceBuilder (change : Desk τ → Except Error Builder) (desk : Desk τ) :
    (BuilderCall.replaceBuilder change).run desk = match change desk with
      | .ok builder => (.ok (), { desk with builder := builder })
      | .error reason => (.error reason, desk) :=
  rfl

theorem BuilderCall.replaceBuilder_settles (setting : Setting τ)
    (change : Desk τ → Except Error Builder)
    (settled : ∀ desk builder, change desk = .ok builder →
      builder.results = desk.builder.results ∨ builder.results.IsBalanced) :
    Moves (Settles setting) (BuilderCall.replaceBuilder change) := by
  intro desk
  rw [BuilderCall.run_replaceBuilder]
  cases changed : change desk with
  | error reason => exact Std.Refl.refl desk
  | ok builder => exact ⟨.nothing _, settled desk builder changed⟩

theorem Builder.setLockMethod_results (method : Value) (builder changed : Builder)
    (ok : builder.setLockMethod method = .ok changed) : changed.results = builder.results := by
  unfold Builder.setLockMethod at ok
  split at ok
  · cases ok
    rfl
  · cases ok

theorem BuilderCall.boundBuilder_results (schema : Schema) (slot : Nat) (rule : ElementRule)
    (desk : Desk τ) (builder : Builder)
    (ok : BuilderCall.boundBuilder schema slot rule desk = .ok builder) :
    builder.results = desk.builder.results := by
  unfold BuilderCall.boundBuilder at ok
  split at ok
  · obtain ⟨sink, -, rfl⟩ := map_success ok
    rfl
  · cases ok

theorem Move.perform_settles (setting : Setting τ) (move : Move) (textual : move.IsTextual) :
    Moves (Settles setting) (move.perform setting) := by
  cases move with
  | invoke call =>
    cases call with
    | clause call =>
      refine .bind ?_ fun _ => .pure none
      intro desk
      exact ⟨.nothing _, .inl rfl⟩
    | terminal call => exact call.perform_settles setting textual
    | bind slot rule =>
      refine .bind (BuilderCall.replaceBuilder_settles setting _ ?_) fun _ => .pure none
      intro desk builder ok
      exact .inl (BuilderCall.boundBuilder_results _ slot rule desk builder ok)
    | setLockMethod method =>
      refine .bind (BuilderCall.replaceBuilder_settles setting _ ?_) fun _ => .pure none
      intro desk builder ok
      exact .inl (Builder.setLockMethod_results method desk.builder builder ok)
    | setTrace enabled =>
      refine .bind (BuilderCall.replaceBuilder_settles setting _ ?_) fun _ => .pure none
      rintro desk builder ⟨⟩
      exact .inl rfl
  | clone =>
    refine .bind (BuilderCall.replaceBuilder_settles setting _ ?_) fun _ => .pure none
    intro desk builder ok
    obtain ⟨settings, -, rfl⟩ := map_success ok
    exact .inr Results.balanced_empty
  | place destination =>
    refine .bind ?_ fun _ => .pure none
    intro desk
    exact ⟨.nothing _, .inl rfl⟩
  | setPageLimit pageLimit =>
    refine .bind ?_ fun _ => .pure none
    intro desk
    exact ⟨.nothing _, .inl rfl⟩

end Querywright
