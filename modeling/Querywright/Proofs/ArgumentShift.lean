import Querywright.Proofs.PieceOwnership
import Querywright.Proofs.StatementAssembly
import Querywright.Proofs.TerminalCourse
import Mathlib

/-! When values stand at placeholders of other pieces. The check of a statement compares totals only,
so pieces that lack placeholders and pieces that lack values may make up for each other. -/
namespace Querywright
open Fragment

variable {τ : Type}

def TerminalCall.pieces? (setting : Setting τ) (call : TerminalCall) (desk : Desk τ) :
    Option (List Fragment) :=
  match call.opened setting desk with
  | .error _ => none
  | .ok (rendering, entry) =>
    match rendering.render entry.builder.clauses with
    | .error _ => none
    | .ok _ => some (rendering.pieces entry.builder.clauses)

/-- Each piece has, where it stands, as many placeholders as values. -/
def EachBalanced (pieces : List Fragment) : Prop :=
  countsFrom .outside pieces = pieces.map (·.arguments.length)

instance (pieces : List Fragment) : Decidable (EachBalanced pieces) :=
  inferInstanceAs (Decidable (_ = _))

/-- All pieces together have as many placeholders as values. -/
def TotalBalanced (pieces : List Fragment) : Prop :=
  (countsFrom .outside pieces).sum = (pieces.map (·.arguments.length)).sum

/-- The call fails for its number of placeholders; nothing is sent and no statement kept. -/
def IsRefused (before : Desk τ) (outcome : Except Error (Option Value) × Desk τ) : Prop :=
  (∃ text expected given, outcome.1 = .error (.placeholderCount text expected given)) ∧
    outcome.2.outside = before.outside ∧ outcome.2.builder.results = {}

/-- The statement kept is that of the pieces, and each of its values stands at a placeholder of the
piece that it was supplied with. -/
def KeepsStatement (pieces : List Fragment) (after : Desk τ) : Prop :=
  after.builder.results.query = .text (ofPieces pieces).text ∧
    after.builder.results.arguments = (ofPieces pieces).arguments ∧ KeepsValues pieces

theorem totalBalanced_iff (pieces : List Fragment) :
    TotalBalanced pieces ↔ (ofPieces pieces).isBalanced := by
  unfold TotalBalanced isBalanced
  rw [countsFrom_sum, beq_iff_eq, ofPieces_arguments, List.length_flatMap]
  rfl

/-- Without any value, totals that agree leave no piece a placeholder. -/
theorem eachBalanced_of_none (pieces : List Fragment) (total : TotalBalanced pieces)
    (none : (ofPieces pieces).arguments = []) : EachBalanced pieces := by
  have sizes : ∀ size ∈ pieces.map (·.arguments.length), size = 0 := by
    intro size member
    obtain ⟨piece, present, rfl⟩ := List.mem_map.mp member
    rw [ofPieces_arguments, List.flatMap_eq_nil_iff] at none
    simp [none piece present]
  have zero : (countsFrom .outside pieces).sum = 0 := 
    total.trans (List.sum_eq_zero_iff_forall_eq_nat.mpr sizes)
  have counts : ∀ count ∈ countsFrom .outside pieces, count = 0 :=
    List.sum_eq_zero_iff_forall_eq_nat.mp zero
  have length : (pieces.map (·.arguments.length)).length = (countsFrom .outside pieces).length := by
    rw [countsFrom_length, List.length_map]
  exact (List.eq_replicate_of_mem counts).trans (length ▸ List.eq_replicate_of_mem sizes).symm

/-- What a call comes to is refused with nothing sent, or keeps every value at its own piece, exactly
when each piece is balanced by itself or the totals differ. A call that comes to no statement fails
and sends nothing. -/
theorem TerminalCall.arguments_owned_iff (setting : Setting τ) (call : TerminalCall)
    (textual : call.IsTextual) (desk : Desk (τ × List Sent)) :
    let outcome := (call.perform setting.watched).run desk
    (call.pieces? setting.watched desk = none →
      (∃ reason, outcome.1 = .error reason) ∧ outcome.2.outside = desk.outside) ∧
    ∀ pieces, call.pieces? setting.watched desk = some pieces →
      (IsRefused desk outcome ∨ KeepsStatement pieces outcome.2 ↔
        EachBalanced pieces ∨ ¬TotalBalanced pieces) := by
  intro outcome
  unfold TerminalCall.pieces?
  cases opens : call.opened setting.watched desk with
  | error reason =>
    obtain ⟨after, ran, outside, -⟩ :=
      call.perform_refused setting.watched textual desk reason opens
    refine ⟨fun _ => ?_, by simp⟩
    simp only [outcome, ran]
    exact ⟨⟨reason, rfl⟩, outside⟩
  | ok opened =>
    obtain ⟨rendering, entry⟩ := opened
    dsimp only
    cases rendered : rendering.render entry.builder.clauses with
    | error reason =>
      obtain ⟨after, ran, outside, -⟩ :=
        call.perform_unrendered setting.watched textual desk rendering entry opens reason rendered
      refine ⟨fun _ => ?_, by simp⟩
      simp only [outcome, ran]
      exact ⟨⟨reason, rfl⟩, outside⟩
    | ok statement =>
      refine ⟨by simp, ?_⟩
      rintro pieces ⟨⟩
      have assembled := rendering.assembled entry.builder.clauses statement rendered
      by_cases total : TotalBalanced (rendering.pieces entry.builder.clauses)
      · have balanced : statement.isBalanced := by
          rw [assembled]
          exact (totalBalanced_iff _).mp total
        obtain ⟨query, arguments, -⟩ := call.perform_balanced setting.watched textual desk
          rendering entry opens statement rendered balanced
        constructor
        · rintro (⟨-, -, cleared⟩ | ⟨-, -, kept⟩)
          -- A balanced statement is kept, so one that looks refused had no values at all.
          · refine .inl (eachBalanced_of_none _ total ?_)
            rw [← assembled, ← arguments]
            exact congrArg Results.arguments cleared
          · exact .inl ((keepsValues_iff _).mp kept)
        · rintro (each | differ)
          · refine .inr ⟨?_, ?_, (keepsValues_iff _).mpr each⟩
            · rw [← assembled]
              exact query
            · rw [← assembled]
              exact arguments
          · exact absurd total differ
      · have unbalanced : statement.isBalanced = false := by
          rw [Bool.eq_false_iff, assembled]
          exact fun balanced => total ((totalBalanced_iff _).mpr balanced)
        obtain ⟨after, ran, outside, cleared⟩ := call.perform_unbalanced setting.watched textual
          desk rendering entry opens statement rendered unbalanced
        refine iff_of_true (.inl ?_) (.inr total)
        simp only [outcome, ran]
        exact ⟨⟨_, _, _, rfl⟩, outside, cleared⟩

theorem rawQuery_owned :
    let call := TerminalCall.rawQuery (.text "SELECT ?") [.integer 1]
    let desk : Desk (Unit × List Sent) := { builder := {}, outside := ((), []) }
    let outcome := (call.perform fruitless.watched).run desk
    call.IsTextual ∧
      (IsRefused desk outcome ∨ KeepsStatement [⟨"SELECT ?", [.integer 1]⟩] outcome.2) := by
  intro call desk outcome
  have textual : call.IsTextual := ⟨"SELECT ?", rfl⟩
  have each : EachBalanced [⟨"SELECT ?", [.integer 1]⟩] := by decide +kernel
  exact ⟨textual, ((call.arguments_owned_iff fruitless textual desk).2 _ rfl).mpr (.inl each)⟩

/-- A builder on which a raw condition lacks the value for its placeholder, and a function call the
placeholder for its value. -/
def shiftedDesk : Desk (Unit × List Sent) :=
  { builder :=
      { clauses :=
          { tables := [.text "T"]
            conditions :=
              [⟨.both, .raw "a = ?" []⟩,
                ⟨.both, .comparison "c" "=" (.function "NOW()" [.integer 5])⟩] } }
    outside := ((), []) }

theorem shifted_argument :
    let call := TerminalCall.get []
    let outcome := (call.perform fruitless.watched).run shiftedDesk
    outcome.1 = .ok none ∧
      outcome.2.outside.2 =
        [⟨.text "SELECT * FROM T WHERE a = ? AND c = NOW()", [.integer 5]⟩] ∧
      outcome.2.builder.results.query = .text "SELECT * FROM T WHERE a = ? AND c = NOW()" ∧
      outcome.2.builder.results.arguments = [.integer 5] ∧
      ∃ pieces, call.pieces? fruitless.watched shiftedDesk = some pieces ∧
        (pieces.map (·.text))[8]? = some "a = ?" ∧ placeholderOwners pieces = [8] ∧
        (pieces.map (·.text))[12]? = some "NOW()" ∧ valueOwners pieces = [12] ∧
        ¬KeepsValues pieces := by
  dsimp only
  refine ⟨by cbv, by cbv, by cbv, by cbv, ?_⟩
  have owners : ((TerminalCall.get []).pieces? fruitless.watched shiftedDesk).map (fun pieces =>
      ((pieces.map (·.text))[8]?, placeholderOwners pieces,
        (pieces.map (·.text))[12]?, valueOwners pieces)) =
      some (some "a = ?", [8], some "NOW()", [12]) := by decide +kernel
  obtain ⟨pieces, found, shown⟩ := Option.map_eq_some_iff.mp owners
  simp only [Prod.mk.injEq] at shown
  obtain ⟨raw, placeholders, called, values⟩ := shown
  refine ⟨pieces, found, raw, placeholders, called, values, ?_⟩
  intro kept
  rw [KeepsValues, placeholders, values] at kept
  exact absurd kept (by decide)

end Querywright
