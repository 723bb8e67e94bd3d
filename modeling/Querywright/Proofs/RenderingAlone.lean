import Querywright.Proofs.StatementsInStep

/-! Rendering without an executor. Over whole runs a builder that sends nothing has the clauses and
keeps the statements of one that sends everything, whatever it is answered and whichever of its
calls fail for that. -/
namespace Querywright
open Work

variable {τ υ : Type}

/-- What a move meets with: where its statements go, and whether its rows go to the builder
itself. -/
structure Occasion (τ : Type) where
  setting : Setting τ := {}
  itself : Bool := false

namespace Occasion

/-- The same without an executor. -/
def silent (occasion : Occasion τ) : Occasion υ :=
  { setting := { schema := occasion.setting.schema, locksTables := occasion.setting.locksTables }
    itself := occasion.itself }

/-- Rows that go to the builder itself have no columns with the names of the page limit or of the
statement kept. -/
def Spares (occasion : Occasion τ) : Prop :=
  occasion.itself = true →
    occasion.setting.Answers (Report.Spares (Watch.pageLimit.names ++ Builder.statementNames))

theorem Spares.harmless {occasion : Occasion τ} (spares : occasion.Spares) :
    occasion.setting.Answers (IsHarmless .pageLimit occasion.itself True True) := by
  intro executor present written arguments before report after answered itself
  have spared := spares itself executor present written arguments before report after answered
  refine ⟨fun _ name member => spared name ?_, fun _ name member => spared name ?_⟩
  · exact List.mem_append_left _ member
  · exact List.mem_append_right _ member

theorem silent_harmless (occasion : Occasion τ) :
    (occasion.silent : Occasion υ).setting.Answers
      (IsHarmless .pageLimit occasion.itself True True) :=
  fun _ present => nomatch present

end Occasion

namespace Move

def performOn (occasion : Occasion τ) : Move → Work τ (Option Value)
  | .invoke call => call.performAs occasion.itself occasion.setting
  | move => move.perform occasion.setting

/-- Neither a copy nor a call for table locks. -/
def isPlain : Move → Bool
  | .clone => false
  | .invoke (.terminal call) => !call.locks
  | _ => true

end Move

def runOn : List (Occasion τ × Move) → Desk τ → Desk τ
  | [], desk => desk
  | (occasion, move) :: rest, desk => runOn rest ((move.performOn occasion).run desk).2

/-- A desk with the builder that a change has come to, if it has. -/
def Desk.renewed (desk : Desk τ) : Except Error Builder → Desk τ
  | .ok builder => { desk with builder := builder }
  | .error _ => desk

theorem Work.StayInStep.replaceBuilder {change : Desk τ → Except Error Builder}
    {change' : Desk υ → Except Error Builder}
    (stay : ∀ left right, InStep .pageLimit left right →
      InStep .pageLimit (left.renewed (change left)) (right.renewed (change' right))) :
    StayInStep .pageLimit (BuilderCall.replaceBuilder change)
      (BuilderCall.replaceBuilder change') := by
  intro left right same
  have inner := stay left right same
  rw [BuilderCall.run_replaceBuilder, BuilderCall.run_replaceBuilder]
  cases first : change left with
  | error reason =>
    cases second : change' right with
    | error other => exact same
    | ok builder => rwa [first, second] at inner
  | ok builder =>
    cases second : change' right with
    | error other => rwa [first, second] at inner
    | ok builder => rwa [first, second] at inner

theorem Desk.renewed_bound (schema : Schema) (slot : Nat) (rule : ElementRule) (desk : Desk τ) :
    ∃ binding, desk.renewed (BuilderCall.boundBuilder schema slot rule desk) =
      { desk with builder := { desk.builder with binding := binding } } := by
  cases changed : BuilderCall.boundBuilder schema slot rule desk with
  | error reason => exact ⟨desk.builder.binding, rfl⟩
  | ok builder =>
    unfold BuilderCall.boundBuilder at changed
    split at changed
    · obtain ⟨sink, -, rfl⟩ := map_success changed
      exact ⟨some ⟨slot, sink⟩, rfl⟩
    · cases changed

theorem BuilderCall.performAs_stay (itself elsewhere : Bool) (setting : Setting τ)
    (rival : Setting υ) (harmless : setting.Answers (IsHarmless .pageLimit itself True True))
    (answers : rival.Answers (IsHarmless .pageLimit elsewhere True True)) (call : BuilderCall)
    (unlocked : ∀ terminal, call = .terminal terminal → terminal.locks = false) :
    StayInStep .pageLimit (call.performAs itself setting) (call.performAs elsewhere rival) := by
  cases call with
  | terminal call =>
    refine call.performAs_stay itself elsewhere setting rival harmless answers
      (fun _ _ same => same) fun locked => ?_
    rw [unlocked call rfl] at locked
    cases locked
  | clause call =>
    refine .reading ?_ (fun _ _ => rfl) fun _ _ => rfl
    intro left right same
    have clauses : (call.apply left.builder.clauses).2 = (call.apply right.builder.clauses).2 := by
      rw [same.clauses]
    exact ⟨⟨same.settings, same.query, same.arguments⟩, clauses⟩
  | bind slot rule =>
    refine .reading (.replaceBuilder ?_) (fun _ _ => rfl) fun _ _ => rfl
    intro left right same
    obtain ⟨binding, one⟩ := left.renewed_bound setting.schema slot rule
    obtain ⟨other, two⟩ := right.renewed_bound rival.schema slot rule
    rw [one, two]
    exact ⟨⟨same.settings, same.query, same.arguments⟩, same.clauses⟩
  | setLockMethod method =>
    refine .reading (.replaceBuilder ?_) (fun _ _ => rfl) fun _ _ => rfl
    intro left right same
    unfold Builder.setLockMethod
    split
    · exact ⟨⟨same.settings, same.query, same.arguments⟩, same.clauses⟩
    · exact same
  | setTrace enabled =>
    refine .reading (.replaceBuilder ?_) (fun _ _ => rfl) fun _ _ => rfl
    exact fun left right same => ⟨⟨same.settings, same.query, same.arguments⟩, same.clauses⟩

theorem Move.performOn_stay (occasion : Occasion τ) (other : Occasion υ)
    (harmless : occasion.setting.Answers (IsHarmless .pageLimit occasion.itself True True))
    (answers : other.setting.Answers (IsHarmless .pageLimit other.itself True True)) (move : Move)
    (plain : move.isPlain = true) :
    StayInStep .pageLimit (move.performOn occasion) (move.performOn other) := by
  cases move with
  | invoke call =>
    refine call.performAs_stay _ _ _ _ harmless answers ?_
    rintro terminal rfl
    simpa [Move.isPlain] using plain
  | clone => cases plain
  | place destination =>
    refine .reading ?_ (fun _ _ => rfl) fun _ _ => rfl
    exact fun left right same => ⟨⟨same.settings, same.query, same.arguments⟩, same.clauses⟩
  | setPageLimit pageLimit =>
    refine .reading ?_ (fun _ _ => rfl) fun _ _ => rfl
    exact fun left right same => ⟨⟨rfl, same.query, same.arguments⟩, same.clauses⟩

/-- The same moves without an executor. -/
def silenced (moves : List (Occasion τ × Move)) : List (Occasion υ × Move) :=
  moves.map fun step => (step.1.silent, step.2)

theorem runOn_stay (moves : List (Occasion τ × Move))
    (plain : ∀ step ∈ moves, step.2.isPlain = true)
    (spares : ∀ step ∈ moves, step.1.Spares) (left : Desk τ) (right : Desk υ)
    (same : InStep .pageLimit left right) :
    InStep .pageLimit (runOn moves left) (runOn (silenced moves) right) := by
  induction moves generalizing left right with
  | nil => exact same
  | cons step rest ih =>
    obtain ⟨occasion, move⟩ := step
    -- A move that fails on one side only leaves the two in step all the same.
    have first := Move.performOn_stay occasion (occasion.silent : Occasion υ)
      (spares (occasion, move) List.mem_cons_self).harmless occasion.silent_harmless move
      (plain (occasion, move) List.mem_cons_self) left right same
    exact ih (fun step member => plain step (List.mem_cons_of_mem _ member))
      (fun step member => spares step (List.mem_cons_of_mem _ member)) _ _ first

/-- After every move, the builder that sends nothing has the clauses of the one that sends
everything, and has kept the same statement. -/
theorem rendering_alone (moves : List (Occasion τ × Move))
    (plain : ∀ step ∈ moves, step.2.isPlain = true)
    (spares : ∀ step ∈ moves, step.1.Spares) (left : Desk τ) (right : Desk υ)
    (same : InStep .pageLimit left right) (count : Nat) :
    InStep .pageLimit (runOn (moves.take count) left) (runOn (silenced (moves.take count)) right) :=
  runOn_stay (moves.take count) (fun step member => plain step (List.mem_of_mem_take member))
    (fun step member => spares step (List.mem_of_mem_take member)) left right same

/-- Two rows at the first time, and no connection any more afterwards. -/
def fleeting : Occasion Nat :=
  { setting := { executor := some fun _ _ asked =>
      if asked = 0 then (.ok { columns := ["a"], rows := [[.integer 1], [.integer 2]] }, 1)
      else (.error .noConnection, asked + 1) } }

def loadAndLose : List (Occasion Nat × Move) :=
  [(fleeting, .place (.list [])),
    (fleeting, .invoke (.bind 0 .mapping)),
    (fleeting, .invoke (.clause (.table [.text "T"]))),
    (fleeting, .invoke (.terminal (.get []))),
    (fleeting, .invoke (.clause (.table [.text "U"]))),
    (fleeting, .invoke (.terminal (.paginate (.integer 2) [.text "a"])))]

theorem loadAndLose_alone : (∀ step ∈ loadAndLose, step.2.isPlain = true) ∧
    (∀ step ∈ loadAndLose, step.1.Spares) ∧
    InStep .pageLimit (⟨{}, [], 0⟩ : Desk Nat) (⟨{}, [], ()⟩ : Desk Unit) ∧
    ∀ count, InStep .pageLimit (runOn (loadAndLose.take count) ⟨{}, [], 0⟩)
      (runOn (silenced (loadAndLose.take count)) (⟨{}, [], ()⟩ : Desk Unit)) := by
  have plain : ∀ step ∈ loadAndLose, step.2.isPlain = true := by
    simp [loadAndLose, Move.isPlain, TerminalCall.locks]
  have spares : ∀ step ∈ loadAndLose, step.1.Spares := by
    simp [loadAndLose, fleeting, Occasion.Spares]
  have same : InStep .pageLimit (⟨{}, [], 0⟩ : Desk Nat) (⟨{}, [], ()⟩ : Desk Unit) :=
    ⟨⟨rfl, rfl, rfl⟩, rfl⟩
  exact ⟨plain, spares, same, rendering_alone loadAndLose plain spares _ _ same⟩

def getOwnRow : List (Occasion Unit × Move) :=
  [({ setting := answering ownRow, itself := true }, .invoke (.terminal (.get [])))]

/-- A row of its own with the name of the statement kept: it stands in place of the statement. -/
theorem ownRow_replaces_statement :
    (runOn getOwnRow boundToItself).builder.results.query = .text "X" ∧
      (runOn (silenced getOwnRow) boundToItself).builder.results.query =
        .text "SELECT * FROM T" := by
  have answered : (runOn getOwnRow boundToItself) =
      (((TerminalCall.get []).performAs true (answering ownRow)).run boundToItself).2 := rfl
  have unanswered : (runOn (silenced getOwnRow) boundToItself) =
      (((TerminalCall.get []).performAs true {}).run boundToItself).2 := rfl
  have alone : ((TerminalCall.get []).performAs true {}).run boundToItself =
      (.ok none, Desk.closed ⟨selected, boundToItself.shelf, ()⟩) := by
    refine (run_given rfl selected_rendered).trans ?_
    have kept : (execute {} ⟨"SELECT * FROM T", []⟩).run boundToItself.begun =
        (.ok none, ⟨selected, boundToItself.shelf, ()⟩) :=
      execute_balanced _ _ selected_balanced _
    rw [run_bind_ok kept]
    rfl
  rw [answered, unanswered, get_ownRow, alone]
  exact ⟨rfl, rfl⟩

end Querywright
