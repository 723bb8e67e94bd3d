import Querywright.Proofs.OwnRows

/-! What a terminal operation leaves as it is. Sending a statement and taking its answer over
changes neither the settings nor the statement kept, and of the traces it only adds some, unless
rows go to the builder itself and name what they change. -/
namespace Querywright
open Work

variable {τ : Type}

/-- A call for table locks, which belong to a transaction. -/
def TerminalCall.locks : TerminalCall → Bool
  | .lock _ | .unlock => true
  | _ => false

/-- Every answer of the executor, if there is one, is of a kind. -/
def Setting.Answers (kind : Report → Prop) (setting : Setting τ) : Prop :=
  ∀ executor, setting.executor = some executor → ∀ statement arguments before report after,
    executor statement arguments before = (.ok report, after) → kind report

/-- An executor that answers what another one answers gives answers of its kind. -/
theorem Setting.Answers.wrapped {υ : Type} {setting : Setting τ} {other : Setting υ}
    {kind : Report → Prop} {wrap : Executor τ → Executor υ}
    (wraps : other.executor = setting.executor.map wrap) (inside : υ → τ)
    (same : ∀ executor statement arguments before,
      (wrap executor statement arguments before).1 =
        (executor statement arguments (inside before)).1)
    (answers : setting.Answers kind) : other.Answers kind := by
  intro executor present statement arguments before report after answered
  rw [wraps] at present
  obtain ⟨inner, found, rfl⟩ := Option.map_eq_some_iff.mp present
  have result : (inner statement arguments (inside before)).1 = .ok report := by
    rw [← same, answered]
  exact answers inner found statement arguments (inside before) report _ (Prod.ext result rfl)

/-- No column has one of the names. -/
def Report.Spares (names : List String) (report : Report) : Prop :=
  ∀ name ∈ names, name ∉ report.columns

variable {γ : Type}

/-- What is left as it is behind a statement, given that the part of the settings in question is
spared, and that the statement is. To the traces some are only added, if their name is among those
that are spared. -/
structure Spared (watch : Watch γ) (settings statement : Prop) (before after : Desk τ) :
    Prop where
  backing : after.builder.backing = before.builder.backing
  traces : settings → "traces" ∈ watch.names → before.builder.traces <+: after.builder.traces
  settings : settings → watch.part after.builder.settings = watch.part before.builder.settings
  query : statement → after.builder.results.query = before.builder.results.query
  arguments : statement → after.builder.results.arguments = before.builder.results.arguments

variable {watch : Watch γ} {settings statement : Prop}

instance : Std.Refl (Spared watch settings statement : Desk τ → Desk τ → Prop) where
  refl _ := ⟨rfl, fun _ _ => List.prefix_rfl, fun _ => rfl, fun _ => rfl, fun _ => rfl⟩

instance : IsTrans (Desk τ) (Spared watch settings statement) where
  trans _ _ _ first second :=
    ⟨second.backing.trans first.backing,
      fun spared named => (first.traces spared named).trans (second.traces spared named),
      fun spared => (second.settings spared).trans (first.settings spared),
      fun spared => (second.query spared).trans (first.query spared),
      fun spared => (second.arguments spared).trans (first.arguments spared)⟩

namespace Work

theorem spared_tolerates :
    Tolerates (Spared watch settings statement : Desk τ → Desk τ → Prop) :=
  ⟨fun _ _ query arguments =>
      ⟨rfl, fun _ _ => List.prefix_rfl, fun _ => rfl, fun _ => query _, fun _ => arguments _⟩,
    fun _ _ => ⟨rfl, fun _ _ => List.prefix_rfl, fun _ => rfl, fun _ => rfl, fun _ => rfl⟩⟩

theorem send_spared (executor : Executor τ) (written : Value) (arguments : List Value) :
    Moves (Spared watch settings statement) (send executor written arguments) := by
  intro desk
  change Spared watch settings statement desk (send executor written arguments desk).2
  unfold send ExceptT.mk
  dsimp only
  split
  · split
    · exact ⟨rfl, fun _ _ => List.prefix_rfl, fun _ => rfl, fun _ => rfl, fun _ => rfl⟩
    · exact ⟨rfl, fun _ _ => List.prefix_append _ _, fun _ => rfl, fun _ => rfl, fun _ => rfl⟩
  · exact ⟨rfl, fun _ _ => List.prefix_rfl, fun _ => rfl, fun _ => rfl, fun _ => rfl⟩

theorem dispatch_spared (setting : Setting τ) (written : Value) (arguments : List Value) :
    Moves (Spared watch settings statement) (dispatch setting written arguments) := by
  unfold dispatch
  split
  · exact .pure none
  · rename_i executor present
    exact .bind (send_spared executor written arguments) fun _ => .pure _

theorem executeAside_spared (setting : Setting τ) (fragment : Fragment) :
    Moves (Spared watch settings statement) (executeAside setting fragment) :=
  .bind (.ofResult _) fun _ => dispatch_spared setting _ _

theorem fetchTotal_spared (setting : Setting τ) (columns : List Value) :
    Moves (Spared watch settings statement) (fetchTotal setting columns) :=
  spared_tolerates.fetchTotal setting columns fun _ fragment _ =>
    executeAside_spared setting fragment

theorem loadItself_spared (schema : Schema) (report : Report)
    (settled : settings → report.Spares watch.names)
    (kept : statement → report.Spares Builder.statementNames) :
    Moves (Spared watch settings statement) (loadItself schema report : Work τ Nat) := by
  intro desk
  have named := load_changes 0 schema desk.builder.fields report.columns report.rows
  change Spared watch settings statement desk (loadItself schema report desk).2
  unfold loadItself ExceptT.mk
  dsimp only
  generalize (Querywright.load schema .record (.builder 0 desk.builder.fields [])
    report.columns report.rows) = outcome at named ⊢
  have other {names : List String} (spares : report.Spares names) (change : String × Value)
      (changed : change ∈ outcome.2.changes) : change.1 ∉ names :=
    fun member => spares change.1 member (named change changed)
  refine ⟨?_, ?_, ?_, ?_, ?_⟩
  · exact Builder.foldl_assign_same Builder.backing _ (fun _ _ _ => rfl) desk.builder
  · intro spared watched
    have same := Builder.foldl_assign_same Builder.traces outcome.2.changes
      (fun change changed builder => builder.assign_traces change fun named =>
        other (settled spared) change changed (named ▸ watched)) desk.builder
    exact same ▸ List.prefix_rfl
  · intro spared
    exact Builder.foldl_assign_same (fun builder => watch.part builder.settings) _
      (fun change changed builder => watch.assigned change.1 change.2 builder.settings
        (other (settled spared) change changed)) desk.builder
  · intro spared
    exact Builder.foldl_assign_same (fun builder => builder.results.query) _
      (fun change changed builder =>
        (builder.assign_statement change (other (kept spared) change changed)).1) desk.builder
  · intro spared
    exact Builder.foldl_assign_same (fun builder => builder.results.arguments) _
      (fun change changed builder =>
        (builder.assign_statement change (other (kept spared) change changed)).2) desk.builder

/-- An answer that spares what is to be spared, should the builder be loaded with it. -/
def IsHarmless (watch : Watch γ) (itself : Bool) (settings statement : Prop) (report : Report) :
    Prop :=
  itself = true → (settings → report.Spares watch.names) ∧
    (statement → report.Spares Builder.statementNames)

theorem answers_harmless (setting : Setting τ) :
    setting.Answers (IsHarmless watch false settings statement) :=
  fun _ _ _ _ _ _ _ _ itself => absurd itself Bool.false_ne_true

theorem takeBound_spared (itself : Bool) (schema : Schema) (binding : Option Binding)
    (report : Option Report)
    (harmless : ∀ found, report = some found → IsHarmless watch itself settings statement found) :
    Moves (Spared watch settings statement)
      (takeBound itself schema binding report : Work τ Unit) := by
  cases itself with
  -- Any other destination stands on the shelf, away from the builder.
  | false => exact spared_tolerates.takeRows schema binding report
  | true =>
    cases report with
    | none => exact .pure ()
    | some report =>
      obtain ⟨settled, kept⟩ := harmless report rfl rfl
      rw [takeBound, if_pos rfl]
      unfold takeItself
      dsimp only
      split
      · exact spared_tolerates.changeResults _ (fun _ => rfl) fun _ => rfl
      · refine .bind (loadItself_spared schema report settled kept) fun count => ?_
        exact spared_tolerates.changeResults _ (fun _ => rfl) fun _ => rfl

section Answers

variable {kind : Report → Prop} {setting : Setting τ}

theorem send_gives (executor : Executor τ) (written : Value) (arguments : List Value)
    (answers : ∀ before report after, executor written arguments before = (.ok report, after) →
      kind report) : Gives kind (send executor written arguments) := by
  intro desk report after ran
  have answered := answers desk.outside
  change send executor written arguments desk = (.ok report, after) at ran
  unfold send ExceptT.mk at ran
  dsimp only at ran
  generalize executor written arguments desk.outside = outcome at ran answered
  obtain ⟨result, outside⟩ := outcome
  split at ran
  · split at ran
    · cases ran
    · obtain ⟨rfl, -⟩ := Prod.mk.inj ran
      exact answered report outside rfl
  · obtain ⟨rfl, -⟩ := Prod.mk.inj ran
    exact answered report outside rfl

theorem dispatch_gives (answers : setting.Answers kind) (written : Value)
    (arguments : List Value) :
    Gives (fun report => ∀ found, report = some found → kind found)
      (dispatch setting written arguments) := by
  intro desk report after ran found same
  unfold dispatch at ran
  split at ran
  · cases ran
    cases same
  · rename_i executor present
    have given := send_gives executor written arguments
      (fun before report after => answers executor present written arguments before report after)
    rw [run_bind] at ran
    split at ran
    · rename_i value between sent
      cases ran
      cases same
      exact given desk found after sent
    · cases ran

theorem execute_gives (answers : setting.Answers kind) (fragment : Fragment) :
    Gives (fun report => ∀ found, report = some found → kind found) (execute setting fragment) :=
  .bind fun _ => .bind fun _ => dispatch_gives answers _ _

theorem executeLoose_gives (answers : setting.Answers kind) (written : Value)
    (values : List Value) :
    Gives (fun report => ∀ found, report = some found → kind found)
      (executeLoose setting written values) :=
  .bind fun _ => .bind fun _ => dispatch_gives answers _ _

end Answers

/-- What goes on behind the select for the rows. -/
def takeSelectedBound (itself : Bool) (setting : Setting τ) (columns : List Value)
    (report : Option Report) : Work τ Unit := do
  takeBound itself setting.schema (← builder).binding report
  if (← pending).totalRequested then fetchTotal setting columns

theorem takeSelectedBound_spared (itself : Bool) (setting : Setting τ) (columns : List Value)
    (report : Option Report)
    (harmless : ∀ found, report = some found → IsHarmless watch itself settings statement found) :
    Moves (Spared watch settings statement) (takeSelectedBound itself setting columns report) := by
  refine .bind (.of_same fun _ => rfl) fun builder => ?_
  refine .bind (takeBound_spared itself setting.schema builder.binding report harmless) fun _ => ?_
  refine .bind (.of_same fun _ => rfl) fun clauses => ?_
  split
  · exact fetchTotal_spared setting columns
  · exact .pure ()

theorem takeMany_spared (report : Option Report) :
    Moves (Spared watch settings statement) (takeMany report : Work τ Unit) := by
  refine .bind (spared_tolerates.takeWrite true report) fun _ => ?_
  cases report with
  | none => exact .pure ()
  | some report => exact spared_tolerates.changeResults _ (fun _ => rfl) fun _ => rfl

end Work
end Querywright
