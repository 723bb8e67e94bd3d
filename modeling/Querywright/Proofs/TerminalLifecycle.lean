import Querywright.Proofs.StatementsInStep

/-! The life of a terminal operation. Whatever it is and however it ends, it starts without the
results of the operation before and leaves neither clauses nor a destination behind, while the
settings and the traces last. -/
namespace Querywright
open Work

variable {τ α β γ : Type}

def Desk.withResults (results : Results) (desk : Desk τ) : Desk τ :=
  { desk with builder := { desk.builder with results := results } }

/-- A scope of its own: it takes no notice of earlier results, and neither clauses nor a destination
outlive it. -/
structure IsScope (watch : Watch γ) (lasting : Prop) (work : Work τ α) : Prop where
  clauses : ∀ desk, (work.run desk).2.builder.clauses = {}
  binding : ∀ desk, (work.run desk).2.builder.binding = none
  forgets : ∀ results desk, work.run (desk.withResults results) = work.run desk
  spares : Moves (Spared watch lasting False) work

namespace IsScope

variable {watch : Watch γ} {lasting : Prop}

theorem statement {body : Work τ α} (spares : Moves (Spared watch lasting False) body) :
    IsScope watch lasting (Work.statement body) := by
  refine ⟨fun _ => rfl, fun _ => rfl, fun _ _ => rfl, ?_⟩
  intro desk
  have inner := spares desk.begun
  exact ⟨inner.backing, inner.traces, inner.settings, False.elim, False.elim⟩

/-- What only reads may follow. -/
theorem reading {work : Work τ α} {next : α → Work τ β} (scope : IsScope watch lasting work)
    (reads : ∀ value desk, ((next value).run desk).2 = desk) :
    IsScope watch lasting (work >>= next) := by
  have left : ∀ desk, ((work >>= next).run desk).2 = (work.run desk).2 := run_bind_reading reads
  refine ⟨fun desk => ?_, fun desk => ?_, fun results desk => ?_, fun desk => ?_⟩
  · rw [left]
    exact scope.clauses desk
  · rw [left]
    exact scope.binding desk
  · rw [run_bind, run_bind, scope.forgets]
  · rw [left]
    exact scope.spares desk

/-- A new destination may be bound before. -/
theorem bound {destination : Destination} {sink : Sink} {next : Nat → Work τ α}
    (scope : ∀ slot, IsScope watch lasting (next slot)) :
    IsScope watch lasting (Builder.bindFresh destination sink >>= next) := by
  have opened (desk : Desk τ) : (Builder.bindFresh destination sink >>= next).run desk =
      (next desk.shelf.length).run (desk.bound destination sink) :=
    run_bind_ok rfl next
  refine ⟨fun desk => ?_, fun desk => ?_, fun results desk => ?_, fun desk => ?_⟩
  · rw [opened]
    exact (scope _).clauses _
  · rw [opened]
    exact (scope _).binding _
  · rw [opened, opened]
    exact (scope _).forgets results (desk.bound destination sink)
  · rw [opened]
    have inner := (scope desk.shelf.length).spares (desk.bound destination sink)
    exact ⟨inner.backing, inner.traces, inner.settings, False.elim, False.elim⟩

end IsScope

namespace Work

variable {watch : Watch γ} {lasting : Prop}

theorem changeClauses_spared (change : Clauses → Clauses) :
    Moves (Spared watch lasting False) (changeClauses change : Work τ Unit) :=
  fun _ => ⟨rfl, fun _ _ => List.prefix_rfl, fun _ => rfl, False.elim, False.elim⟩

theorem changeResults_spared (change : Results → Results) :
    Moves (Spared watch lasting False) (changeResults change : Work τ Unit) :=
  fun _ => ⟨rfl, fun _ _ => List.prefix_rfl, fun _ => rfl, False.elim, False.elim⟩

theorem execute_spared (setting : Setting τ) (fragment : Fragment) :
    Moves (Spared watch lasting False) (execute setting fragment) := by
  refine .bind (.ofResult _) fun checked => ?_
  refine .bind (changeResults_spared _) fun _ => ?_
  exact dispatch_spared setting _ _

theorem executeLoose_spared (setting : Setting τ) (written : Value) (values : List Value) :
    Moves (Spared watch lasting False) (executeLoose setting written values) := by
  refine .bind (.ofResult _) fun checked => ?_
  refine .bind (changeResults_spared _) fun _ => ?_
  exact dispatch_spared setting _ _

theorem selectBound_spared (itself : Bool) (setting : Setting τ)
    (harmless : setting.Answers (IsHarmless watch itself lasting False)) (columns : List Value) :
    Moves (Spared watch lasting False) (selectBound itself setting columns) := by
  refine .bind (.of_same fun _ => rfl) fun clauses => ?_
  refine .bind (.ofResult _) fun fragment => ?_
  refine .bind_given (execute_gives harmless fragment) (execute_spared setting fragment)
    fun report fits => ?_
  exact takeSelectedBound_spared itself setting columns report fits

theorem rawQueryBound_scope (itself : Bool) (setting : Setting τ)
    (harmless : setting.Answers (IsHarmless watch itself lasting False)) (written : Value)
    (values : List Value) :
    IsScope watch lasting (rawQueryBound itself setting written values) := by
  refine .statement ?_
  refine .bind (.of_same fun _ => rfl) fun builder => ?_
  refine .bind_given (executeLoose_gives harmless written values)
    (executeLoose_spared setting written values) fun report fits => ?_
  exact takeBound_spared itself setting.schema builder.binding report fits

theorem write_scope (setting : Setting τ) (inserted : Bool)
    (render : Clauses → Except Error Fragment) :
    IsScope watch lasting (Builder.write setting inserted render) := by
  refine .statement ?_
  refine .bind (.of_same fun _ => rfl) fun clauses => ?_
  refine .bind (.ofResult _) fun fragment => ?_
  refine .bind (execute_spared setting fragment) fun report => ?_
  exact spared_tolerates.takeWrite inserted report

theorem inTransaction_scope (setting : Setting τ) (active : setting.locksTables = true)
    {body : Work τ Unit} (spares : Moves (Spared watch lasting False) body) :
    IsScope watch lasting (Builder.inTransaction setting body) := by
  unfold Builder.inTransaction
  rw [if_pos active]
  exact .statement spares

end Work

namespace TerminalCall

theorem performAs_scope {watch : Watch γ} {lasting : Prop} (itself : Bool) (setting : Setting τ)
    (harmless : setting.Answers (IsHarmless watch itself lasting False)) (call : TerminalCall)
    (textual : call.IsTextual) (active : call.locks = true → setting.locksTables = true) :
    IsScope watch lasting (call.performAs itself setting) := by
  have plain : setting.Answers (IsHarmless watch false lasting False) := answers_harmless setting
  cases call with
  | get columns =>
    refine .reading (.statement ?_) fun _ _ => rfl
    exact selectBound_spared itself setting harmless columns
  | getOne columns =>
    refine .reading (.statement ?_) fun _ _ => rfl
    refine .bind (changeClauses_spared _) fun _ => ?_
    exact selectBound_spared itself setting harmless columns
  | paginate page columns =>
    refine .reading (.statement ?_) fun _ _ => rfl
    refine .bind (.of_same fun _ => rfl) fun builder => ?_
    refine .bind (.ofResult _) fun window => ?_
    refine .bind (changeClauses_spared _) fun _ => ?_
    exact selectBound_spared itself setting harmless columns
  | rawQuery text values =>
    exact .reading (rawQueryBound_scope itself setting harmless text values) fun _ _ => rfl
  | rawQueryOne text values =>
    obtain ⟨content, rfl⟩ := textual
    exact .reading (rawQueryBound_scope itself setting harmless _ values) fun _ _ => rfl
  | getValue column =>
    refine .reading (.bound fun slot => .reading (.statement ?_) ?_) fun _ _ => rfl
    · refine .bind (changeClauses_spared _) fun _ => ?_
      exact selectBound_spared false setting plain [column]
    · exact fun _ desk => by rw [run_contentOf]
  | getValues column =>
    refine .reading (.bound fun slot => .reading (.statement ?_) ?_) fun _ _ => rfl
    · exact selectBound_spared false setting plain [column]
    · exact fun _ desk => by rw [run_contentOf]
  | has =>
    refine .reading (.reading (.statement ?_) fun _ _ => rfl) fun _ _ => rfl
    refine .bind (changeClauses_spared _) fun _ => ?_
    refine .bind (.of_same fun _ => rfl) fun clauses => ?_
    refine .bind (.ofResult _) fun fragment => ?_
    refine .bind (execute_spared setting fragment) fun report => ?_
    exact spared_tolerates.takeRows setting.schema none report
  | insert data | replace data | update data | delete =>
    exact .reading (write_scope setting _ _) fun _ _ => rfl
  | insertMulti rows =>
    refine .reading (.statement ?_) fun _ _ => rfl
    refine .bind (.ofResult _) fun rows => ?_
    refine .bind (.of_same fun _ => rfl) fun clauses => ?_
    refine .bind (.ofResult _) fun fragment => ?_
    exact .bind (execute_spared setting fragment) takeMany_spared
  | rawQueryValue text values =>
    obtain ⟨content, rfl⟩ := textual
    refine .reading (.bound fun slot => .reading ?_ ?_) fun _ _ => rfl
    · exact rawQueryBound_scope false setting plain _ values
    · exact fun _ desk => by rw [run_contentOf]
  | rawQueryValues text values =>
    refine .reading (.bound fun slot => .reading ?_ ?_) fun _ _ => rfl
    · exact rawQueryBound_scope false setting plain text values
    · exact fun _ desk => by rw [run_contentOf]
  | lock tables =>
    refine .reading (inTransaction_scope setting (active rfl) ?_) fun _ _ => rfl
    refine .bind (.of_same fun _ => rfl) fun builder => ?_
    refine .bind (.ofResult _) fun text => ?_
    refine .bind (execute_spared setting _) fun report => ?_
    exact spared_tolerates.takeRows setting.schema none report
  | unlock =>
    refine .reading (inTransaction_scope setting (active rfl) ?_) fun _ _ => rfl
    refine .bind (execute_spared setting _) fun report => ?_
    exact spared_tolerates.takeRows setting.schema none report

theorem perform_scope (watch : Watch γ) (setting : Setting τ) (call : TerminalCall)
    (textual : call.IsTextual) (active : call.locks = true → setting.locksTables = true) :
    IsScope watch True (call.perform setting) := by
  have plain : setting.Answers (IsHarmless watch false True False) := answers_harmless setting
  have scope := call.performAs_scope false setting plain textual active
  rwa [performAs_false] at scope

theorem performAs_unbegun (itself : Bool) (setting : Setting τ) (call : TerminalCall)
    (locks : call.locks = true) (unbegun : setting.locksTables = false) (desk : Desk τ) :
    (call.performAs itself setting).run desk = (.error .transactionNotBegun, desk) := by
  have refused (body : Work τ Unit) :
      (Builder.inTransaction setting body).run desk = (.error .transactionNotBegun, desk) := by
    unfold Builder.inTransaction
    rw [unbegun]
    rfl
  cases call with
  | lock tables => exact run_bind_error (refused _) _
  | unlock => exact run_bind_error (refused _) _
  | _ => cases locks

end TerminalCall

namespace Desk

/-- A new builder with the settings and the executor of this one. -/
def fresh (desk : Desk τ) : Desk τ :=
  { desk with builder := { settings := desk.builder.settings, backing := desk.builder.backing } }

/-- The same, but with the traces so far. -/
def resumed (desk : Desk τ) : Desk τ :=
  { desk with builder := { desk.fresh.builder with traces := desk.builder.traces } }

/-- The desk after clause calls, refused ones included. -/
def dressed (calls : List ClauseCall) (desk : Desk τ) : Desk τ :=
  calls.foldl (fun desk call => ((BuilderCall.applyClause call).run desk).2) desk

theorem dressed_withResults (calls : List ClauseCall) (results : Results) (desk : Desk τ) :
    (desk.withResults results).dressed calls = (desk.dressed calls).withResults results := by
  induction calls generalizing desk with
  | nil => rfl
  | cons call rest ih => exact ih ((BuilderCall.applyClause call).run desk).2

theorem dressed_inStep {υ : Type} (calls : List ClauseCall) (left : Desk τ) (right : Desk υ)
    (same : InStep .all left right) : InStep .all (left.dressed calls) (right.dressed calls) := by
  induction calls generalizing left right with
  | nil => exact same
  | cons call rest ih =>
    refine ih _ _ ⟨⟨same.settings, same.query, same.arguments⟩, ?_⟩
    exact congrArg (fun clauses => (call.apply clauses).2) same.clauses

end Desk

/-- A desk that a terminal operation has left, what has one of the names lasting or not. The next
statement comes to what it would come to with a new builder that has the traces so far, and is the
one that a new builder without them makes. -/
structure Concluded (lasting : String → Prop) (before after : Desk τ) : Prop where
  clauses : after.builder.clauses = {}
  binding : after.builder.binding = none
  backing : after.builder.backing = before.builder.backing
  pageLimit : lasting "page_limit" →
    after.builder.settings.pageLimit = before.builder.settings.pageLimit
  lockMethod : lasting "lock_method" →
    after.builder.settings.lockMethod = before.builder.settings.lockMethod
  tracing : lasting "tracing" → after.builder.settings.tracing = before.builder.settings.tracing
  traces : lasting "traces" → before.builder.traces <+: after.builder.traces
  resumed : ∀ calls (setting : Setting τ) (next : TerminalCall), next.IsTextual →
    (next.locks = true → setting.locksTables = true) →
    (next.perform setting).run (after.dressed calls) =
      (next.perform setting).run (after.resumed.dressed calls)
  fresh : ∀ calls (setting : Setting τ) (next : TerminalCall), next.IsTextual →
    (next.locks = true → setting.locksTables = true) →
    SameStatement .all ((next.perform setting).run (after.dressed calls)).2
      ((next.perform setting).run (after.fresh.dressed calls)).2

section Next

variable {after : Desk τ} (clauses : after.builder.clauses = {})
  (binding : after.builder.binding = none) (calls : List ClauseCall) (setting : Setting τ)
  (next : TerminalCall) (textual : next.IsTextual)
  (active : next.locks = true → setting.locksTables = true)

include clauses binding textual active

theorem next_resumed : (next.perform setting).run (after.dressed calls) =
    (next.perform setting).run (after.resumed.dressed calls) := by
  -- By its results alone the builder differs from one that has been resumed.
  have parts : after = after.resumed.withResults after.builder.results := by
    obtain ⟨⟨_, _, _, _, _, _⟩, _, _⟩ := after
    cases clauses
    cases binding
    rfl
  have dressed : after.dressed calls =
      (after.resumed.dressed calls).withResults after.builder.results := by
    rw [← Desk.dressed_withResults, ← parts]
  rw [dressed, (next.perform_scope .all setting textual active).forgets]

theorem next_fresh : SameStatement .all ((next.perform setting).run (after.dressed calls)).2
    ((next.perform setting).run (after.fresh.dressed calls)).2 := by
  have stay : StayInStep .all (next.performAs false setting) (next.performAs false setting) :=
    next.performAs_stay false false setting setting (answers_harmless setting)
      (answers_harmless setting) (fun _ _ same => congrArg Settings.pageLimit same)
      fun _ => ⟨rfl, fun _ _ same => congrArg Settings.lockMethod same⟩
  rw [TerminalCall.performAs_false] at stay
  rw [next_resumed clauses binding calls setting next textual active]
  have alike : InStep .all after.resumed after.fresh := ⟨⟨rfl, rfl, rfl⟩, rfl⟩
  exact (stay _ _ (Desk.dressed_inStep calls _ _ alike)).toSameStatement

end Next

/-- Every terminal operation, whatever its executor answers and however it ends: it leaves a builder
without clauses and destination, with the settings of before, and it takes no notice of earlier
results. Only rows that go to the builder itself may change a setting, by its name. The one
exception is a call for table locks outside a transaction. -/
theorem terminal_operation_concluded (itself : Bool) (setting : Setting τ) (call : TerminalCall)
    (textual : call.IsTextual) (desk : Desk τ) :
    let outcome := (call.performAs itself setting).run desk
    if call.locks = true ∧ setting.locksTables = false then
      outcome = (.error .transactionNotBegun, desk)
    else
      Concluded (fun name => itself = true → setting.Answers (Report.Spares [name])) desk
          outcome.2 ∧
        ∀ results, (call.performAs itself setting).run (desk.withResults results) = outcome := by
  intro outcome
  split
  · rename_i refused
    exact call.performAs_unbegun itself setting refused.1 refused.2 desk
  · rename_i admitted
    have active (locks : call.locks = true) : setting.locksTables = true := by
      cases begun : setting.locksTables with
      | true => rfl
      | false => exact absurd ⟨locks, begun⟩ admitted
    have scope {γ : Type} (watch : Watch γ) : IsScope watch
        (itself = true → setting.Answers (Report.Spares watch.names))
        (call.performAs itself setting) := by
      refine call.performAs_scope itself setting ?_ textual active
      intro executor present written arguments before report after answered own
      refine ⟨fun lasting => ?_, False.elim⟩
      exact lasting own executor present written arguments before report after answered
    have any := scope Watch.all
    refine ⟨⟨any.clauses desk, any.binding desk, (any.spares desk).backing, ?_, ?_, ?_, ?_,
      next_resumed (any.clauses desk) (any.binding desk),
      next_fresh (any.clauses desk) (any.binding desk)⟩, fun results => any.forgets results desk⟩
    · exact ((scope .pageLimit).spares desk).settings
    · exact ((scope .lockMethod).spares desk).settings
    · exact ((scope .tracing).spares desk).settings
    · exact fun lasting => ((scope .traces).spares desk).traces lasting List.mem_cons_self

/-- Told that the connection is lost, by an executor that counts what it is asked. -/
def losing : Setting Nat :=
  { executor := some fun _ _ asked => (.error .noConnection, asked + 1) }

/-- A builder at work on a statement, with results of another one and a trace. -/
def midway : Desk Nat :=
  ⟨{ clauses := { tables := [.text "T"], limit := [.integer 3] }
     settings := { tracing := .truth true }
     results := { query := .text "SELECT * FROM U", count := 2 }
     traces := [⟨"SELECT * FROM U", [], none⟩]
     binding := some ⟨0, .holder⟩ }, [.holder .anything .null], 7⟩

def oneRow : TerminalCall :=
  .rawQueryOne (.text "SELECT a FROM T") []

theorem lostLookup_concluded :
    let outcome := (oneRow.performAs false losing).run midway
    oneRow.IsTextual ∧ outcome.2.builder.clauses = {} ∧ outcome.2.builder.binding = none ∧
      outcome.2.builder.settings.pageLimit = .integer 20 ∧
      outcome.2.builder.settings.tracing = .truth true ∧
      ∀ results, (oneRow.performAs false losing).run (midway.withResults results) = outcome := by
  intro outcome
  have textual : oneRow.IsTextual := ⟨_, rfl⟩
  have concluded := terminal_operation_concluded false losing oneRow textual midway
  rw [if_neg (by decide)] at concluded
  obtain ⟨left, forgets⟩ := concluded
  exact ⟨textual, left.clauses, left.binding,
    left.pageLimit fun own => absurd own Bool.false_ne_true,
    left.tracing fun own => absurd own Bool.false_ne_true, forgets⟩

/-- A row of its own with the name of a setting: it changes what the next page holds. -/
theorem ownRow_sets_pageLimit :
    let outcome := ((TerminalCall.get []).performAs true (answering ownRow)).run boundToItself
    boundToItself.builder.settings.pageLimit = .integer 20 ∧
      outcome.2.builder.settings.pageLimit = .integer 5 := by
  intro outcome
  have left : outcome = (.ok none, Desk.closed ⟨overwritten, boundToItself.shelf, ()⟩) := get_ownRow
  rw [left]
  exact ⟨rfl, rfl⟩

end Querywright
