import Querywright.Proofs.RenderingAlone
import Querywright.Proofs.TerminalSends

/-! The traces as a log. While tracing is on, every call of the executor leaves one entry, with its
statement, its arguments and the text of its failure if it failed; nothing else adds to the traces,
and nothing takes away from them but rows that go to the builder itself and name them. -/
namespace Querywright
open Work

variable {τ : Type}

/-- A call of an executor and what came of it. -/
structure Exchange where
  statement : Value
  arguments : List Value
  outcome : Except Error Report

namespace Exchange

def failure (exchange : Exchange) : Option String :=
  match exchange.outcome with
  | .ok _ => none
  | .error reason => some reason.message

/-- The entry among the traces; only what stands for a text has one. -/
def trace? (exchange : Exchange) : Option Trace :=
  (traceOf exchange.statement exchange.arguments exchange.outcome).toOption

theorem trace?_text (exchange : Exchange) {text : String}
    (written : exchange.statement = .text text) :
    exchange.trace? = some ⟨text, exchange.arguments, exchange.failure⟩ := by
  obtain ⟨statement, arguments, outcome⟩ := exchange
  cases written
  have fitted : fitNamed "query" .text (.text text) = .ok (.text text) := by
    unfold fitNamed
    rw [fit]
    rfl
  unfold trace? traceOf
  dsimp only
  rw [fitted]
  rfl

end Exchange

/-- An executor that keeps a record of its calls. -/
def Executor.recorded (executor : Executor τ) : Executor (τ × List Exchange) :=
  fun statement arguments outside =>
    let (result, after) := executor statement arguments outside.1
    (result, after, outside.2 ++ [⟨statement, arguments, result⟩])

def Setting.recorded (setting : Setting τ) : Setting (τ × List Exchange) :=
  { schema := setting.schema
    executor := setting.executor.map Executor.recorded
    locksTables := setting.locksTables }

theorem Setting.Answers.recorded {setting : Setting τ} {kind : Report → Prop}
    (answers : setting.Answers kind) : setting.recorded.Answers kind := by
  exact answers.wrapped rfl Prod.fst fun _ _ _ _ => rfl

/-- The entries that calls of the executor leave on a desk. -/
def Desk.entries (desk : Desk τ) (log : List Exchange) : List Trace :=
  if desk.builder.settings.tracing.isTrue then log.filterMap Exchange.trace? else []

/-- Between two desks the executor has had some calls, all of one kind; the traces have grown by
their entries if tracing is on, and it has stayed on or off. -/
structure Logged (each : Exchange → Prop) (log : List Exchange)
    (before after : Desk (τ × List Exchange)) : Prop where
  noted : after.outside.2 = before.outside.2 ++ log
  each : ∀ exchange ∈ log, each exchange
  tracing : after.builder.settings.tracing = before.builder.settings.tracing
  traces : after.builder.traces = before.builder.traces ++ before.entries log

def Logs (each : Exchange → Prop) (before after : Desk (τ × List Exchange)) : Prop :=
  ∃ log, Logged each log before after

namespace Logs

variable {each : Exchange → Prop} {before after : Desk (τ × List Exchange)}

theorem unnoticed (outside : after.outside = before.outside)
    (traces : after.builder.traces = before.builder.traces)
    (tracing : after.builder.settings.tracing = before.builder.settings.tracing) :
    Logs each before after := by
  refine ⟨[], by rw [outside, List.append_nil], by simp, tracing, ?_⟩
  unfold Desk.entries
  rw [traces]
  split <;> simp

instance : Std.Refl (Logs each : Desk (τ × List Exchange) → Desk (τ × List Exchange) → Prop) where
  refl _ := unnoticed rfl rfl rfl

instance : IsTrans (Desk (τ × List Exchange)) (Logs each) where
  trans before between after first second := by
    obtain ⟨earlier, one⟩ := first
    obtain ⟨later, two⟩ := second
    refine ⟨earlier ++ later, ?_, ?_, two.tracing.trans one.tracing, ?_⟩
    · rw [two.noted, one.noted, List.append_assoc]
    · intro exchange member
      exact (List.mem_append.mp member).elim (one.each exchange) (two.each exchange)
    · have same : between.entries later = before.entries later := by
        unfold Desk.entries
        rw [one.tracing]
      rw [two.traces, one.traces, same, List.append_assoc]
      unfold Desk.entries
      split <;> simp

end Logs

/-- One call of the executor, one entry. -/
theorem Work.dispatch_logs (setting : Setting τ) (statement : Value) (arguments : List Value)
    {each : Exchange → Prop} (kind : ∀ outcome, setting.executor ≠ none →
      each ⟨statement, arguments, outcome⟩) :
    Moves (Logs each) (dispatch setting.recorded statement arguments) := by
  unfold dispatch Setting.recorded
  dsimp only
  cases present : setting.executor with
  | none => exact .pure none
  | some executor =>
    refine .bind (fun desk => ?_) fun _ => .pure _
    refine ⟨[⟨statement, arguments, (executor statement arguments desk.outside.1).1⟩], ?_⟩
    have called := kind (executor statement arguments desk.outside.1).1 (by simp [present])
    change Logged each _ desk (send executor.recorded statement arguments desk).2
    unfold send ExceptT.mk Executor.recorded
    dsimp only
    by_cases traced : desk.builder.settings.tracing.isTrue
    · rw [if_pos traced]
      cases entered :
          traceOf statement arguments (executor statement arguments desk.outside.1).1 with
      | error flaws =>
        refine ⟨rfl, by simpa using called, rfl, ?_⟩
        simp [Desk.entries, Exchange.trace?, traced, entered, Except.toOption]
      | ok trace =>
        refine ⟨rfl, by simpa using called, rfl, ?_⟩
        simp [Desk.entries, Exchange.trace?, traced, entered, Except.toOption]
    · rw [if_neg traced]
      refine ⟨rfl, by simpa using called, rfl, ?_⟩
      simp [Desk.entries, traced]

/-- The names of the columns that change the traces or whether there are any. -/
def Builder.tracingNames : List String :=
  ["traces", "tracing"]

/-- Rows of its own that name neither leave the traces of a builder alone. -/
theorem Work.loadItself_logs (schema : Schema) (report : Report)
    (spares : report.Spares Builder.tracingNames) {each : Exchange → Prop} :
    Moves (Logs each) (loadItself schema report : Work (τ × List Exchange) Nat) := by
  intro desk
  have named := load_changes 0 schema desk.builder.fields report.columns report.rows
  change Logs each desk (loadItself schema report desk).2
  unfold loadItself ExceptT.mk
  dsimp only
  generalize (Querywright.load schema .record (.builder 0 desk.builder.fields [])
    report.columns report.rows) = outcome at named ⊢
  have other (change : String × Value) (changed : change ∈ outcome.2.changes) :
      change.1 ∉ Builder.tracingNames :=
    fun member => spares change.1 member (named change changed)
  refine .unnoticed rfl ?_ ?_
  · refine Builder.foldl_assign_same Builder.traces _ (fun change changed builder => ?_)
      desk.builder
    exact builder.assign_traces change fun same => other change changed (by simp [same,
      Builder.tracingNames])
  · refine Builder.foldl_assign_same (fun builder => builder.settings.tracing) _
      (fun change changed builder => ?_) desk.builder
    refine Watch.tracing.assigned change.1 change.2 builder.settings fun named => ?_
    exact other change changed (by simp_all [Watch.tracing, Builder.tracingNames])

/-- What a call of the executor can be about. -/
def TerminalCall.Makes (setting : Setting τ) (call : TerminalCall) (exchange : Exchange) : Prop :=
  setting.executor ≠ none ∧ call.CanSend exchange.statement

namespace Occasion

def recorded (occasion : Occasion τ) : Occasion (τ × List Exchange) :=
  { setting := occasion.setting.recorded, itself := occasion.itself }

/-- Rows that go to the builder itself have no columns that change its traces. -/
def SparesTraces (occasion : Occasion τ) : Prop :=
  occasion.itself = true → occasion.setting.Answers (Report.Spares Builder.tracingNames)

end Occasion

/-- Every terminal operation, whatever it is answered and however it fails. -/
theorem TerminalCall.performAs_logs (occasion : Occasion τ) (spares : occasion.SparesTraces)
    (call : TerminalCall) :
    Moves (Logs (call.Makes occasion.setting))
      (call.performAs occasion.itself occasion.setting.recorded) := by
  have sustained : Sustains (Logs (call.Makes occasion.setting)) occasion.itself
      occasion.setting.recorded
      (fun report => occasion.itself = true → report.Spares Builder.tracingNames) call.CanSend :=
    { unnoticed := fun _ _ outside traces settings =>
        .unnoticed outside traces (congrArg Settings.tracing settings)
      answers := by
        cases own : occasion.itself with
        | false => exact fun _ _ _ _ _ _ _ _ itself => absurd itself Bool.false_ne_true
        | true =>
          intro executor present statement arguments before report after answered _
          exact (spares own).recorded executor present statement arguments before report after
            answered
      dispatches := fun statement arguments sent =>
        dispatch_logs occasion.setting statement arguments fun _ present => ⟨present, sent⟩
      loads := fun own report spared => loadItself_logs _ report (spared own) }
  exact call.performAs_moves sustained

namespace Move

/-- Behind a copy the run would go on with another builder. -/
def stays : Move → Bool
  | .clone => false
  | _ => true

/-- A move that does not switch tracing over, it being on or off. -/
def KeepsTracing (mode : Bool) : Move → Prop
  | .invoke (.setTrace enabled) => enabled.isTrue = mode
  | _ => True

/-- A call of the executor that a move can make. -/
def Makes (setting : Setting τ) (move : Move) (exchange : Exchange) : Prop :=
  ∃ call, move = .invoke (.terminal call) ∧ call.Makes setting exchange

end Move

/-- Any other move makes no call of the executor and leaves traces and tracing alone, unless it is
the switch for them. -/
theorem BuilderCall.replaceBuilder_logs {each : Exchange → Prop}
    {change : Desk (τ × List Exchange) → Except Error Builder}
    (same : ∀ desk builder, change desk = .ok builder → builder.traces = desk.builder.traces ∧
      builder.settings.tracing = desk.builder.settings.tracing) :
    Moves (Logs each) (BuilderCall.replaceBuilder change) := by
  intro desk
  rw [BuilderCall.run_replaceBuilder]
  cases changed : change desk with
  | error reason => exact Std.Refl.refl desk
  | ok builder =>
    obtain ⟨traces, tracing⟩ := same desk builder changed
    exact .unnoticed rfl traces tracing

theorem Move.performOn_logs (occasion : Occasion τ) (spares : occasion.SparesTraces) (move : Move)
    (stays : move.stays = true) (unswitched : ∀ enabled, move ≠ .invoke (.setTrace enabled)) :
    Moves (Logs (move.Makes occasion.setting)) (move.performOn occasion.recorded) := by
  cases move with
  | clone => cases stays
  | place destination => exact .bind (fun _ => .unnoticed rfl rfl rfl) fun _ => .pure none
  | setPageLimit pageLimit => exact .bind (fun _ => .unnoticed rfl rfl rfl) fun _ => .pure none
  | invoke call =>
    cases call with
    | clause call => exact .bind (fun _ => .unnoticed rfl rfl rfl) fun _ => .pure none
    | terminal call =>
      intro desk
      obtain ⟨log, logged⟩ := call.performAs_logs occasion spares desk
      exact ⟨log, logged.noted, fun exchange member => ⟨call, rfl, logged.each exchange member⟩,
        logged.tracing, logged.traces⟩
    | bind slot rule =>
      refine .bind (BuilderCall.replaceBuilder_logs fun desk builder changed => ?_) fun _ =>
        .pure none
      obtain ⟨binding, renewed⟩ := desk.renewed_bound occasion.recorded.setting.schema slot rule
      rw [changed] at renewed
      have bound : builder = { desk.builder with binding := binding } :=
        congrArg Desk.builder renewed
      exact bound ▸ ⟨rfl, rfl⟩
    | setLockMethod method =>
      refine .bind (BuilderCall.replaceBuilder_logs fun desk builder changed => ?_) fun _ =>
        .pure none
      unfold Builder.setLockMethod at changed
      split at changed
      · cases changed
        exact ⟨rfl, rfl⟩
      · cases changed
    | setTrace enabled => exact absurd rfl (unswitched enabled)

/-- What moves have done to the traces: the executor has had some calls; the entries that are new
are entries of these, in their order, and all of them if tracing was on all the time. -/
structure Extended (each : Exchange → Prop) (keeps : Bool → Prop) (log : List Exchange)
    (before after : Desk (τ × List Exchange)) : Prop where
  noted : after.outside.2 = before.outside.2 ++ log
  each : ∀ exchange ∈ log, each exchange
  grown : ∃ entries, entries.Sublist (log.filterMap Exchange.trace?) ∧
    after.builder.traces = before.builder.traces ++ entries
  steady : ∀ mode, keeps mode → before.builder.settings.tracing.isTrue = mode →
    after.builder.settings.tracing.isTrue = mode ∧
      after.builder.traces =
        before.builder.traces ++ if mode then log.filterMap Exchange.trace? else []

namespace Extended

variable {each : Exchange → Prop} {keeps : Bool → Prop}
  {before between after : Desk (τ × List Exchange)} {log earlier later : List Exchange}

theorem of_logged (logged : Logged each log before after) :
    Extended each keeps log before after := by
  refine ⟨logged.noted, logged.each, ⟨before.entries log, ?_, logged.traces⟩, ?_⟩
  · unfold Desk.entries
    split
    · exact .refl _
    · exact List.nil_sublist _
  · intro mode _ traced
    refine ⟨by rw [logged.tracing, traced], ?_⟩
    rw [logged.traces, Desk.entries, traced]

theorem mono {each' : Exchange → Prop} {keeps' : Bool → Prop}
    (extended : Extended each keeps log before after)
    (wider : ∀ exchange, each exchange → each' exchange)
    (closer : ∀ mode, keeps' mode → keeps mode) :
    Extended each' keeps' log before after :=
  ⟨extended.noted, fun exchange member => wider exchange (extended.each exchange member),
    extended.grown, fun mode kept => extended.steady mode (closer mode kept)⟩

theorem trans (first : Extended each keeps earlier before between)
    (second : Extended each keeps later between after) :
    Extended each keeps (earlier ++ later) before after := by
  obtain ⟨entries, among, grown⟩ := first.grown
  obtain ⟨entries', among', grown'⟩ := second.grown
  refine ⟨?_, ?_, ⟨entries ++ entries', ?_, ?_⟩, ?_⟩
  · rw [second.noted, first.noted, List.append_assoc]
  · intro exchange member
    exact (List.mem_append.mp member).elim (first.each exchange) (second.each exchange)
  · rw [List.filterMap_append]
    exact among.append among'
  · rw [grown', grown, List.append_assoc]
  · intro mode kept traced
    obtain ⟨still, one⟩ := first.steady mode kept traced
    obtain ⟨last, two⟩ := second.steady mode kept still
    refine ⟨last, ?_⟩
    rw [two, one, List.append_assoc]
    cases mode <;> simp

end Extended

theorem Move.performOn_extends (occasion : Occasion τ) (spares : occasion.SparesTraces)
    (move : Move) (stays : move.stays = true) (desk : Desk (τ × List Exchange)) :
    ∃ log, Extended (move.Makes occasion.setting) move.KeepsTracing log desk
      ((move.performOn occasion.recorded).run desk).2 := by
  by_cases switch : ∃ enabled, move = .invoke (.setTrace enabled)
  · obtain ⟨enabled, rfl⟩ := switch
    refine ⟨[], ⟨?_, by simp, ⟨[], List.nil_sublist _, ?_⟩, fun mode kept _ => ⟨kept, ?_⟩⟩⟩
    · exact (List.append_nil _).symm
    · exact (List.append_nil _).symm
    · cases mode <;> exact (List.append_nil _).symm
  · have unswitched (enabled : Value) : move ≠ .invoke (.setTrace enabled) :=
      fun same => switch ⟨enabled, same⟩
    obtain ⟨log, logged⟩ := move.performOn_logs occasion spares stays unswitched desk
    exact ⟨log, .of_logged logged⟩

/-- The same moves, every call of an executor being recorded. -/
def recordedMoves (moves : List (Occasion τ × Move)) : List (Occasion (τ × List Exchange) × Move) :=
  moves.map fun step => (step.1.recorded, step.2)

theorem runOn_extends (moves : List (Occasion τ × Move))
    (stays : ∀ step ∈ moves, step.2.stays = true) (spares : ∀ step ∈ moves, step.1.SparesTraces)
    (desk : Desk (τ × List Exchange)) :
    ∃ log, Extended (fun exchange => ∃ step ∈ moves, step.2.Makes step.1.setting exchange)
      (fun mode => ∀ step ∈ moves, step.2.KeepsTracing mode) log desk
      (runOn (recordedMoves moves) desk) := by
  induction moves generalizing desk with
  | nil => exact ⟨[], .of_logged ⟨(List.append_nil _).symm, by simp, rfl, by
      unfold Desk.entries
      split <;> exact (List.append_nil _).symm⟩⟩
  | cons step rest ih =>
    obtain ⟨occasion, move⟩ := step
    obtain ⟨earlier, first⟩ := move.performOn_extends occasion (spares _ List.mem_cons_self)
      (stays _ List.mem_cons_self) desk
    obtain ⟨later, second⟩ := ih (fun step member => stays step (List.mem_cons_of_mem _ member))
      (fun step member => spares step (List.mem_cons_of_mem _ member))
      ((move.performOn occasion.recorded).run desk).2
    refine ⟨earlier ++ later, .trans (first.mono ?_ ?_) (second.mono ?_ ?_)⟩
    · exact fun exchange made => ⟨_, List.mem_cons_self, made⟩
    · exact fun mode kept => kept _ List.mem_cons_self
    · rintro exchange ⟨step, member, made⟩
      exact ⟨step, List.mem_cons_of_mem _ member, made⟩
    · exact fun mode kept step member => kept step (List.mem_cons_of_mem _ member)

/-- The traces are the log of the executor. Over any run of moves, whatever the executor answers and
whichever moves fail, the traces stay and are followed by entries of the calls that the executor has
had since, in their order: by all of them if tracing is on throughout, by none if it is off
throughout or if there is no executor. Where the statements are texts every call has an entry, with
its statement, its arguments and the text of its failure. -/
theorem traces_log_exchanges (moves : List (Occasion τ × Move))
    (stays : ∀ step ∈ moves, step.2.stays = true) (spares : ∀ step ∈ moves, step.1.SparesTraces)
    (desk : Desk (τ × List Exchange)) :
    let last := runOn (recordedMoves moves) desk
    ∃ log entries, last.outside.2 = desk.outside.2 ++ log ∧
      last.builder.traces = desk.builder.traces ++ entries ∧
      entries.Sublist (log.filterMap Exchange.trace?) ∧
      (∀ mode, desk.builder.settings.tracing.isTrue = mode →
        (∀ step ∈ moves, step.2.KeepsTracing mode) →
          entries = if mode then log.filterMap Exchange.trace? else []) ∧
      ((∀ step ∈ moves, step.1.setting.executor = none) → log = []) ∧
      ((∀ step ∈ moves, step.2.IsTextual) → ∀ exchange ∈ log,
        ∃ text, exchange.statement = .text text ∧
          exchange.trace? = some ⟨text, exchange.arguments, exchange.failure⟩) := by
  intro last
  obtain ⟨log, extended⟩ := runOn_extends moves stays spares desk
  obtain ⟨entries, among, grown⟩ := extended.grown
  refine ⟨log, entries, extended.noted, grown, among, ?_, ?_, ?_⟩
  · intro mode traced kept
    obtain ⟨-, exact⟩ := extended.steady mode kept traced
    exact List.append_cancel_left (grown.symm.trans exact)
  · intro silent
    cases calls : log with
    | nil => rfl
    | cons exchange others =>
      obtain ⟨step, member, call, -, present, -⟩ := extended.each exchange (by simp [calls])
      exact absurd (silent step member) present
  · intro textual exchange member
    obtain ⟨step, among, call, invoked, -, sent⟩ := extended.each exchange member
    have written := textual step among
    rw [invoked] at written
    obtain ⟨text, same⟩ := sent.text written
    exact ⟨text, same, Exchange.trace?_text _ same⟩

/-- A desk behind a call of the executor, which has its entry. -/
def Desk.entered (text : String) (exchange : Exchange) (desk : Desk (Unit × List Exchange)) :
    Desk (Unit × List Exchange) :=
  { desk with
    outside := ((), desk.outside.2 ++ [exchange])
    builder := { desk.builder with
      traces := desk.builder.traces ++ [⟨text, exchange.arguments, exchange.failure⟩] } }

/-- Whatever the statement is, the same comes of it. -/
def replying (outcome : Except Error Report) : Setting Unit :=
  { executor := some fun _ _ outside => (outcome, outside) }

theorem run_dispatch_traced (outcome : Except Error Report) (text : String) (arguments : List Value)
    (desk : Desk (Unit × List Exchange)) (traced : desk.builder.settings.tracing.isTrue = true) :
    (dispatch (replying outcome).recorded (.text text) arguments).run desk =
      (outcome.map some, desk.entered text ⟨.text text, arguments, outcome⟩) := by
  have entry : (traceOf (.text text) arguments outcome).toOption = _ :=
    Exchange.trace?_text ⟨.text text, arguments, outcome⟩ rfl
  cases entered : traceOf (.text text) arguments outcome with
  | error flaws => simp [entered, Except.toOption] at entry
  | ok trace =>
    rw [entered] at entry
    obtain rfl := Option.some.inj entry
    have sent : (send (Executor.recorded fun _ _ outside => (outcome, outside)) (.text text)
        arguments).run desk = (outcome, desk.entered text ⟨.text text, arguments, outcome⟩) := by
      change send _ _ _ desk = _
      unfold send ExceptT.mk Executor.recorded
      dsimp only
      rw [if_pos traced, entered]
      rfl
    cases outcome with
    | error reason => exact run_bind_error sent _
    | ok report => exact run_bind_ok sent _

def fromTable : Fragment :=
  ⟨"SELECT * FROM T", []⟩

/-- A builder that is its own destination, tracing being on. -/
def tracedReader : Desk (Unit × List Exchange) :=
  ⟨{ clauses := { tables := [.text "T"] }, settings := { tracing := .truth true }
     binding := some ⟨0, .record⟩ }, [.builder 0 [] []], ((), [])⟩

/-- The builder behind its select. -/
def tracedSelect (outcome : Except Error Report) : Desk (Unit × List Exchange) :=
  (tracedReader.begun.kept fromTable).entered fromTable.text ⟨.text fromTable.text, [], outcome⟩

theorem run_select_traced (outcome : Except Error Report) :
    (execute (replying outcome).recorded fromTable).run tracedReader.begun =
      (outcome.map some, tracedSelect outcome) := by
  rw [execute_balanced _ fromTable selected_balanced]
  exact run_dispatch_traced outcome fromTable.text [] _ rfl

/-- A select of a builder that is its own destination or not. -/
def selectOn (itself : Bool) (outcome : Except Error Report) : List (Occasion Unit × Move) :=
  [({ setting := replying outcome, itself := itself }, .invoke (.terminal (.get [])))]

theorem failedSelect_logged :
    let moves := selectOn false (.error .noConnection)
    let last := runOn (recordedMoves moves) tracedReader
    (∀ step ∈ moves, step.2.stays = true) ∧ (∀ step ∈ moves, step.1.SparesTraces) ∧
      last.outside.2 = [⟨.text "SELECT * FROM T", [], .error .noConnection⟩] ∧
      last.builder.traces = [⟨"SELECT * FROM T", [], some (Error.message .noConnection)⟩] := by
  intro moves last
  have stays : ∀ step ∈ moves, step.2.stays = true := by simp [moves, selectOn, Move.stays]
  have spares : ∀ step ∈ moves, step.1.SparesTraces := by
    simp [moves, selectOn, Occasion.SparesTraces]
  have ran : ((TerminalCall.get []).performAs false
      (replying (.error .noConnection)).recorded).run tracedReader =
        (.error .noConnection, (tracedSelect (.error .noConnection)).closed) := by
    refine (run_given rfl selected_rendered).trans ?_
    exact congrArg (conclude _) (run_bind_error (run_select_traced _) _)
  have called : last.outside.2 = [⟨.text "SELECT * FROM T", [], .error .noConnection⟩] := by
    have left : last = (tracedSelect (.error .noConnection)).closed := congrArg Prod.snd ran
    rw [left]
    rfl
  obtain ⟨log, entries, noted, grown, -, steady, -, -⟩ :=
    traces_log_exchanges moves stays spares tracedReader
  have kept : ∀ step ∈ moves, step.2.KeepsTracing true := by
    simp [moves, selectOn, Move.KeepsTracing]
  have all := steady true rfl kept
  have single : log = [⟨.text "SELECT * FROM T", [], .error .noConnection⟩] :=
    noted.symm.trans called
  rw [if_pos rfl, single, List.filterMap_cons_some (Exchange.trace?_text _ rfl)] at all
  exact ⟨stays, spares, called, grown.trans (congrArg _ all)⟩

/-- A row of its own that names the traces and holds none. -/
def clearing : Report :=
  { columns := ["traces"], rows := [[.list []]] }

/-- The fields of the builder as they are written out, the row laid over them. -/
def clearedEntries : Entries :=
  merge [(.text "traces", .list [])] (Entries.ofPairs (writtenFields Builder.recordTypes
    Builder.recordType.fields (tracedSelect (.ok clearing)).builder.fields))

theorem clearedEntries_fitted : ∀ rule ∈ Builder.recordType.fields,
    ∃ fitted, rule.fitted Builder.recordTypes false clearedEntries = .ok fitted := by
  unfold Builder.recordType
  simp only [List.forall_mem_cons]
  refine ⟨?_, ?_, ?_, ?_, ?_, ?_, ?_, ?_, ?_, ?_, ?_, ?_, ?_, ?_, ?_, ?_, ?_, ?_, ?_, ?_, ?_, ?_,
    ?_⟩
  -- One goal for each field, and one for the end of the list.
  case refine_23 => simp
  all_goals
    exact ⟨_, FieldRule.fitted_of_present rfl (by rw [fit.eq_def]; rfl)⟩

def clearedFields : FieldValues :=
  replaceFields ["traces"] (Builder.recordType.fittedFields Builder.recordTypes clearedEntries)
    (tracedSelect (.ok clearing)).builder.fields

theorem clearing_paths : Builder.recordTypes.columnPaths "Builder" clearing.columns =
    [some [("traces", "traces")]] := by
  decide +kernel

theorem clearing_loaded :
    load [] .record (.builder 0 (tracedSelect (.ok clearing)).builder.fields []) clearing.columns
      clearing.rows = (.ok 1, .builder 0 clearedFields [("traces", .list [])]) := by
  have checked : loadRecord Builder.recordTypes "Builder"
      (tracedSelect (.ok clearing)).builder.fields clearing.columns [.list []] =
        .ok clearedFields := by
    have assembled : assemble [some [("traces", "traces")]] [.list []] =
        .ok (.mapping [(.text "traces", .list [])]) := rfl
    have laid : overlay (.mapping [(.text "traces", .list [])]) (some (written Builder.recordTypes
        (.record "Builder" (tracedSelect (.ok clearing)).builder.fields))) =
          .mapping clearedEntries := rfl
    exact loadRecord_laid clearing_paths assembled (List.cons_ne_nil _ _) laid rfl
      clearedEntries_fitted
  have emptied : FieldRule.fitted Builder.recordTypes false clearedEntries
      { name := "traces", type := .listOf (.record Trace.recordType.name) } =
        .ok { value := .list [], score := _ } :=
    FieldRule.fitted_of_present rfl (by rw [fit.eq_def]; rfl)
  have changed : clearedFields.filter (fun field => ["traces"].contains field.1) =
      [("traces", Fitted.valueOf (FieldRule.fitted Builder.recordTypes false clearedEntries
        { name := "traces", type := .listOf (.record Trace.recordType.name) }))] := rfl
  have touched : touchedFields (Builder.recordTypes.columnPaths "Builder" clearing.columns) =
      ["traces"] := by
    rw [clearing_paths]
    rfl
  have rows : clearing.rows = [[.list []]] := rfl
  unfold load
  rw [rows]
  dsimp only
  rw [List.append_nil, checked]
  dsimp only
  rw [touched, changed, emptied]
  rfl

/-- What the row makes of the builder. -/
def cleared : Desk (Unit × List Exchange) :=
  let before := tracedSelect (.ok clearing)
  let builder := Builder.assign before.builder ("traces", .list [])
  { before with builder := { builder with results := { builder.results with count := 1 } } }

theorem takeBound_clearing (binding : Option Binding) :
    (takeBound true [] binding (some clearing)).run (tracedSelect (.ok clearing)) =
      (.ok (), cleared) := by
  have loaded : (loadItself [] clearing).run (tracedSelect (.ok clearing)) =
      (.ok 1, { tracedSelect (.ok clearing) with
        builder := Builder.assign (tracedSelect (.ok clearing)).builder
          ("traces", .list []) }) := by
    change loadItself [] clearing (tracedSelect (.ok clearing)) = _
    unfold loadItself ExceptT.mk
    dsimp only
    rw [clearing_loaded]
    rfl
  change (loadItself [] clearing >>= fun count =>
    changeResults fun results => { results with count := count }).run _ = _
  rw [run_bind_ok loaded]
  rfl

/-- Octets that stand for no text. -/
def strayOctets : Value :=
  .octets [0xFF]

def readOctets : List (Occasion Unit × Move) :=
  [({ setting := replying (.ok {}) }, .invoke (.terminal (.rawQuery strayOctets [])))]

/-- The call of the executor is on record, but the trace of it is not valid. -/
def octetsSent : Desk (Unit × List Exchange) :=
  { tracedReader.begun with
    builder := { tracedReader.begun.builder with
      results := { query := strayOctets } }
    outside := ((), [⟨strayOctets, [], .ok {}⟩]) }

theorem run_readOctets :
    ((TerminalCall.rawQuery strayOctets []).performAs false (replying (.ok {})).recorded).run
      tracedReader =
        (.error (.invalid [(.textEncoding, [.field "query"])]), octetsSent.closed) := by
  have unfit : traceOf strayOctets [] (.ok {}) = .error [(.textEncoding, [.field "query"])] := by
    unfold traceOf fitNamed
    rw [fit]
    rfl
  let kept : Desk (Unit × List Exchange) := { octetsSent with outside := ((), []) }
  have sent : (send (Executor.recorded fun _ _ outside => (.ok {}, outside)) strayOctets []).run
      kept = (.error (.invalid [(.textEncoding, [.field "query"])]), octetsSent) := by
    change send _ _ _ kept = _
    unfold send ExceptT.mk Executor.recorded
    dsimp only
    have traced : kept.builder.settings.tracing.isTrue = true := rfl
    rw [if_pos traced, unfit]
    rfl
  have executed : (executeLoose (replying (.ok {})).recorded strayOctets []).run
      tracedReader.begun =
        (.error (.invalid [(.textEncoding, [.field "query"])]), octetsSent) := by
    have balanced : Placeholder.checkBalance strayOctets 0 = .ok () := rfl
    unfold executeLoose
    rw [List.length_nil, balanced]
    exact run_bind_error sent _
  refine (run_scope _ (fun _ => pure none) (fun _ _ => none) (fun _ _ => rfl) tracedReader).trans ?_
  rw [run_bind_ok (run_builder _), run_bind_error executed]
  rfl

/-- Two ways in which a call of the executor is left without its entry: a row of the builder's own
takes it away, and a statement of octets has none if it stands for no text. -/
theorem exchanges_without_entry :
    let first := runOn (recordedMoves (selectOn true (.ok clearing))) tracedReader
    let second := runOn (recordedMoves readOctets) tracedReader
    (first.outside.2.length = 1 ∧ first.builder.traces = [] ∧
        first.builder.settings.tracing.isTrue = true) ∧
      second.outside.2.length = 1 ∧ second.builder.traces = [] ∧
        second.builder.settings.tracing.isTrue = true := by
  intro first second
  constructor
  · have ran : ((TerminalCall.get []).performAs true (replying (.ok clearing)).recorded).run
        tracedReader = (.ok none, cleared.closed) := by
      refine (run_given rfl selected_rendered).trans ?_
      rw [run_bind_ok (run_select_traced _), run_bind_ok (run_builder _)]
      exact congrArg (conclude _) (run_bind_ok (takeBound_clearing _) _)
    have left : first = cleared.closed := congrArg Prod.snd ran
    rw [left]
    exact ⟨rfl, rfl, rfl⟩
  · have left : second = octetsSent.closed := congrArg Prod.snd run_readOctets
    rw [left]
    exact ⟨rfl, rfl, rfl⟩

end Querywright
