import Querywright.Proofs.UnboundWork

/-! The rows of a terminal operation. A call that fetches rows is its main statement, what takes the
rows over, and the total when it is asked for. Where the main statement is answered with columns,
the answer is loaded once, into what is bound or over the builder itself; else what is bound is of
no account. -/
namespace Querywright
open Work

variable {τ : Type}

namespace TerminalCall

/-- Whether the rows go to what is bound. -/
def takesBound : TerminalCall → Bool
  | .get _ | .getOne _ | .paginate .. | .rawQuery .. | .rawQueryOne .. => true
  | _ => false

/-- The new destination of a call that gives back what was fetched. -/
def ownDestination? : TerminalCall → Option (Destination × Sink)
  | .getValue _ | .rawQueryValue .. => some (.holder .anything .null, .holder)
  | .getValues _ | .rawQueryValues .. => some (.list [], .list (.scalar .anything))
  | _ => none

/-- A text to be completed is one. -/
def IsCompleted : TerminalCall → Prop
  | .rawQueryOne text _ | .rawQueryValue text _ => ∃ content, text = .text content
  | _ => True

def selectMain (setting : Setting τ) (columns : List Value) : Work τ (Option Report) := do
  execute setting (← ofResult ((← pending).select columns))

def limitOne : Work τ Unit :=
  changeClauses fun clauses => { clauses with limit := [.integer 1] }

/-- The main statement of a call that fetches rows, from what it makes of the clauses before to the
answer; no other call needs one. -/
def main (setting : Setting τ) : TerminalCall → Work τ (Option Report)
  | .get columns => selectMain setting columns
  | .getValues column => selectMain setting [column]
  | .getOne columns => do limitOne; selectMain setting columns
  | .getValue column => do limitOne; selectMain setting [column]
  | .paginate page columns => do
    let window ← ofResult (pageWindow page (← builder).settings.pageLimit)
    changeClauses fun clauses => { clauses with limit := window, totalRequested := true }
    selectMain setting columns
  | .rawQuery text values | .rawQueryValues text values => executeLoose setting text values
  | .rawQueryOne text values | .rawQueryValue text values => do
    let text ← ofResult (Builder.textOf text)
    executeLoose setting (.text (text ++ " LIMIT 1")) values
  | _ => return none

/-- What goes on when the rows have been taken over. -/
def rest (setting : Setting τ) (call : TerminalCall) : Work τ Unit :=
  match call.selected? with
  | some columns => do if (← pending).totalRequested then fetchTotal setting columns
  | none => return ()

def fetch (itself : Bool) (setting : Setting τ) (call : TerminalCall) : Work τ Unit := do
  let report ← call.main setting
  takeBound itself setting.schema (← builder).binding report
  call.rest setting

/-- The desk at the beginning of the statement. -/
def entered (call : TerminalCall) (desk : Desk τ) : Desk τ :=
  match call.ownDestination? with
  | some (destination, sink) => (desk.bound destination sink).begun
  | none => desk.begun

/-- The shelf with the new destination of the call, if it has one. -/
def furnished (call : TerminalCall) (shelf : Shelf) : Shelf :=
  shelf ++ (call.ownDestination?.map Prod.fst).toList

/-- Where the rows of the call go, if anywhere. -/
def target? (call : TerminalCall) (bound : Option Binding) (shelf : Shelf) : Option Binding :=
  if call.takesBound then bound
  else call.ownDestination?.map fun own => ⟨shelf.length, own.2⟩

/-- The answer to the main statement, if that is executed without an error. -/
def answer? (setting : Setting τ) (call : TerminalCall) (desk : Desk τ) : Option Report :=
  ((call.main setting).run (call.entered desk)).1.toOption.join

section Kinds

variable {call : TerminalCall}

theorem ownless_of_takes (takes : call.takesBound = true) : call.ownDestination? = none := by
  cases call with
  | get | getOne | paginate | rawQuery | rawQueryOne => rfl
  | _ => cases takes

theorem elsewhere_of_owns {own : Destination × Sink} (owns : call.ownDestination? = some own) :
    call.takesBound = false := by
  cases takes : call.takesBound with
  | false => rfl
  | true =>
    rw [ownless_of_takes takes] at owns
    cases owns

theorem performAs_elsewhere (elsewhere : call.takesBound = false) (itself : Bool)
    (setting : Setting τ) : call.performAs itself setting = call.perform setting := by
  cases call with
  | get | getOne | paginate | rawQuery | rawQueryOne => cases elsewhere
  | _ => rfl

theorem entered_ownless (ownless : call.ownDestination? = none) (desk : Desk τ) :
    call.entered desk = desk.begun := by
  rw [entered, ownless]

/-- A destination of its own takes the place of what is bound. -/
theorem entered_own {own : Destination × Sink} (owns : call.ownDestination? = some own)
    (desk : Desk τ) : call.entered desk = (desk.bound own.1 own.2).begun := by
  rw [entered, owns]

end Kinds

section Parts

variable (setting : Setting τ)

theorem selectMain_blind (columns : List Value) : IsBlind (selectMain setting columns) :=
  .bind .pending fun _ => .bind (.ofResult _) fun _ => .execute setting _

theorem main_blind (call : TerminalCall) : IsBlind (call.main setting) := by
  cases call with
  | get columns => exact selectMain_blind setting columns
  | getValues column => exact selectMain_blind setting [column]
  | getOne columns => exact .bind (.changeClauses _) fun _ => selectMain_blind setting columns
  | getValue column => exact .bind (.changeClauses _) fun _ => selectMain_blind setting [column]
  | paginate page columns =>
    refine .reading (fun _ => rfl) fun builder => .bind (.ofResult _) fun window => ?_
    exact .bind (.changeClauses _) fun _ => selectMain_blind setting columns
  | rawQuery text values | rawQueryValues text values => exact .executeLoose setting text values
  | rawQueryOne text values | rawQueryValue text values =>
    exact .bind (.ofResult _) fun _ => .executeLoose setting _ values
  | _ => exact .pure none

theorem rest_blind (call : TerminalCall) : IsBlind (call.rest setting) := by
  unfold rest
  split
  · rename_i columns selects
    refine .bind .pending fun clauses => ?_
    split
    · exact .fetchTotal setting columns
    · exact .pure ()
  · exact .pure ()

/-- The end of a call that fetches rows. -/
def reply (call : TerminalCall) (desk : Desk τ) (_ : Unit) (after : Desk τ) : Option Value :=
  call.ownDestination?.map fun _ => slotValue desk.shelf.length after

/-- The builder is looked at before a written statement is executed, which makes no difference. -/
theorem raw_fetched (itself : Bool) (text : Value) (values : List Value) (desk : Desk τ) :
    (do takeBound itself setting.schema (← builder).binding
          (← executeLoose setting text values) : Work τ Unit).run desk =
      (do
        let report ← executeLoose setting text values
        takeBound itself setting.schema (← builder).binding report
        return () : Work τ Unit).run desk := by
  have blind : IsBlind (executeLoose setting text values) := .executeLoose setting text values
  have kept := blind.binding desk
  rw [run_bind_ok (run_builder desk), run_bind, run_bind]
  -- What is bound is the same in front of the statement and behind it.
  cases ran : (executeLoose setting text values).run desk with
  | mk result after =>
    rw [ran] at kept
    cases result with
    | error reason => rfl
    | ok report =>
      dsimp only
      rw [run_bind_ok (run_builder after), kept]
      exact congrArg (fun work : Work τ Unit => work.run after) bind_pure_unit.symm

/-- A select with what belongs to it, in the order in which it is gone through. -/
theorem selectBound_parts (itself : Bool) (columns : List Value) :
    selectBound itself setting columns = (do
      let report ← selectMain setting columns
      takeBound itself setting.schema (← builder).binding report
      if (← pending).totalRequested then fetchTotal setting columns : Work τ Unit) := by
  unfold selectMain
  simp only [bind_assoc]
  rfl

/-- A call that fetches rows is its main statement, the rows and the rest, in a scope. -/
theorem performAs_bound (itself : Bool) (call : TerminalCall) (completed : call.IsCompleted)
    (takes : call.takesBound = true) (desk : Desk τ) :
    (call.performAs itself setting).run desk =
      conclude (call.reply desk) ((call.fetch itself setting).run (call.entered desk)) := by
  cases call with
  | get columns =>
    refine (run_scope _ _ (fun _ _ => none) (fun _ _ => rfl) desk).trans ?_
    rw [selectBound_parts, fetch]
    rfl
  | getOne columns =>
    refine (run_scope _ _ (fun _ _ => none) (fun _ _ => rfl) desk).trans ?_
    rw [selectBound_parts, fetch, main, bind_assoc]
    rfl
  | paginate page columns =>
    refine (run_scope _ _ (fun _ _ => none) (fun _ _ => rfl) desk).trans ?_
    simp only [selectBound_parts, fetch, main, bind_assoc]
    rfl
  | rawQuery text values =>
    refine (run_scope _ _ (fun _ _ => none) (fun _ _ => rfl) desk).trans ?_
    rw [raw_fetched, fetch]
    rfl
  | rawQueryOne text values =>
    obtain ⟨content, rfl⟩ := completed
    simp only [performAs, rawQueryOneBound, Builder.textOf, ofResult_ok, pure_bind]
    refine (run_scope _ _ (fun _ _ => none) (fun _ _ => rfl) desk).trans ?_
    rw [raw_fetched, fetch]
    simp only [main, Builder.textOf, ofResult_ok, pure_bind]
    rfl
  | _ => cases takes

theorem perform_own (call : TerminalCall) (completed : call.IsCompleted)
    {own : Destination × Sink} (owns : call.ownDestination? = some own) (desk : Desk τ) :
    (call.perform setting).run desk =
      conclude (call.reply desk) ((call.fetch false setting).run (call.entered desk)) := by
  have holder : Builder.freshHolder.run desk = (.ok desk.shelf.length, desk.boundHolder) := rfl
  have list : Builder.freshList.run desk = (.ok desk.shelf.length, desk.boundList) := rfl
  cases call with
  | getValue column =>
    refine (run_fetched holder (do limitOne; selectBound false setting [column])).trans ?_
    rw [selectBound_parts, fetch, main, bind_assoc]
    rfl
  | getValues column =>
    refine (run_fetched list (selectBound false setting [column])).trans ?_
    rw [selectBound_parts, fetch]
    rfl
  | rawQueryValue text values =>
    obtain ⟨content, rfl⟩ := completed
    simp only [perform, Builder.rawQueryValue, Builder.rawQueryOne, Builder.textOf, ofResult_ok,
      pure_bind]
    refine (run_fetched holder _).trans (congrArg (conclude _) ?_)
    refine (raw_fetched setting false _ values _).trans ?_
    simp only [fetch, main, Builder.textOf, ofResult_ok, pure_bind]
    rfl
  | rawQueryValues text values =>
    refine (run_fetched list _).trans (congrArg (conclude _) ?_)
    exact raw_fetched setting false text values _
  | _ => cases owns

end Parts

end TerminalCall

namespace Work

/-- A text has a trace, so tracing does not come between a statement and its answer. -/
theorem send_result (executor : Executor τ) (text : String) (arguments : List Value)
    (desk : Desk τ) : ((send executor (.text text) arguments).run desk).1 =
      (executor (.text text) arguments desk.outside).1 := by
  have fitted : fitNamed "query" .text (.text text) = .ok (.text text) := by
    unfold fitNamed
    rw [fit]
    rfl
  unfold send ExceptT.mk traceOf
  dsimp only [ExceptT.run]
  rw [fitted]
  split <;> rfl

theorem dispatch_result {setting : Setting τ} {executor : Executor τ}
    (present : setting.executor = some executor) (text : String) (arguments : List Value)
    (desk : Desk τ) : ((dispatch setting (.text text) arguments).run desk).1 =
      (executor (.text text) arguments desk.outside).1.map some := by
  have answer := send_result executor text arguments desk
  rw [dispatch, present, run_bind, ← answer]
  cases (send executor (.text text) arguments).run desk with
  | mk result after => cases result <;> rfl

end Work

/-- The executor has answered a statement with as many values as placeholders. -/
structure IsAnswered (setting : Setting τ) (statement : Fragment) (outside : τ) (report : Report) :
    Prop where
  balanced : statement.isBalanced = true
  answer : ∃ executor, setting.executor = some executor ∧
    (executor (.text statement.text) statement.arguments outside).1 = .ok report

theorem Work.execute_answered (setting : Setting τ) (statement : Fragment) (desk : Desk τ)
    (report : Report) :
    ((execute setting statement).run desk).1 = .ok (some report) ↔
      IsAnswered setting statement desk.outside report := by
  cases balanced : statement.isBalanced with
  | false =>
    rw [execute_unbalanced setting statement balanced]
    refine ⟨nofun, fun answered => ?_⟩
    cases balanced.symm.trans answered.balanced
  | true =>
    rw [execute_balanced setting statement balanced]
    cases present : setting.executor with
    | none =>
      have silent : (dispatch setting (.text statement.text) statement.arguments).run
          (desk.kept statement) = (.ok none, desk.kept statement) := by
        rw [dispatch, present]
        rfl
      rw [silent]
      refine ⟨nofun, fun answered => ?_⟩
      obtain ⟨executor, given, -⟩ := answered.answer
      cases present.symm.trans given
    | some executor =>
      rw [dispatch_result present]
      constructor
      · intro answer
        refine ⟨balanced, executor, present, ?_⟩
        obtain ⟨given, answer, ⟨⟩⟩ := map_success answer
        exact answer
      · rintro ⟨-, other, given, answer⟩
        obtain rfl : executor = other := Option.some.inj (present.symm.trans given)
        exact congrArg (Except.map some) answer

namespace TerminalCall

variable (setting : Setting τ) (call : TerminalCall)

theorem main_opened (textual : call.IsTextual)
    (fetches : call.takesBound = true ∨ call.ownDestination?.isSome = true) (desk : Desk τ) :
    ((call.main setting).run (call.entered desk)).1 =
      call.opened setting desk >>= fun opening =>
        ((do execute setting (← ofResult (opening.1.render (← pending)))).run opening.2).1 := by
  cases call with
  | get | getOne | getValue | getValues => rfl
  | paginate page columns =>
    change ((ofResult (pageWindow page desk.builder.settings.pageLimit) >>= fun window =>
      (do
        changeClauses fun clauses => { clauses with limit := window, totalRequested := true }
        selectMain setting columns : Work τ _)).run desk.begun).1 =
      (pageWindow page desk.builder.settings.pageLimit).map (fun window =>
        (Rendering.select columns, desk.begun.windowed window)) >>= _
    cases pageWindow page desk.builder.settings.pageLimit <;> rfl
  | rawQuery text values | rawQueryValues text values =>
    obtain ⟨content, rfl⟩ := textual
    simp only [main, executeLoose_text]
    rfl
  | rawQueryOne text values | rawQueryValue text values =>
    obtain ⟨content, rfl⟩ := textual
    simp only [main, Builder.textOf, ofResult_ok, pure_bind, executeLoose_text]
    rfl
  | _ => rcases fetches with takes | owns <;> contradiction

/-- The call comes to its main statement, which is rendered and answered with this report. -/
def IsReported (setting : Setting τ) (call : TerminalCall) (desk : Desk τ) (report : Report) :
    Prop :=
  ∃ rendering entry statement, call.opened setting desk = .ok (rendering, entry) ∧
    rendering.render entry.builder.clauses = .ok statement ∧
    IsAnswered setting statement desk.outside report

theorem answer?_iff (textual : call.IsTextual)
    (fetches : call.takesBound = true ∨ call.ownDestination?.isSome = true) (desk : Desk τ)
    (report : Report) :
    call.answer? setting desk = some report ↔ call.IsReported setting desk report := by
  have joined (result : Except Error (Option Report)) :
      result.toOption.join = some report ↔ result = .ok (some report) := by
    rcases result with reason | none | given <;> simp [Except.toOption]
  rw [answer?, joined, IsReported, call.main_opened setting textual fetches]
  cases opens : call.opened setting desk with
  | error reason => exact ⟨nofun, fun ⟨_, _, _, impossible, _⟩ => nomatch impossible⟩
  | ok opening =>
    obtain ⟨rendering, entry⟩ := opening
    obtain ⟨outside, -⟩ := call.perform_opened setting textual desk rendering entry opens
    change ((ofResult (rendering.render entry.builder.clauses) >>= _).run entry).1 = _ ↔ _
    cases rendered : rendering.render entry.builder.clauses with
    | error reason =>
      refine ⟨nofun, ?_⟩
      rintro ⟨_, _, statement, ⟨⟩, written, -⟩
      cases rendered.symm.trans written
    | ok statement =>
      rw [← outside]
      refine (execute_answered setting statement entry report).trans ⟨fun answered => ?_, ?_⟩
      · exact ⟨rendering, entry, statement, rfl, rendered, answered⟩
      · rintro ⟨_, _, other, ⟨⟩, written, answered⟩
        obtain rfl : statement = other := Except.ok.inj (rendered.symm.trans written)
        exact answered

end TerminalCall

/-- What goes on behind the rows: the destinations and the settings stay, and so do the results but
for the total. -/
structure Settled (before after : Desk τ) : Prop where
  shelf : after.shelf = before.shelf
  settings : after.builder.settings = before.builder.settings
  results : ∃ total pages,
    after.builder.results = { before.builder.results with total := total, pages := pages }

instance : Std.Refl (Settled (τ := τ)) where
  refl _ := ⟨rfl, rfl, _, _, rfl⟩

instance : IsTrans (Desk τ) Settled where
  trans _ _ _ first second := by
    obtain ⟨_, _, one⟩ := first.results
    obtain ⟨total, pages, other⟩ := second.results
    refine ⟨second.shelf.trans first.shelf, second.settings.trans first.settings, total, pages, ?_⟩
    rw [other, one]

namespace Work

theorem dispatch_settled (setting : Setting τ) (statement : Value) (arguments : List Value) :
    Moves Settled (dispatch setting statement arguments) := by
  unfold dispatch
  split
  · exact .pure none
  · refine .bind (fun desk => ?_) fun _ => .pure _
    unfold send ExceptT.mk
    dsimp only [ExceptT.run]
    split
    · split <;> exact ⟨rfl, rfl, _, _, rfl⟩
    · exact ⟨rfl, rfl, _, _, rfl⟩

theorem fetchTotal_settled (setting : Setting τ) (columns : List Value) :
    Moves Settled (fetchTotal setting columns) := by
  refine .bind (.of_same fun _ => rfl) fun clauses => .bind (.ofResult _) fun statement => ?_
  refine .bind (.bind (.ofResult _) fun _ => dispatch_settled setting _ _) fun report => ?_
  split
  · exact .pure ()
  · refine .bind (.ofResult _) fun total => .bind (fun _ => ⟨rfl, rfl, _, _, rfl⟩) fun _ => ?_
    refine .bind (.of_same fun _ => rfl) fun builder => .bind (.ofResult _) fun pages => ?_
    exact fun _ => ⟨rfl, rfl, _, _, rfl⟩

theorem rest_settled (setting : Setting τ) (call : TerminalCall) :
    Moves Settled (call.rest setting) := by
  unfold TerminalCall.rest
  split
  · rename_i columns selects
    refine .bind (.of_same fun _ => rfl) fun clauses => ?_
    split
    · exact fetchTotal_settled setting columns
    · exact .pure ()
  · exact .pure ()

/-- Without rows to take over it does not matter where they would go. -/
theorem takeBound_rowless (itself : Bool) (schema : Schema) (binding : Option Binding)
    {report : Option Report} (rowless : ∀ answer, report = some answer → answer.columns = []) :
    takeBound itself schema binding report = (takeRows schema none report : Work τ Unit) := by
  cases report with
  | none => cases itself <;> rfl
  | some answer =>
    have empty : answer.columns.isEmpty = true := List.isEmpty_iff.mpr (rowless answer rfl)
    cases itself <;> simp only [takeBound, takeItself, takeRows, if_pos empty] <;> rfl

end Work

/-- A builder with an answer laid over it like over a record, and what the load comes to. -/
def Builder.laid (schema : Schema) (report : Report) (builder : Builder) :
    Except Error Nat × Builder :=
  let (result, loaded) := load schema .record (.builder 0 builder.fields []) report.columns
    report.rows
  (result, loaded.changes.foldl Builder.assign builder)

namespace TerminalCall

variable (setting : Setting τ) (call : TerminalCall)

/-- The desk with the main statement behind it. -/
def answered (desk : Desk τ) : Desk τ :=
  ((call.main setting).run (call.entered desk)).2

/-- The same with nothing bound. -/
def fetchLoose : Work τ Unit := do
  takeRows setting.schema none (← call.main setting)
  call.rest setting

theorem fetchLoose_blind : IsBlind (call.fetchLoose setting) :=
  .bind (call.main_blind setting) fun report =>
    .bind (.takeRows setting.schema report) fun _ => call.rest_blind setting

theorem run_fetch (itself : Bool) (desk : Desk τ) :
    (call.fetch itself setting).run desk = (do
      takeBound itself setting.schema desk.builder.binding (← call.main setting)
      call.rest setting : Work τ Unit).run desk := by
  have kept := (call.main_blind setting).binding desk
  rw [fetch, run_bind, run_bind]
  cases ran : (call.main setting).run desk with
  | mk result after =>
    rw [ran] at kept
    cases result with
    | error reason => rfl
    | ok report =>
      dsimp only
      rw [run_bind_ok (run_builder after), kept]

theorem fetch_rowless (itself : Bool) (desk : Desk τ)
    (rowless : ∀ report, ((call.main setting).run desk).1.toOption.join = some report →
      report.columns = []) :
    (call.fetch itself setting).run desk = (call.fetchLoose setting).run desk := by
  rw [run_fetch, fetchLoose, run_bind, run_bind]
  cases ran : (call.main setting).run desk with
  | mk result after =>
    rw [ran] at rowless
    cases result with
    | error reason => rfl
    | ok report =>
      have same : takeBound itself setting.schema desk.builder.binding report =
          (takeRows setting.schema none report : Work τ Unit) :=
        takeBound_rowless itself setting.schema _ rowless
      dsimp only
      rw [same]

theorem fetch_unbound {desk : Desk τ} (unbound : desk.builder.binding = none) :
    (call.fetch false setting).run desk = (call.fetchLoose setting).run desk := by
  rw [run_fetch, unbound]
  rfl

theorem answer_reached {desk : Desk τ} {report : Report}
    (answer : call.answer? setting desk = some report) :
    (call.main setting).run (call.entered desk) =
      (.ok (some report), call.answered setting desk) := by
  unfold answer? at answer
  unfold answered
  cases ran : (call.main setting).run (call.entered desk) with
  | mk result after =>
    rw [ran] at answer
    cases result with
    | error reason => cases answer
    | ok given =>
      obtain rfl : given = some report := answer
      rfl

end TerminalCall

/-- Loaded once, and that is what the operation comes to: the count is the one of the load, and so
is a failure. -/
structure Takes {α : Type} (load : Except Error Nat × Shelf) (outcome : Except Error α × Desk τ) :
    Prop where
  shelf : outcome.2.shelf = load.2
  count : ∀ count, load.1 = .ok count → outcome.2.builder.results.count = count
  failure : ∀ reason, load.1 = .error reason → outcome.1 = .error reason

/-- Laid over the builder once: the settings are those of the row, the results as well but for the
count and the total, and a failure is the one of the load. -/
structure TakesItself {α : Type} (laid : Except Error Nat × Builder) (shelf : Shelf)
    (outcome : Except Error α × Desk τ) : Prop where
  shelf : outcome.2.shelf = shelf
  settings : outcome.2.builder.settings = laid.2.settings
  results : ∀ count, laid.1 = .ok count → ∃ total pages, outcome.2.builder.results =
    { laid.2.results with count := count, total := total, pages := pages }
  failure : ∀ reason, laid.1 = .error reason → outcome.1 = .error reason

namespace TerminalCall

variable {setting : Setting τ} {call : TerminalCall} {desk : Desk τ} {report : Report}

/-- The desk with the count that a load gives. -/
def counted (count : Nat) (desk : Desk τ) : Desk τ :=
  { desk with
    builder := { desk.builder with results := { desk.builder.results with count := count } } }

/-- What is loaded is counted, and the count outlasts the total. -/
theorem run_counted (setting : Setting τ) (call : TerminalCall) {loading : Work τ Nat}
    {answered left : Desk τ} {result : Except Error Nat}
    (ran : loading.run answered = (result, left)) {taken : Work τ Unit}
    (same : taken = do
      let count ← loading
      changeResults fun results => { results with count := count }) :
    (∀ reason, result = .error reason →
      (do taken; call.rest setting : Work τ Unit).run answered = (.error reason, left)) ∧
    ∀ count, result = .ok count → Settled (counted count left)
      ((do taken; call.rest setting : Work τ Unit).run answered).2 := by
  subst same
  constructor
  · rintro reason rfl
    exact run_bind_error (run_bind_error ran _) _
  · rintro count rfl
    have noted : (loading >>= fun count => changeResults fun results =>
        { results with count := count }).run answered = (.ok (), counted count left) :=
      run_bind_ok ran _
    rw [run_bind_ok noted]
    exact rest_settled setting call (counted count left)

theorem run_load (schema : Schema) (binding : Binding) (report : Report) (desk : Desk τ) :
    (Work.load schema binding report).run desk =
      ((desk.shelf.load schema binding report.columns report.rows).1,
        { desk with
          shelf := (desk.shelf.load schema binding report.columns report.rows).2 }) :=
  rfl

theorem run_loadItself (schema : Schema) (report : Report) (desk : Desk τ) :
    (loadItself schema report).run desk = ((desk.builder.laid schema report).1,
      { desk with builder := (desk.builder.laid schema report).2 }) :=
  rfl

theorem fetch_loaded (answer : call.answer? setting desk = some report)
    (rows : report.columns ≠ []) {binding : Binding}
    (bound : (call.entered desk).builder.binding = some binding) :
    Takes ((call.entered desk).shelf.load setting.schema binding report.columns report.rows)
      ((call.fetch false setting).run (call.entered desk)) := by
  have reached := call.answer_reached setting answer
  have shelf : (call.answered setting desk).shelf = (call.entered desk).shelf :=
    (call.main_blind setting).shelf (call.entered desk)
  have taken : takeBound false setting.schema (some binding) (some report) = (do
      let count ← Work.load setting.schema binding report
      changeResults fun results => { results with count := count } : Work τ Unit) :=
    if_neg (mt List.isEmpty_iff.mp rows)
  rw [run_fetch, run_bind_ok reached, bound, ← shelf]
  obtain ⟨failed, kept⟩ := run_counted setting call (run_load _ _ _ _) taken
  cases loaded : (call.answered setting desk).shelf.load setting.schema binding report.columns
      report.rows with
  | mk result left =>
    rw [loaded] at failed kept
    cases result with
    | error reason =>
      rw [failed reason rfl]
      refine ⟨rfl, nofun, ?_⟩
      rintro _ ⟨⟩
      rfl
    | ok count =>
      have settled := kept count rfl
      obtain ⟨total, pages, results⟩ := settled.results
      refine ⟨settled.shelf, ?_, nofun⟩
      rintro _ ⟨⟩
      exact congrArg Results.count results

theorem fetch_laid (answer : call.answer? setting desk = some report)
    (rows : report.columns ≠ []) :
    TakesItself ((call.answered setting desk).builder.laid setting.schema report)
      (call.entered desk).shelf ((call.fetch true setting).run (call.entered desk)) := by
  have reached := call.answer_reached setting answer
  have shelf : (call.answered setting desk).shelf = (call.entered desk).shelf :=
    (call.main_blind setting).shelf (call.entered desk)
  have taken : takeBound true setting.schema (call.entered desk).builder.binding (some report) = (do
      let count ← loadItself setting.schema report
      changeResults fun results => { results with count := count } : Work τ Unit) :=
    if_neg (mt List.isEmpty_iff.mp rows)
  rw [run_fetch, run_bind_ok reached, ← shelf]
  obtain ⟨failed, kept⟩ := run_counted setting call (run_loadItself _ _ _) taken
  cases laid : (call.answered setting desk).builder.laid setting.schema report with
  | mk result builder =>
    rw [laid] at failed kept
    cases result with
    | error reason =>
      rw [failed reason rfl]
      refine ⟨rfl, rfl, nofun, ?_⟩
      rintro _ ⟨⟩
      rfl
    | ok count =>
      have settled := kept count rfl
      obtain ⟨total, pages, results⟩ := settled.results
      refine ⟨settled.shelf, settled.settings, ?_, nofun⟩
      rintro _ ⟨⟩
      exact ⟨total, pages, results⟩

end TerminalCall
end Querywright
