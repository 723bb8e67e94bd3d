import Querywright.Proofs.Outcome
import Querywright.Proofs.TerminalScope

/-! The course of a terminal operation. Every call is one statement in a scope of its own: rendered,
checked, kept, sent. What cannot be rendered or does not pass the check is neither kept nor sent. -/
namespace Querywright
open Work

variable {τ : Type}

namespace Work

def mainStatement {β : Type} (setting : Setting τ) (rendering : Rendering)
    (next : Option Report → Work τ β) : Work τ β := do
  let statement ← ofResult (rendering.render (← pending))
  next (← execute setting statement)

/-- The end of a scope, and the answer read off the desk. -/
def conclude {β : Type} (answer : β → Desk τ → Option Value) :
    Except Error β × Desk τ → Except Error (Option Value) × Desk τ
  | (result, after) => (result.map fun value => answer value after.closed, after.closed)

theorem run_statement {β : Type} (body : Work τ β) (desk : Desk τ) :
    (statement body).run desk = ((body.run desk.begun).1, (body.run desk.begun).2.closed) :=
  rfl

theorem executeLoose_text (setting : Setting τ) (text : String) (values : List Value) :
    executeLoose setting (.text text) values = execute setting ⟨text, values⟩ := by
  unfold executeLoose execute Fragment.checked Fragment.isBalanced
  have counted : Placeholder.checkBalance (.text text) values.length =
      if Placeholder.count text == values.length then .ok ()
      else .error (.placeholderCount text (Placeholder.count text) values.length) := rfl
  rw [counted]
  dsimp only
  split <;> rfl

theorem execute_unbalanced (setting : Setting τ) (statement : Fragment)
    (unbalanced : statement.isBalanced = false) (desk : Desk τ) :
    (execute setting statement).run desk =
      (.error (.placeholderCount statement.text (Placeholder.count statement.text)
        statement.arguments.length), desk) := by
  unfold execute
  rw [run_bind, run_ofResult, Fragment.checked, unbalanced]
  rfl

theorem execute_balanced (setting : Setting τ) (statement : Fragment)
    (balanced : statement.isBalanced) (desk : Desk τ) :
    (execute setting statement).run desk =
      (dispatch setting (.text statement.text) statement.arguments).run (desk.kept statement) := by
  unfold execute
  rw [run_bind, run_ofResult, Fragment.checked, if_pos balanced]
  rfl

theorem run_scope {β : Type} (body : Work τ β) (next : β → Work τ (Option Value))
    (answer : β → Desk τ → Option Value)
    (reads : ∀ value desk, (next value).run desk = (.ok (answer value desk), desk))
    (desk : Desk τ) :
    (statement body >>= next).run desk = conclude answer (body.run desk.begun) := by
  rw [run_bind, run_statement]
  cases body.run desk.begun with
  | mk result after =>
    cases result with
    | error reason => rfl
    | ok value => exact reads value after.closed

/-- A scope that opens with what may be missing. -/
theorem run_given {α : Type} {body : Work τ Unit} {given : Except Error α} {value : α}
    {continued : α → Work τ Unit} {desk : Desk τ}
    (opens : body.run desk.begun = (ofResult given >>= continued).run desk.begun)
    (found : given = .ok value) :
    (do statement body; return none : Work τ (Option Value)).run desk =
      conclude (fun _ _ => none) ((continued value).run desk.begun) := by
  refine (run_scope _ (fun _ => pure none) _ (fun _ _ => rfl) desk).trans ?_
  rw [opens, found, run_bind_ok (run_ofResult _ _)]

theorem run_missing {α : Type} {body : Work τ Unit} {given : Except Error α} {reason : Error}
    {continued : α → Work τ Unit} {desk : Desk τ}
    (opens : body.run desk.begun = (ofResult given >>= continued).run desk.begun)
    (missing : given = .error reason) :
    (do statement body; return none : Work τ (Option Value)).run desk =
      (.error reason, desk.begun.closed) := by
  refine (run_scope _ (fun _ => pure none) (fun _ _ => none) (fun _ _ => rfl) desk).trans ?_
  rw [opens, missing, run_bind_error (run_ofResult _ _)]
  rfl

/-- What goes on behind a select: its rows, and their total when it is asked for. -/
def takeSelected (setting : Setting τ) (columns : List Value) (report : Option Report) :
    Work τ Unit := do
  takeRows setting.schema (← builder).binding report
  if (← pending).totalRequested then fetchTotal setting columns

theorem takeSelected_continues (setting : Setting τ) (columns : List Value)
    (report : Option Report) : Moves (Continues setting) (takeSelected setting columns report) := by
  refine .bind (.of_same fun _ => rfl) fun builder => ?_
  refine .bind (takeRows_continues setting _ _ report) fun _ => ?_
  refine .bind (.of_same fun _ => rfl) fun clauses => ?_
  split
  · exact fetchTotal_continues setting columns
  · exact .pure ()

def slotValue (slot : Nat) (desk : Desk τ) : Value :=
  match desk.shelf[slot]? with
  | some (.holder _ content) => content
  | some destination => destination.value
  | none => .null

theorem run_contentOf (slot : Nat) (desk : Desk τ) :
    (Builder.contentOf slot).run desk = (.ok (slotValue slot desk), desk) := by
  unfold Builder.contentOf slotValue
  change ((match desk.shelf[slot]? with
    | some (.holder _ content) => return content
    | some destination => return destination.value
    | none => return .null : Work τ Value)).run desk = _
  split <;> rfl

theorem run_fetched {fresh : Work τ Nat} {desk prepared : Desk τ} {slot : Nat}
    (made : fresh.run desk = (.ok slot, prepared)) (body : Work τ Unit) :
    ((do
      let slot ← fresh
      statement body
      Builder.contentOf slot) >>= fun value => (pure (some value) : Work τ (Option Value))).run desk =
      conclude (fun _ after => some (slotValue slot after)) (body.run prepared.begun) := by
  rw [bind_assoc, run_bind_ok made, bind_assoc]
  refine run_scope body _ _ ?_ prepared
  intro value after
  rw [run_bind_ok (run_contentOf slot after)]
  rfl

def takeMany (report : Option Report) : Work τ Unit := do
  takeWrite true report
  match report with
  | none => return ()
  | some report => changeResults fun results => { results with insertIds := report.insertIds }

theorem takeMany_continues (setting : Setting τ) (report : Option Report) :
    Moves (Continues setting) (takeMany report) := by
  refine .bind (takeWrite_continues setting true report) fun _ => ?_
  cases report with
  | none => exact .pure ()
  | some report => exact changeResults_continues setting _ (fun _ => rfl) fun _ => rfl

theorem rawBody_main (setting : Setting τ) (text : String) (values : List Value) (desk : Desk τ) :
    (do takeRows setting.schema (← builder).binding
          (← executeLoose setting (.text text) values) : Work τ Unit).run desk =
      (mainStatement setting (.written text values)
        (takeRows setting.schema desk.builder.binding)).run desk := by
  rw [run_bind_ok (run_builder desk), executeLoose_text]
  rfl

theorem run_write (setting : Setting τ) (inserted : Bool) (rendering : Rendering)
    {render : Clauses → Except Error Fragment}
    (same : ∀ clauses, render clauses = rendering.render clauses) (desk : Desk τ) :
    (do Builder.write setting inserted render; return none : Work τ (Option Value)).run desk =
      conclude (fun _ _ => none)
        ((mainStatement setting rendering (takeWrite inserted)).run desk.begun) := by
  obtain rfl : render = rendering.render := funext same
  exact run_scope (mainStatement setting rendering (takeWrite inserted)) (fun _ => pure none) _
    (fun _ _ => rfl) desk

theorem run_raw (setting : Setting τ) (text : String) (values : List Value) (desk : Desk τ) :
    (do Builder.rawQuery setting (.text text) values; return none : Work τ (Option Value)).run
        desk =
      conclude (fun _ _ => none) ((mainStatement setting (.written text values)
        (takeRows setting.schema desk.begun.builder.binding)).run desk.begun) := by
  rw [← rawBody_main]
  exact run_scope _ (fun _ => pure none) _ (fun _ _ => rfl) desk

@[simp] theorem ofResult_ok {β : Type} (value : β) :
    (ofResult (.ok value) : Work τ β) = pure value :=
  rfl

end Work

open Builder

/-- A call that fetches rows selects them and then, when asked to, counts them. -/
theorem TerminalCall.perform_selected (setting : Setting τ) (call : TerminalCall)
    (columns : List Value) (selects : call.selected? = some columns) (desk : Desk τ)
    (rendering : Rendering) (entry : Desk τ)
    (opens : call.opened setting desk = .ok (rendering, entry)) :
    rendering = .select columns ∧ entry.outside = desk.outside ∧ entry.builder.results = {} ∧
      ∃ answer : Unit → Desk τ → Option Value,
        (call.perform setting).run desk = conclude answer
          ((mainStatement setting rendering (takeSelected setting columns)).run entry) := by
  cases call with
  | get columns =>
    cases selects
    cases opens
    refine ⟨rfl, rfl, rfl, fun _ _ => none, ?_⟩
    exact run_scope (select setting columns) _ _ (fun _ _ => rfl) desk
  | getOne columns =>
    cases selects
    cases opens
    refine ⟨rfl, rfl, rfl, fun _ _ => none, ?_⟩
    exact run_scope _ _ _ (fun _ _ => rfl) desk
  | getValue column =>
    cases selects
    cases opens
    refine ⟨rfl, rfl, rfl, fun _ after => some (slotValue desk.shelf.length after), ?_⟩
    exact run_fetched (rfl : freshHolder.run desk = (.ok desk.shelf.length, desk.boundHolder)) _
  | getValues column =>
    cases selects
    cases opens
    refine ⟨rfl, rfl, rfl, fun _ after => some (slotValue desk.shelf.length after), ?_⟩
    exact run_fetched (rfl : freshList.run desk = (.ok desk.shelf.length, desk.boundList)) _
  | paginate page columns =>
    cases selects
    obtain ⟨window, given, same⟩ := map_success opens
    cases same
    refine ⟨rfl, rfl, rfl, fun _ _ => none, ?_⟩
    exact (run_given (run_bind_ok (run_builder desk.begun) _) given).trans rfl
  | _ => cases selects

/-- One statement in a scope of its own, nothing being sent or kept before it. -/
def TerminalCall.IsStatement (setting : Setting τ) (call : TerminalCall) (desk : Desk τ)
    (rendering : Rendering) (entry : Desk τ) : Prop :=
  entry.outside = desk.outside ∧ entry.builder.results = {} ∧
    ∃ (β : Type) (next : Option Report → Work τ β) (answer : β → Desk τ → Option Value),
      (∀ report, Moves (Continues setting) (next report)) ∧
      (call.perform setting).run desk =
        conclude answer ((mainStatement setting rendering next).run entry)

private theorem selected_opened (setting : Setting τ) (call : TerminalCall)
    (columns : List Value) (selects : call.selected? = some columns) (desk : Desk τ)
    (rendering : Rendering) (entry : Desk τ)
    (opens : call.opened setting desk = .ok (rendering, entry)) :
    call.IsStatement setting desk rendering entry := by
  obtain ⟨-, outside, cleared, answer, ran⟩ :=
    call.perform_selected setting columns selects desk rendering entry opens
  exact ⟨outside, cleared, Unit, takeSelected setting columns, answer,
    takeSelected_continues setting columns, ran⟩

theorem TerminalCall.perform_opened (setting : Setting τ) (call : TerminalCall)
    (textual : call.IsTextual) (desk : Desk τ) (rendering : Rendering) (entry : Desk τ)
    (opens : call.opened setting desk = .ok (rendering, entry)) :
    call.IsStatement setting desk rendering entry := by
  cases call with
  | get columns | getOne columns | paginate _ columns =>
    exact selected_opened setting _ columns rfl desk rendering entry opens
  | getValue column | getValues column =>
    exact selected_opened setting _ [column] rfl desk rendering entry opens
  | has =>
    cases opens
    refine ⟨rfl, rfl, Unit, takeRows setting.schema none,
      fun _ after => some (.truth (0 < after.builder.results.count)),
      takeRows_continues setting setting.schema none, ?_⟩
    simp only [TerminalCall.perform, Builder.has, bind_assoc]
    exact run_scope _ _ _ (fun _ _ => rfl) desk
  | insert data =>
    cases opens
    refine ⟨rfl, rfl, Unit, takeWrite true, fun _ _ => none, takeWrite_continues setting true, ?_⟩
    exact run_write setting true (.insert "INSERT" [data]) (fun _ => rfl) desk
  | replace data =>
    cases opens
    refine ⟨rfl, rfl, Unit, takeWrite true, fun _ _ => none, takeWrite_continues setting true, ?_⟩
    exact run_write setting true (.insert "REPLACE" [data]) (fun _ => rfl) desk
  | update data =>
    cases opens
    refine ⟨rfl, rfl, Unit, takeWrite false, fun _ _ => none, takeWrite_continues setting false, ?_⟩
    exact run_write setting false (.update data) (fun _ => rfl) desk
  | delete =>
    cases opens
    refine ⟨rfl, rfl, Unit, takeWrite false, fun _ _ => none, takeWrite_continues setting false, ?_⟩
    exact run_write setting false .delete (fun _ => rfl) desk
  | insertMulti rows =>
    obtain ⟨items, given, same⟩ := map_success opens
    cases same
    refine ⟨rfl, rfl, Unit, takeMany, fun _ _ => none, takeMany_continues setting, ?_⟩
    exact (run_given rfl given).trans rfl
  | rawQuery text values =>
    obtain ⟨content, rfl⟩ := textual
    cases opens
    refine ⟨rfl, rfl, Unit, takeRows setting.schema desk.begun.builder.binding, fun _ _ => none,
      takeRows_continues setting _ _, ?_⟩
    exact run_raw setting content values desk
  | rawQueryOne text values =>
    obtain ⟨content, rfl⟩ := textual
    cases opens
    refine ⟨rfl, rfl, Unit, takeRows setting.schema desk.begun.builder.binding, fun _ _ => none,
      takeRows_continues setting _ _, ?_⟩
    simp only [TerminalCall.perform, Builder.rawQueryOne, Builder.textOf, ofResult_ok, pure_bind]
    exact run_raw setting (content ++ " LIMIT 1") values desk
  | rawQueryValue text values =>
    obtain ⟨content, rfl⟩ := textual
    cases opens
    refine ⟨rfl, rfl, Unit, takeRows setting.schema desk.boundHolder.begun.builder.binding,
      fun _ after => some (slotValue desk.shelf.length after), takeRows_continues setting _ _, ?_⟩
    simp only [TerminalCall.perform, Builder.rawQueryValue, Builder.rawQueryOne, Builder.textOf,
      ofResult_ok, pure_bind]
    rw [← rawBody_main]
    exact run_fetched (rfl : freshHolder.run desk = (.ok desk.shelf.length, desk.boundHolder)) _
  | rawQueryValues text values =>
    obtain ⟨content, rfl⟩ := textual
    cases opens
    refine ⟨rfl, rfl, Unit, takeRows setting.schema desk.boundList.begun.builder.binding,
      fun _ after => some (slotValue desk.shelf.length after), takeRows_continues setting _ _, ?_⟩
    rw [← rawBody_main]
    exact run_fetched (rfl : freshList.run desk = (.ok desk.shelf.length, desk.boundList)) _
  | lock tables =>
    simp only [TerminalCall.opened] at opens
    split at opens
    · rename_i active
      obtain ⟨text, given, same⟩ := map_success opens
      cases same
      refine ⟨rfl, rfl, Unit, takeRows setting.schema none, fun _ _ => none,
        takeRows_continues setting _ _, ?_⟩
      simp only [TerminalCall.perform, Builder.lock, inTransaction, if_pos active]
      exact (run_given (run_bind_ok (run_builder desk.begun) _) given).trans rfl
    · cases opens
  | unlock =>
    simp only [TerminalCall.opened] at opens
    split at opens
    · rename_i active
      cases opens
      refine ⟨rfl, rfl, Unit, takeRows setting.schema none, fun _ _ => none,
        takeRows_continues setting _ _, ?_⟩
      simp only [TerminalCall.perform, Builder.unlock, inTransaction, if_pos active]
      exact run_scope _ _ _ (fun _ _ => rfl) desk
    · cases opens

/-- A call that does not come to its statement sends nothing. -/
theorem TerminalCall.perform_refused (setting : Setting τ) (call : TerminalCall)
    (textual : call.IsTextual) (desk : Desk τ) (reason : Error)
    (refused : call.opened setting desk = .error reason) :
    ∃ after, (call.perform setting).run desk = (.error reason, after) ∧
      after.outside = desk.outside ∧ (after = desk ∨ after.builder.results = {}) := by
  cases call with
  | paginate page columns =>
    have failed := map_failure refused
    refine ⟨desk.begun.closed, ?_, rfl, .inr rfl⟩
    exact run_missing (run_bind_ok (run_builder desk.begun) _) failed
  | insertMulti rows =>
    have failed := map_failure refused
    exact ⟨desk.begun.closed, run_missing rfl failed, rfl, .inr rfl⟩
  | rawQuery text values | rawQueryOne text values | rawQueryValue text values
  | rawQueryValues text values =>
    obtain ⟨content, rfl⟩ := textual
    cases refused
  | lock tables =>
    simp only [TerminalCall.opened] at refused
    split at refused
    · rename_i active
      have failed := map_failure refused
      refine ⟨desk.begun.closed, ?_, rfl, .inr rfl⟩
      simp only [TerminalCall.perform, Builder.lock, inTransaction, if_pos active]
      exact run_missing (run_bind_ok (run_builder desk.begun) _) failed
    · rename_i inactive
      cases refused
      refine ⟨desk, ?_, rfl, .inl rfl⟩
      simp only [TerminalCall.perform, Builder.lock, inTransaction, if_neg inactive]
      exact run_bind_error (run_throw _ _) _
  | unlock =>
    simp only [TerminalCall.opened] at refused
    split at refused
    · cases refused
    · rename_i inactive
      cases refused
      refine ⟨desk, ?_, rfl, .inl rfl⟩
      simp only [TerminalCall.perform, Builder.unlock, inTransaction, if_neg inactive]
      exact run_bind_error (run_throw _ _) _
  | _ => cases refused

/-- A statement that cannot be rendered is not sent, and none is kept. -/
theorem TerminalCall.perform_unrendered (setting : Setting τ) (call : TerminalCall)
    (textual : call.IsTextual) (desk : Desk τ) (rendering : Rendering) (entry : Desk τ)
    (opens : call.opened setting desk = .ok (rendering, entry)) (reason : Error)
    (failed : rendering.render entry.builder.clauses = .error reason) :
    ∃ after, (call.perform setting).run desk = (.error reason, after) ∧
      after.outside = desk.outside ∧ after.builder.results = {} := by
  obtain ⟨outside, cleared, β, next, answer, -, ran⟩ :=
    call.perform_opened setting textual desk rendering entry opens
  refine ⟨entry.closed, ?_, outside, cleared⟩
  rw [ran, mainStatement, run_bind_ok (run_pending entry), failed,
    run_bind_error (run_ofResult _ _)]
  rfl

/-- A statement with more or fewer values than placeholders is not sent, and none is kept. -/
theorem TerminalCall.perform_unbalanced (setting : Setting τ) (call : TerminalCall)
    (textual : call.IsTextual) (desk : Desk τ) (rendering : Rendering) (entry : Desk τ)
    (opens : call.opened setting desk = .ok (rendering, entry)) (statement : Fragment)
    (rendered : rendering.render entry.builder.clauses = .ok statement)
    (unbalanced : statement.isBalanced = false) :
    ∃ after, (call.perform setting).run desk =
        (.error (.placeholderCount statement.text (Placeholder.count statement.text)
          statement.arguments.length), after) ∧
      after.outside = desk.outside ∧ after.builder.results = {} := by
  obtain ⟨outside, cleared, β, next, answer, -, ran⟩ :=
    call.perform_opened setting textual desk rendering entry opens
  refine ⟨entry.closed, ?_, outside, cleared⟩
  rw [ran, mainStatement, run_bind_ok (run_pending entry), rendered,
    run_bind_ok (run_ofResult _ _), run_bind_error (execute_unbalanced setting _ unbalanced entry)]
  rfl

theorem Work.mainStatement_balanced {β : Type} (setting : Setting τ) (rendering : Rendering)
    (next : Option Report → Work τ β) (goes : ∀ report, Moves (Continues setting) (next report))
    (entry : Desk τ) (statement : Fragment)
    (rendered : rendering.render entry.builder.clauses = .ok statement)
    (balanced : statement.isBalanced) :
    Continues setting (entry.kept statement)
      ((mainStatement setting rendering next).run entry).2 := by
  have dispatched := dispatch_continues setting statement balanced
  have moved := Moves.bind dispatched goes (entry.kept statement)
  rw [mainStatement, run_bind_ok (run_pending entry), rendered, run_bind_ok (run_ofResult _ _)]
  rw [run_bind, execute_balanced setting statement balanced, ← run_bind]
  exact moved

/-- A statement with as many values as placeholders is kept, whatever comes of it, and nothing is
sent that has more or fewer. -/
theorem TerminalCall.perform_balanced (setting : Setting τ) (call : TerminalCall)
    (textual : call.IsTextual) (desk : Desk τ) (rendering : Rendering) (entry : Desk τ)
    (opens : call.opened setting desk = .ok (rendering, entry)) (statement : Fragment)
    (rendered : rendering.render entry.builder.clauses = .ok statement)
    (balanced : statement.isBalanced) :
    let after := ((call.perform setting).run desk).2
    after.builder.results.query = .text statement.text ∧
      after.builder.results.arguments = statement.arguments ∧
      Served setting desk.outside after.outside := by
  obtain ⟨outside, cleared, β, next, answer, goes, ran⟩ :=
    call.perform_opened setting textual desk rendering entry opens
  have continued := mainStatement_balanced setting rendering next goes entry statement rendered
    balanced
  rw [ran]
  exact ⟨continued.query, continued.arguments, outside ▸ continued.served⟩

end Querywright
