import Querywright.Proofs.SparedFields

/-! What a terminal operation sends. Whatever it is, it consists of statements that are sent, of
rows that may go to the builder itself, and of steps that touch neither what is outside nor the
traces and settings. A relation between desks that looks at these alone holds across the operation
as soon as it holds across each statement that the operation can send and across such rows. -/
namespace Querywright
open Work

variable {τ α : Type}

/-- A statement is the text of what some clauses are rendered to. -/
def IsTextOf (render : Clauses → Except Error Fragment) (statement : Value) : Prop :=
  ∃ clauses fragment, render clauses = .ok fragment ∧ statement = .text fragment.text

def IsSelectOrTotal (columns : List Value) (statement : Value) : Prop :=
  IsTextOf (Clauses.select columns) statement ∨ IsTextOf (Clauses.countRows columns) statement

namespace TerminalCall

/-- The statements that a call may send, whatever the clauses are by then. -/
def CanSend (call : TerminalCall) (statement : Value) : Prop :=
  match call with
  | .get columns | .getOne columns | .paginate _ columns => IsSelectOrTotal columns statement
  | .getValue column | .getValues column => IsSelectOrTotal [column] statement
  | .has => IsTextOf (Clauses.select []) statement
  | .insert data => IsTextOf (Clauses.insert "INSERT" [data]) statement
  | .insertMulti _ => ∃ rows, IsTextOf (Clauses.insert "INSERT" rows) statement
  | .replace data => IsTextOf (Clauses.insert "REPLACE" [data]) statement
  | .update data => IsTextOf (Clauses.update data) statement
  | .delete => IsTextOf Clauses.delete statement
  | .rawQuery text _ | .rawQueryValues text _ => statement = text
  | .rawQueryOne text _ | .rawQueryValue text _ =>
    ∃ content, text = .text content ∧ statement = .text (content ++ " LIMIT 1")
  | .lock tables =>
    ∃ method text, Builder.lockText method tables = .ok text ∧ statement = .text text
  | .unlock => statement = .text "UNLOCK TABLES"

theorem CanSend.text {call : TerminalCall} {statement : Value} (sent : call.CanSend statement)
    (textual : call.IsTextual) : ∃ text, statement = .text text := by
  have rendered {render : Clauses → Except Error Fragment} (one : IsTextOf render statement) :
      ∃ text, statement = .text text := by
    obtain ⟨-, fragment, -, rfl⟩ := one
    exact ⟨fragment.text, rfl⟩
  cases call with
  | get | getOne | paginate | getValue | getValues => exact sent.elim rendered rendered
  | has | insert | replace | update | delete => exact rendered sent
  | insertMulti rows =>
    obtain ⟨rows, sent⟩ := sent
    exact rendered sent
  | rawQuery | rawQueryValues =>
    obtain ⟨content, rfl⟩ := textual
    exact ⟨content, sent⟩
  | rawQueryOne | rawQueryValue =>
    obtain ⟨content, -, rfl⟩ := sent
    exact ⟨_, rfl⟩
  | lock tables =>
    obtain ⟨-, text, -, rfl⟩ := sent
    exact ⟨text, rfl⟩
  | unlock => exact ⟨_, sent⟩

end TerminalCall

namespace Work

/-- A relation that holds across all that an operation consists of: steps that it takes no notice
of, the statements that may be sent, and rows of the kind that is answered if these go to the
builder itself. -/
structure Sustains (relation : Desk τ → Desk τ → Prop) (itself : Bool) (setting : Setting τ)
    (kind : Report → Prop) (sends : Value → Prop) : Prop where
  unnoticed : ∀ before after : Desk τ, after.outside = before.outside →
    after.builder.traces = before.builder.traces →
    after.builder.settings = before.builder.settings → relation before after
  answers : setting.Answers kind
  dispatches : ∀ statement arguments, sends statement →
    Moves relation (dispatch setting statement arguments)
  loads : itself = true → ∀ report, kind report →
    Moves relation (loadItself setting.schema report)

namespace Sustains

variable {relation : Desk τ → Desk τ → Prop} {itself : Bool} {setting : Setting τ}
  {kind : Report → Prop} {sends : Value → Prop}
  (sustained : Sustains relation itself setting kind sends)

include sustained

theorem tolerates : Tolerates relation :=
  ⟨fun _ _ _ _ => sustained.unnoticed _ _ rfl rfl rfl,
    fun _ _ => sustained.unnoticed _ _ rfl rfl rfl⟩

/-- What holds of a builder that is its own destination holds of one that is not. -/
theorem elsewhere : Sustains relation false setting kind sends :=
  ⟨sustained.unnoticed, sustained.answers, sustained.dispatches,
    fun own => absurd own Bool.false_ne_true⟩

theorem changeClauses (change : Clauses → Clauses) :
    Moves relation (Work.changeClauses change) :=
  fun _ => sustained.unnoticed _ _ rfl rfl rfl

theorem statement [IsTrans (Desk τ) relation] {body : Work τ α} (inside : Moves relation body) :
    Moves relation (Work.statement body) := by
  intro desk
  have begun : relation desk desk.begun := sustained.unnoticed _ _ rfl rfl rfl
  have inner := inside desk.begun
  exact Trans.trans (Trans.trans begun inner) (sustained.unnoticed _ _ rfl rfl rfl)

theorem executeAside [Std.Refl relation] {fragment : Fragment}
    (sent : sends (.text fragment.text)) :
    Moves relation (Work.executeAside setting fragment) := by
  refine .ofResult_bind fun checked ok => ?_
  obtain ⟨-, rfl⟩ := Fragment.checked_balanced ok
  exact sustained.dispatches _ _ sent

variable [Std.Refl relation] [IsTrans (Desk τ) relation]

theorem execute {fragment : Fragment} (sent : sends (.text fragment.text)) :
    Moves relation (Work.execute setting fragment) := by
  refine .ofResult_bind fun checked ok => ?_
  obtain ⟨-, rfl⟩ := Fragment.checked_balanced ok
  refine .bind (fun _ => sustained.unnoticed _ _ rfl rfl rfl) fun _ => ?_
  exact sustained.dispatches _ _ sent

theorem executeLoose {written : Value} (sent : sends written) (values : List Value) :
    Moves relation (Work.executeLoose setting written values) := by
  refine .bind (.ofResult _) fun _ => ?_
  refine .bind (fun _ => sustained.unnoticed _ _ rfl rfl rfl) fun _ => ?_
  exact sustained.dispatches _ _ sent

theorem takeBound (binding : Option Binding) (report : Option Report)
    (given : ∀ found, report = some found → kind found) :
    Moves relation (Work.takeBound itself setting.schema binding report) := by
  cases own : itself with
  | false => exact sustained.tolerates.takeRows setting.schema binding report
  | true =>
    cases report with
    | none => exact .pure ()
    | some report =>
      rw [Work.takeBound, if_pos rfl]
      unfold takeItself
      dsimp only
      split
      · exact sustained.tolerates.changeResults _ (fun _ => rfl) fun _ => rfl
      · refine .bind (sustained.loads own report (given report rfl)) fun count => ?_
        exact sustained.tolerates.changeResults _ (fun _ => rfl) fun _ => rfl

theorem selectBound {columns : List Value}
    (sent : ∀ statement, IsSelectOrTotal columns statement → sends statement) :
    Moves relation (Work.selectBound itself setting columns) := by
  refine .bind (.of_same fun _ => rfl) fun clauses => ?_
  refine .ofResult_bind fun fragment rendered => ?_
  refine .bind_given (execute_gives sustained.answers fragment)
    (sustained.execute (sent _ (.inl ⟨clauses, fragment, rendered, rfl⟩))) fun report fits => ?_
  refine .bind (.of_same fun _ => rfl) fun builder => ?_
  refine .bind (sustained.takeBound builder.binding report fits) fun _ => ?_
  refine .bind (.of_same fun _ => rfl) fun clauses => ?_
  split
  · refine sustained.tolerates.fetchTotal setting columns fun clauses fragment counted => ?_
    exact sustained.executeAside (sent _ (.inr ⟨clauses, fragment, counted, rfl⟩))
  · exact .pure ()

theorem rawQueryBound {written : Value} (sent : sends written) (values : List Value) :
    Moves relation (Work.rawQueryBound itself setting written values) := by
  refine sustained.statement ?_
  refine .bind (.of_same fun _ => rfl) fun builder => ?_
  refine .bind_given (executeLoose_gives sustained.answers written values)
    (sustained.executeLoose sent values) fun report fits => ?_
  exact sustained.takeBound builder.binding report fits

theorem write {render : Clauses → Except Error Fragment}
    (sent : ∀ statement, IsTextOf render statement → sends statement) (inserted : Bool) :
    Moves relation (Builder.write setting inserted render) := by
  refine sustained.statement ?_
  refine .bind (.of_same fun _ => rfl) fun clauses => ?_
  refine .ofResult_bind fun fragment rendered => ?_
  refine .bind (sustained.execute (sent _ ⟨clauses, fragment, rendered, rfl⟩)) fun report => ?_
  exact sustained.tolerates.takeWrite inserted report

/-- A destination of its own may be bound before and read afterwards. -/
theorem fetched {destination : Destination} {sink : Sink} {body : Work τ Unit}
    (inside : Moves relation body) :
    Moves relation (do
      let slot ← Builder.bindFresh destination sink
      body
      Builder.contentOf slot) := by
  refine .bind (fun _ => sustained.unnoticed _ _ rfl rfl rfl) fun slot => ?_
  refine .bind inside fun _ => ?_
  exact .of_same fun desk => by rw [run_contentOf]

theorem inTransaction {body : Work τ Unit} (inside : Moves relation body) :
    Moves relation (Builder.inTransaction setting body) := by
  unfold Builder.inTransaction
  split
  · exact sustained.statement inside
  · exact .of_same fun _ => rfl

end Sustains
end Work

open Work

theorem Builder.textOf_ok {text : Value} {content : String}
    (found : Builder.textOf text = .ok content) : text = .text content := by
  cases text with
  | text => exact congrArg Value.text (Except.ok.inj found)
  | _ => cases found

/-- One case for each operation: what it sends is among what it can send. -/
theorem TerminalCall.performAs_moves {relation : Desk τ → Desk τ → Prop} [Std.Refl relation]
    [IsTrans (Desk τ) relation] {itself : Bool} {setting : Setting τ} {kind : Report → Prop}
    (call : TerminalCall) (sustained : Sustains relation itself setting kind call.CanSend) :
    Moves relation (call.performAs itself setting) := by
  cases call with
  | get columns =>
    refine .bind (sustained.statement ?_) fun _ => .pure none
    exact sustained.selectBound fun _ => id
  | getOne columns =>
    refine .bind (sustained.statement ?_) fun _ => .pure none
    refine .bind (sustained.changeClauses _) fun _ => ?_
    exact sustained.selectBound fun _ => id
  | paginate page columns =>
    refine .bind (sustained.statement ?_) fun _ => .pure none
    refine .bind (.of_same fun _ => rfl) fun builder => ?_
    refine .bind (.ofResult _) fun window => ?_
    refine .bind (sustained.changeClauses _) fun _ => ?_
    exact sustained.selectBound fun _ => id
  | getValue column =>
    refine .bind (sustained.fetched (sustained.statement ?_)) fun _ => .pure _
    refine .bind (sustained.changeClauses _) fun _ => ?_
    exact sustained.elsewhere.selectBound fun _ => id
  | getValues column =>
    refine .bind (sustained.fetched (sustained.statement ?_)) fun _ => .pure _
    exact sustained.elsewhere.selectBound fun _ => id
  | has =>
    refine .bind (.bind (sustained.statement ?_) fun _ => .of_same fun _ => rfl) fun _ => .pure _
    refine .bind (sustained.changeClauses _) fun _ => ?_
    refine .bind (.of_same fun _ => rfl) fun clauses => ?_
    refine .ofResult_bind fun fragment rendered => ?_
    refine .bind (sustained.execute ⟨clauses, fragment, rendered, rfl⟩) fun report => ?_
    exact sustained.tolerates.takeRows setting.schema none report
  | insert data | replace data | update data | delete =>
    exact .bind (sustained.write (fun _ => id) _) fun _ => .pure none
  | insertMulti rows =>
    refine .bind (sustained.statement ?_) fun _ => .pure none
    refine .bind (.ofResult _) fun rows => ?_
    refine .bind (.of_same fun _ => rfl) fun clauses => ?_
    refine .ofResult_bind fun fragment rendered => ?_
    refine .bind (sustained.execute ⟨rows, clauses, fragment, rendered, rfl⟩) fun report => ?_
    refine .bind (sustained.tolerates.takeWrite true report) fun _ => ?_
    cases report with
    | none => exact .pure ()
    | some report => exact sustained.tolerates.changeResults _ (fun _ => rfl) fun _ => rfl
  | rawQuery text values => exact .bind (sustained.rawQueryBound rfl values) fun _ => .pure none
  | rawQueryOne text values =>
    refine .bind (.ofResult_bind fun content found => ?_) fun _ => .pure none
    exact sustained.rawQueryBound ⟨content, Builder.textOf_ok found, rfl⟩ values
  | rawQueryValue text values =>
    refine .bind (sustained.fetched (.ofResult_bind fun content found => ?_)) fun _ => .pure _
    exact sustained.elsewhere.rawQueryBound ⟨content, Builder.textOf_ok found, rfl⟩ values
  | rawQueryValues text values =>
    refine .bind (sustained.fetched ?_) fun _ => .pure _
    exact sustained.elsewhere.rawQueryBound rfl values
  | lock tables =>
    refine .bind (sustained.inTransaction ?_) fun _ => .pure none
    refine .bind (.of_same fun _ => rfl) fun builder => ?_
    refine .ofResult_bind fun text found => ?_
    refine .bind (sustained.execute ⟨_, text, found, rfl⟩) fun report => ?_
    exact sustained.tolerates.takeRows setting.schema none report
  | unlock =>
    refine .bind (sustained.inTransaction ?_) fun _ => .pure none
    refine .bind (sustained.execute rfl) fun report => ?_
    exact sustained.tolerates.takeRows setting.schema none report

end Querywright
