import Querywright.Call
import Querywright.Proofs.StatementPieces
import Querywright.Proofs.WorkRuns

/-! What a terminal operation opens with and what it goes on with. It opens a scope with the results
cleared and a statement to render; what goes on behind that statement changes neither the statement
kept nor the clauses, and sends only statements that are checked as well. -/
namespace Querywright
open Work

variable {τ : Type}

namespace Desk

def begun (desk : Desk τ) : Desk τ :=
  { desk with builder := desk.builder.clearResults }

def closed (desk : Desk τ) : Desk τ :=
  { desk with builder := desk.builder.clearClauses }

def limited (desk : Desk τ) : Desk τ :=
  { desk with
    builder := { desk.builder with
      clauses := { desk.builder.clauses with limit := [.integer 1] } } }

def windowed (window : List Value) (desk : Desk τ) : Desk τ :=
  { desk with
    builder := { desk.builder with
      clauses := { desk.builder.clauses with limit := window, totalRequested := true } } }

/-- A new destination on the shelf, bound for the next rows. -/
def bound (destination : Destination) (sink : Sink) (desk : Desk τ) : Desk τ :=
  { desk with
    shelf := desk.shelf ++ [destination]
    builder := { desk.builder with binding := some ⟨desk.shelf.length, sink⟩ } }

def boundHolder : Desk τ → Desk τ :=
  bound (.holder .anything .null) .holder

def boundList : Desk τ → Desk τ :=
  bound (.list []) (.list (.scalar .anything))

def kept (statement : Fragment) (desk : Desk τ) : Desk τ :=
  { desk with
    builder := { desk.builder with
      results := { desk.builder.results with
        query := .text statement.text, arguments := statement.arguments } } }

end Desk

namespace TerminalCall

def IsTextual : TerminalCall → Prop
  | .rawQuery text _ | .rawQueryOne text _ | .rawQueryValue text _ | .rawQueryValues text _ =>
    ∃ content, text = .text content
  | _ => True

/-- What a call renders, and the desk that it renders it on; or why it does not come to that. -/
def opened (setting : Setting τ) (call : TerminalCall) (desk : Desk τ) :
    Except Error (Rendering × Desk τ) :=
  match call with
  | .get columns => .ok (.select columns, desk.begun)
  | .getOne columns => .ok (.select columns, desk.begun.limited)
  | .getValue column => .ok (.select [column], desk.boundHolder.begun.limited)
  | .getValues column => .ok (.select [column], desk.boundList.begun)
  | .paginate page columns =>
    (pageWindow page desk.builder.settings.pageLimit).map fun window =>
      (.select columns, desk.begun.windowed window)
  | .has => .ok (.select [], desk.begun.limited)
  | .insert data => .ok (.insert "INSERT" [data], desk.begun)
  | .insertMulti rows =>
    (Builder.rowsOf rows).map fun rows => (.insert "INSERT" rows, desk.begun)
  | .replace data => .ok (.insert "REPLACE" [data], desk.begun)
  | .update data => .ok (.update data, desk.begun)
  | .delete => .ok (.delete, desk.begun)
  | .rawQuery text values =>
    (Builder.textOf text).map fun text => (.written text values, desk.begun)
  | .rawQueryOne text values =>
    (Builder.textOf text).map fun text => (.written (text ++ " LIMIT 1") values, desk.begun)
  | .rawQueryValue text values =>
    (Builder.textOf text).map fun text =>
      (.written (text ++ " LIMIT 1") values, desk.boundHolder.begun)
  | .rawQueryValues text values =>
    (Builder.textOf text).map fun text => (.written text values, desk.boundList.begun)
  | .lock tables =>
    if setting.locksTables then
      (Builder.lockText desk.builder.settings.lockMethod tables).map fun text =>
        (.written text [], desk.begun)
    else .error .transactionNotBegun
  | .unlock =>
    if setting.locksTables then .ok (.written "UNLOCK TABLES" [], desk.begun)
    else .error .transactionNotBegun

/-- The columns of a call that fetches rows and may ask for their total. -/
def selected? : TerminalCall → Option (List Value)
  | .get columns | .getOne columns | .paginate _ columns => some columns
  | .getValue column | .getValues column => some [column]
  | _ => none

end TerminalCall

/-- The way of what is outside while statements are sent that have as many values as
placeholders. -/
inductive Served (setting : Setting τ) : τ → τ → Prop where
  | nothing (outside : τ) : Served setting outside outside
  | sent {before between : τ} (served : Served setting before between) (executor : Executor τ)
      (present : setting.executor = some executor) (statement : Fragment)
      (balanced : statement.isBalanced) :
      Served setting before (executor (.text statement.text) statement.arguments between).2

theorem Served.trans {setting : Setting τ} {before between after : τ}
    (first : Served setting before between) (second : Served setting between after) :
    Served setting before after := by
  induction second with
  | nothing => exact first
  | sent _ executor present statement balanced ih =>
    exact .sent ih executor present statement balanced

structure Sent where
  statement : Value
  arguments : List Value

def Sent.IsBalanced (sent : Sent) : Prop :=
  ∃ text, sent.statement = .text text ∧ Placeholder.count text = sent.arguments.length

/-- An executor that notes down what it receives. -/
def Executor.watched (executor : Executor τ) : Executor (τ × List Sent) :=
  fun statement arguments outside =>
    let (result, after) := executor statement arguments outside.1
    (result, after, outside.2 ++ [⟨statement, arguments⟩])

def Setting.watched (setting : Setting τ) : Setting (τ × List Sent) :=
  { schema := setting.schema
    executor := setting.executor.map Executor.watched
    locksTables := setting.locksTables }

def fruitless : Setting Unit :=
  { executor := some fun _ _ outside => (.ok {}, outside) }

theorem Served.noted {setting : Setting τ} {before after : τ × List Sent}
    (served : Served setting.watched before after) :
    ∃ sent : List Sent, after.2 = before.2 ++ sent ∧ ∀ one ∈ sent, one.IsBalanced := by
  induction served with
  | nothing => exact ⟨[], by simp, by simp⟩
  | sent _ executor present statement balanced ih =>
    obtain ⟨earlier, noted, each⟩ := ih
    obtain ⟨inner, -, rfl⟩ := Option.map_eq_some_iff.mp present
    refine ⟨earlier ++ [⟨.text statement.text, statement.arguments⟩], ?_, ?_⟩
    · rw [← List.append_assoc, ← noted]
      rfl
    · intro one member
      rcases List.mem_append.mp member with old | new
      · exact each one old
      · obtain rfl := List.mem_singleton.mp new
        exact ⟨statement.text, rfl, beq_iff_eq.mp balanced⟩

/-- What goes on behind a statement leaves it the last one. -/
structure Continues (setting : Setting τ) (before after : Desk τ) : Prop where
  query : after.builder.results.query = before.builder.results.query
  arguments : after.builder.results.arguments = before.builder.results.arguments
  clauses : after.builder.clauses = before.builder.clauses
  served : Served setting before.outside after.outside

instance (setting : Setting τ) : Std.Refl (Continues setting) where
  refl _ := ⟨rfl, rfl, rfl, .nothing _⟩

instance (setting : Setting τ) : IsTrans (Desk τ) (Continues setting) where
  trans _ _ _ first second :=
    ⟨second.query.trans first.query, second.arguments.trans first.arguments,
      second.clauses.trans first.clauses, first.served.trans second.served⟩

namespace Work

variable {relation : Desk τ → Desk τ → Prop}

/-- A relation that is kept where the results change, the statement in them apart, or the
destinations do. -/
structure Tolerates (relation : Desk τ → Desk τ → Prop) : Prop where
  results : ∀ (desk : Desk τ) (change : Results → Results),
    (∀ results, (change results).query = results.query) →
    (∀ results, (change results).arguments = results.arguments) →
    relation desk
      { desk with builder := { desk.builder with results := change desk.builder.results } }
  shelf : ∀ (desk : Desk τ) (shelf : Shelf), relation desk { desk with shelf := shelf }

theorem Tolerates.changeResults (tolerant : Tolerates relation) (change : Results → Results)
    (query : ∀ results, (change results).query = results.query)
    (arguments : ∀ results, (change results).arguments = results.arguments) :
    Moves relation (changeResults change) :=
  fun desk => tolerant.results desk change query arguments

theorem Tolerates.load (tolerant : Tolerates relation) (schema : Schema) (binding : Binding)
    (report : Report) : Moves relation (load schema binding report) :=
  fun desk => tolerant.shelf desk _

section Sequences

variable [Std.Refl relation] [IsTrans (Desk τ) relation]

theorem Tolerates.takeRows (tolerant : Tolerates relation) (schema : Schema)
    (binding : Option Binding) (report : Option Report) :
    Moves relation (takeRows schema binding report) := by
  cases report with
  | none => exact .pure ()
  | some report =>
    by_cases empty : report.columns.isEmpty
    · simp only [Work.takeRows, if_pos empty]
      exact tolerant.changeResults _ (fun _ => rfl) fun _ => rfl
    · simp only [Work.takeRows, if_neg empty]
      cases binding with
      | none => exact tolerant.changeResults _ (fun _ => rfl) fun _ => rfl
      | some binding =>
        refine .bind (tolerant.load schema binding report) fun count => ?_
        exact tolerant.changeResults _ (fun _ => rfl) fun _ => rfl

theorem Tolerates.takeWrite (tolerant : Tolerates relation) (inserted : Bool)
    (report : Option Report) : Moves relation (takeWrite inserted report) := by
  cases report with
  | none => exact .pure ()
  | some report =>
    refine .bind (tolerant.changeResults _ (fun _ => rfl) fun _ => rfl) fun _ => ?_
    split
    · exact tolerant.changeResults _ (fun _ => rfl) fun _ => rfl
    · exact .pure ()

theorem Tolerates.fetchTotal (tolerant : Tolerates relation) (setting : Setting τ)
    (columns : List Value)
    (aside : ∀ (clauses : Clauses) statement, clauses.countRows columns = .ok statement →
      Moves relation (executeAside setting statement)) :
    Moves relation (fetchTotal setting columns) := by
  unfold Work.fetchTotal
  refine .bind (.of_same fun _ => rfl) fun clauses => ?_
  refine .ofResult_bind fun statement rendered => ?_
  refine .bind (aside clauses statement rendered) fun report => ?_
  split
  · exact .pure ()
  · refine .bind (.ofResult _) fun total => ?_
    refine .bind (tolerant.changeResults _ (fun _ => rfl) fun _ => rfl) fun _ => ?_
    refine .bind (.of_same fun _ => rfl) fun builder => ?_
    refine .bind (.ofResult _) fun pages => ?_
    exact tolerant.changeResults _ (fun _ => rfl) fun _ => rfl

end Sequences

theorem send_continues (setting : Setting τ) (executor : Executor τ)
    (present : setting.executor = some executor) (statement : Fragment)
    (balanced : statement.isBalanced) :
    Moves (Continues setting) (send executor (.text statement.text) statement.arguments) := by
  intro desk
  have served : Served setting desk.outside
      (executor (.text statement.text) statement.arguments desk.outside).2 :=
    .sent (.nothing _) executor present statement balanced
  change Continues setting desk (send executor _ _ desk).2
  unfold send ExceptT.mk
  dsimp only
  split
  · split
    · exact ⟨rfl, rfl, rfl, served⟩
    · exact ⟨rfl, rfl, rfl, served⟩
  · exact ⟨rfl, rfl, rfl, served⟩

theorem dispatch_continues (setting : Setting τ) (statement : Fragment)
    (balanced : statement.isBalanced) :
    Moves (Continues setting) (dispatch setting (.text statement.text) statement.arguments) := by
  unfold dispatch
  split
  · exact .pure none
  · rename_i executor present
    exact .bind (send_continues setting executor present statement balanced) fun _ => .pure _

theorem executeAside_continues (setting : Setting τ) (statement : Fragment) :
    Moves (Continues setting) (executeAside setting statement) := by
  intro desk
  unfold executeAside
  rw [run_bind, run_ofResult]
  cases checked : statement.checked with
  | error reason => exact Std.Refl.refl desk
  | ok result =>
    obtain ⟨balanced, rfl⟩ := Fragment.checked_balanced checked
    exact dispatch_continues setting result balanced desk

theorem continues_tolerates (setting : Setting τ) : Tolerates (Continues setting) :=
  ⟨fun _ _ query arguments => ⟨query _, arguments _, rfl, .nothing _⟩,
    fun _ _ => ⟨rfl, rfl, rfl, .nothing _⟩⟩

theorem changeResults_continues (setting : Setting τ) (change : Results → Results)
    (query : ∀ results, (change results).query = results.query)
    (arguments : ∀ results, (change results).arguments = results.arguments) :
    Moves (Continues setting) (changeResults change) :=
  (continues_tolerates setting).changeResults change query arguments

theorem takeRows_continues (setting : Setting τ) (schema : Schema) (binding : Option Binding)
    (report : Option Report) : Moves (Continues setting) (takeRows schema binding report) :=
  (continues_tolerates setting).takeRows schema binding report

theorem takeWrite_continues (setting : Setting τ) (inserted : Bool) (report : Option Report) :
    Moves (Continues setting) (takeWrite inserted report) :=
  (continues_tolerates setting).takeWrite inserted report

theorem fetchTotal_continues (setting : Setting τ) (columns : List Value) :
    Moves (Continues setting) (fetchTotal setting columns) :=
  (continues_tolerates setting).fetchTotal setting columns fun _ statement _ =>
    executeAside_continues setting statement

end Work
end Querywright
