import Querywright.Proofs.BuilderRuns
import Querywright.Proofs.FilledClauses

/-! Terminal calls on a filled desk. An operation agrees with another when on a filled desk the other
gives the same answer or fails in the same family, and leaves the filled desk that the first one
leaves. Without an executor nothing comes back that could tell values apart. -/
namespace Querywright
open Work

variable {τ α β γ δ : Type}

def Settings.filled (filling : Filling) (settings : Settings) : Settings :=
  { settings with
    pageLimit := settings.pageLimit.filled filling false
    tracing := settings.tracing.filled filling false }

def Results.filled (filling : Filling) (results : Results) : Results :=
  { results with
    query := results.query.filled filling false
    arguments := results.arguments.map (Value.filled filling true) }

def Builder.filled (filling : Filling) (builder : Builder) : Builder :=
  { builder with
    clauses := builder.clauses.filled filling
    settings := builder.settings.filled filling
    results := builder.results.filled filling }

/-- Where rows would go. A builder among them shows of itself what it is. -/
def Destination.filled (filling : Filling) : Destination → Destination
  | .holder type content => .holder type (content.filled filling false)
  | .record name fields => .record name (Value.fillFields filling false fields)
  | .expression inner => .expression (inner.filled filling)
  | .builder number fields changes => .builder number fields changes
  | .list items => .list (items.map (Value.filled filling false))
  | .mapping entries => .mapping (Value.fillEntries filling false entries)

def Desk.filled (filling : Filling) (desk : Desk τ) : Desk τ :=
  { desk with
    builder := desk.builder.filled filling
    shelf := desk.shelf.map (Destination.filled filling) }

def rowsFilled (filling : Filling) : Value → Value
  | .list rows => .list (rows.map (Value.rowFilled filling))
  | .tuple rows => .tuple (rows.map (Value.rowFilled filling))
  | other => other.filled filling false

def TerminalCall.filled (filling : Filling) : TerminalCall → TerminalCall
  | .get columns => .get (columns.map (Value.filled filling false))
  | .getOne columns => .getOne (columns.map (Value.filled filling false))
  | .getValue column => .getValue (column.filled filling false)
  | .getValues column => .getValues (column.filled filling false)
  | .paginate page columns =>
    .paginate (page.filled filling false) (columns.map (Value.filled filling false))
  | .has => .has
  | .insert data => .insert (data.rowFilled filling)
  | .insertMulti rows => .insertMulti (rowsFilled filling rows)
  | .replace data => .replace (data.rowFilled filling)
  | .update data => .update (data.rowFilled filling)
  | .delete => .delete
  | .rawQuery text values =>
    .rawQuery (text.filled filling false) (values.map (Value.filled filling true))
  | .rawQueryOne text values =>
    .rawQueryOne (text.filled filling false) (values.map (Value.filled filling true))
  | .rawQueryValue text values =>
    .rawQueryValue (text.filled filling false) (values.map (Value.filled filling true))
  | .rawQueryValues text values =>
    .rawQueryValues (text.filled filling false) (values.map (Value.filled filling true))
  | .lock tables => .lock (tables.map (Value.filled filling false))
  | .unlock => .unlock

/-! Raw SQL that is no text is scanned piece by piece, a filled piece like the piece itself. -/

theorem characterOf_fill (filling : Filling) (piece : Value) :
    Placeholder.characterOf (piece.filled filling false) = Placeholder.characterOf piece := by
  unfold Placeholder.characterOf
  rw [Value.asText?_fill]

theorem characterOf_rows (fields : List (String × Value)) :
    (fields.map fieldRow).map Placeholder.characterOf = List.replicate fields.length ' ' := by
  rw [List.map_map, ← List.map_const']
  rfl

theorem Expression.fields_fill (filling : Filling) (expression : Expression) :
    (expression.filled filling).fields.length = expression.fields.length := by
  cases expression <;> rfl

theorem elements_fill (filling : Filling) (value : Value) :
    (value.filled filling false).elements?.map (List.map Placeholder.characterOf) =
      value.elements?.map (List.map Placeholder.characterOf) := by
  have row (items : List Value) : (items.map (Value.filled filling false)).map
      Placeholder.characterOf = items.map Placeholder.characterOf := by
    rw [List.map_map]
    exact List.map_congr_left fun piece _ => characterOf_fill filling piece
  cases value with
  | list items | tuple items | set _ items =>
    simp only [Value.filled, Value.fillAll_eq_map, Value.elements?, Option.map_some, row]
  | mapping entries =>
    have keys := row (entries.map (·.1))
    simp only [Value.filled, Value.fillEntries_eq_map, Value.elements?, Option.map_some,
      List.map_map] at keys ⊢
    exact congrArg some keys
  | record name fields =>
    simp only [Value.filled, Value.fillFields_eq_map, Value.elements?, Option.map_some,
      characterOf_rows, List.length_map]
  | expression inner =>
    simp only [Value.filled, Value.elements?, Option.map_some, characterOf_rows,
      Expression.fields_fill]
  | _ => rfl

def markedItems (value : Value) : Except Error Nat :=
  value.items.map fun pieces =>
    (Placeholder.scanPieces pieces).countP Placeholder.isPlaceholder

theorem countIn_of_other (value : Value) (unnamed : value.asText? = none) :
    Placeholder.countIn value = markedItems value := by
  cases value with
  | text => cases unnamed
  | _ => rfl

theorem markedItems_follows (filling : Filling) (value : Value) :
    Follows id (markedItems value) (markedItems (value.filled filling false)) := by
  have pieces := elements_fill filling value
  unfold markedItems Value.items
  cases found : value.elements? with
  | none =>
    rw [found, Option.map_none, Option.map_eq_none_iff] at pieces
    rw [pieces]
    exact .failure rfl
  | some items =>
    rw [found, Option.map_some, Option.map_eq_some_iff] at pieces
    obtain ⟨others, taken, same⟩ := pieces
    rw [taken]
    refine .of_eq ?_
    simp only [Placeholder.scanPieces, same, id]

theorem countIn_follows (filling : Filling) (written : Value) :
    Follows id (Placeholder.countIn written)
      (Placeholder.countIn (written.filled filling false)) := by
  cases named : written.asText? with
  | some text =>
    obtain rfl : written = .text text := by
      cases written <;> simp_all [Value.asText?]
    exact .same _
  | none =>
    rw [countIn_of_other written named, countIn_of_other _ (by rw [Value.asText?_fill, named])]
    exact markedItems_follows filling written

theorem checkBalance_follows (filling : Filling) (written : Value) (given : Nat) :
    Follows id (Placeholder.checkBalance written given)
      (Placeholder.checkBalance (written.filled filling false) given) := by
  refine (countIn_follows filling written).bind fun expected _ => ?_
  dsimp only [id]
  split
  · exact .success ()
  · exact .failure rfl

/-! Destinations. -/

theorem Destination.value_fill (filling : Filling) (destination : Destination) :
    (destination.filled filling).value = destination.value.filled filling false := by
  cases destination with
  | list items => exact congrArg Value.list (Value.fillAll_eq_map filling false items).symm
  | _ => rfl

theorem selectSink_fill (filling : Filling) (schema : Schema) (destination : Destination)
    (rule : ElementRule) :
    selectSink schema (destination.filled filling) rule = selectSink schema destination rule := by
  cases destination <;> rfl

theorem slotValue_fill (filling : Filling) (slot : Nat) (desk : Desk τ) :
    slotValue slot (desk.filled filling) = (slotValue slot desk).filled filling false := by
  unfold slotValue Desk.filled
  rw [List.getElem?_map]
  cases desk.shelf[slot]? with
  | none => rfl
  | some destination =>
    cases destination with
    | holder => rfl
    | _ => exact Destination.value_fill filling _

namespace Work

/-- What two operations give on a desk and on the filled one. -/
structure Agrees (filling : Filling) (change : α → β) (first : Work τ α) (second : Work τ β) :
    Prop where
  outcome (desk : Desk τ) : Follows change (first.run desk).1 (second.run (desk.filled filling)).1
  desk (desk : Desk τ) : (second.run (desk.filled filling)).2 = (first.run desk).2.filled filling

namespace Agrees

variable {filling : Filling} {change : α → β} {first : Work τ α} {second : Work τ β}

theorem bind {further : γ → δ} {continued : α → Work τ γ} {resumed : β → Work τ δ}
    (agreed : Agrees filling change first second)
    (next : ∀ value, Agrees filling further (continued value) (resumed (change value))) :
    Agrees filling further (first >>= continued) (second >>= resumed) := by
  have both (desk : Desk τ) :
      Follows further ((first >>= continued).run desk).1
          ((second >>= resumed).run (desk.filled filling)).1 ∧
        ((second >>= resumed).run (desk.filled filling)).2 =
          ((first >>= continued).run desk).2.filled filling := by
    have outcome := agreed.outcome desk
    have left := agreed.desk desk
    rw [run_bind, run_bind]
    generalize first.run desk = before at outcome left
    generalize second.run (desk.filled filling) = after at outcome left
    obtain ⟨result, between⟩ := before
    obtain ⟨other, beside⟩ := after
    dsimp only at outcome left
    subst left
    cases outcome with
    | success value => exact ⟨(next value).outcome between, (next value).desk between⟩
    | failure same => exact ⟨.failure same, rfl⟩
  exact ⟨fun desk => (both desk).1, fun desk => (both desk).2⟩

theorem andThen {further : γ → δ} {first second : Work τ α} {continued : α → Work τ γ}
    {resumed : α → Work τ δ} (agreed : Agrees filling id first second)
    (next : ∀ value, Agrees filling further (continued value) (resumed value)) :
    Agrees filling further (first >>= continued) (second >>= resumed) :=
  agreed.bind next

theorem ofResult {result : Except Error α} {other : Except Error β}
    (followed : Follows change result other) :
    Agrees (τ := τ) filling change (ofResult result) (ofResult other) := by
  constructor
  · intro desk
    rw [run_ofResult, run_ofResult]
    exact followed
  · intro desk
    rw [run_ofResult, run_ofResult]

theorem pure (value : α) : Agrees (τ := τ) filling id (Pure.pure value) (Pure.pure value) :=
  ⟨fun _ => .success value, fun _ => rfl⟩

/-- An answer may tell what lies at a destination. -/
theorem answer (answer : Option Value) : Agrees (τ := τ) filling
    (Option.map (Value.filled filling false)) (Pure.pure answer)
    (Pure.pure (answer.map (Value.filled filling false))) :=
  ⟨fun _ => .success answer, fun _ => rfl⟩

theorem builder : Agrees (τ := τ) filling (Builder.filled filling) builder builder :=
  ⟨fun desk => .success desk.builder, fun _ => rfl⟩

theorem pending : Agrees (τ := τ) filling (Clauses.filled filling) pending pending :=
  ⟨fun desk => .success desk.builder.clauses, fun _ => rfl⟩

theorem changeBuilder {changed other : Builder → Builder}
    (same : ∀ builder, other (builder.filled filling) = (changed builder).filled filling) :
    Agrees (τ := τ) filling id (changeBuilder changed) (changeBuilder other) := by
  constructor
  · intro desk
    exact .success ()
  · intro desk
    exact congrArg (fun builder => ({ desk.filled filling with builder := builder } : Desk τ))
      (same desk.builder)

theorem changeClauses {changed other : Clauses → Clauses}
    (same : ∀ clauses, other (clauses.filled filling) = (changed clauses).filled filling) :
    Agrees (τ := τ) filling id (changeClauses changed) (changeClauses other) :=
  changeBuilder fun builder => congrArg
    (fun clauses => ({ builder.filled filling with clauses := clauses } : Builder))
    (same builder.clauses)

theorem changeResults {changed other : Results → Results}
    (same : ∀ results, other (results.filled filling) = (changed results).filled filling) :
    Agrees (τ := τ) filling id (changeResults changed) (changeResults other) :=
  changeBuilder fun builder => congrArg
    (fun results => ({ builder.filled filling with results := results } : Builder))
    (same builder.results)

/-- Clauses and results are empty however they were before. -/
theorem statement (agreed : Agrees filling change first second) :
    Agrees filling change (statement first) (statement second) := by
  have opened (desk : Desk τ) : (desk.filled filling).begun = desk.begun.filled filling := rfl
  have closed (desk : Desk τ) : (desk.filled filling).closed = desk.closed.filled filling := rfl
  constructor
  · intro desk
    exact agreed.outcome desk.begun
  · intro desk
    have left := agreed.desk desk.begun
    rw [← opened] at left
    exact (congrArg Desk.closed left).trans (closed _)

end Agrees

variable {filling : Filling}

def resting (schema : Schema) : Setting τ :=
  { schema := schema }

theorem keep_agrees (written : Value) (arguments : List Value) :
    Agrees (τ := τ) filling id (keep written arguments)
      (keep (written.filled filling false) (arguments.map (Value.filled filling true))) :=
  .changeResults fun _ => rfl

/-- Without an executor a statement is checked and kept. -/
theorem execute_resting (schema : Schema) (written : Fragment) :
    (execute (resting schema) written : Work τ (Option Report)) = (do
      let checked ← ofResult written.checked
      keep (.text checked.text) checked.arguments
      return none) :=
  rfl

theorem execute_agrees (schema : Schema) (written : Fragment) {continued resumed : Option Report → Work τ α}
    (next : Agrees filling id (continued none) (resumed none)) :
    Agrees filling id (execute (resting schema) written >>= continued)
      (execute (resting schema) (written.filled filling) >>= resumed) := by
  rw [execute_resting, execute_resting]
  simp only [bind_assoc, pure_bind]
  refine (Agrees.ofResult (Fragment.checked_follows written)).bind fun checked => ?_
  rw [show (checked.filled filling).arguments = checked.arguments.map (Value.filled filling true) from
    Value.fillAll_eq_map filling true _]
  exact (keep_agrees (.text checked.text) checked.arguments).bind fun _ => next

theorem executeLoose_agrees (schema : Schema) (written : Value) (arguments : List Value)
    {continued resumed : Option Report → Work τ α}
    (next : Agrees filling id (continued none) (resumed none)) :
    Agrees filling id (executeLoose (resting schema) written arguments >>= continued)
      (executeLoose (resting schema) (written.filled filling false)
        (arguments.map (Value.filled filling true)) >>= resumed) := by
  have loose (written : Value) (arguments : List Value) :
      (executeLoose (resting schema) written arguments : Work τ (Option Report)) = (do
        ofResult (Placeholder.checkBalance written arguments.length)
        keep written arguments
        return none) := rfl
  rw [loose, loose, List.length_map]
  simp only [bind_assoc, pure_bind]
  refine (Agrees.ofResult (checkBalance_follows filling written arguments.length)).bind fun _ => ?_
  exact (keep_agrees written arguments).bind fun _ => next

theorem executeAside_agrees (schema : Schema) (written : Fragment)
    {continued resumed : Option Report → Work τ α}
    (next : Agrees filling id (continued none) (resumed none)) :
    Agrees filling id (executeAside (resting schema) written >>= continued)
      (executeAside (resting schema) (written.filled filling) >>= resumed) := by
  have aside (written : Fragment) :
      (executeAside (resting schema) written : Work τ (Option Report)) = (do
        let _ ← ofResult written.checked
        return none) := rfl
  rw [aside, aside]
  simp only [bind_assoc, pure_bind]
  exact (Agrees.ofResult (Fragment.checked_follows written)).bind fun _ => next

theorem fetchTotal_agrees (schema : Schema) (columns : List Value) :
    Agrees (τ := τ) filling id (fetchTotal (resting schema) columns)
      (fetchTotal (resting schema) (columns.map (Value.filled filling false))) := by
  unfold fetchTotal
  refine Agrees.pending.bind fun clauses => ?_
  refine (Agrees.ofResult (clauses.countRows_follows filling columns)).bind fun statement => ?_
  exact executeAside_agrees schema statement (.pure ())

theorem select_agrees (schema : Schema) (columns : List Value) :
    Agrees (τ := τ) filling id (select (resting schema) columns)
      (select (resting schema) (columns.map (Value.filled filling false))) := by
  unfold select
  refine Agrees.pending.bind fun clauses => ?_
  refine (Agrees.ofResult (clauses.select_follows filling columns)).bind fun statement => ?_
  refine execute_agrees schema statement (Agrees.builder.bind fun _ => ?_)
  refine (Agrees.pure ()).bind fun _ => Agrees.pending.bind fun clauses => ?_
  have requested : (clauses.filled filling).totalRequested = clauses.totalRequested := by
    rw [Clauses.fill_eq]
  rw [requested]
  split
  · exact fetchTotal_agrees schema columns
  · exact .pure ()

theorem limitOne_agrees : Agrees (τ := τ) filling id
    (changeClauses fun clauses => { clauses with limit := [.integer 1] })
    (changeClauses fun clauses => { clauses with limit := [.integer 1] }) :=
  .changeClauses fun clauses => by rw [Clauses.fill_eq, Clauses.fill_eq]

end Work

/-- A page limit that is no number, or no number that can be a page's, is refused all the same. -/
theorem pageWindow_follows (filling : Filling) (page pageLimit : Value) :
    Follows id (pageWindow page pageLimit)
      (pageWindow (page.filled filling false) (pageLimit.filled filling false)) := by
  have pages (limit : Value) :
      Follows id (pageWindow page limit) (pageWindow (page.filled filling false) limit) := by
    refine (Follows.same (isPositive limit)).bind fun positive _ => ?_
    cases positive with
    | false => exact .failure rfl
    | true =>
      cases page with
      | integer => exact .same _
      | _ => exact .failure rfl
  cases pageLimit with
  | list | tuple | set | mapping | record | holder | expression => exact .failure rfl
  | _ => exact pages _

theorem rowsOf_follows (filling : Filling) (rows : Value) :
    Follows (List.map (Value.rowFilled filling)) (Builder.rowsOf rows)
      (Builder.rowsOf (rowsFilled filling rows)) := by
  cases rows with
  | list items | tuple items =>
    cases items with
    | nil => exact .failure rfl
    | cons row rest => exact .success (row :: rest)
  | _ => exact .failure rfl

namespace Builder

variable {filling : Filling}

theorem get_agrees (schema : Schema) (columns : List Value) :
    Agrees (τ := τ) filling id (get (resting schema) columns)
      (get (resting schema) (columns.map (Value.filled filling false))) :=
  .statement (select_agrees schema columns)

theorem getOne_agrees (schema : Schema) (columns : List Value) :
    Agrees (τ := τ) filling id (getOne (resting schema) columns)
      (getOne (resting schema) (columns.map (Value.filled filling false))) :=
  .statement (limitOne_agrees.bind fun _ => select_agrees schema columns)

theorem paginate_agrees (schema : Schema) (page : Value) (columns : List Value) :
    Agrees (τ := τ) filling id (paginate (resting schema) page columns)
      (paginate (resting schema) (page.filled filling false)
        (columns.map (Value.filled filling false))) := by
  refine .statement (Agrees.builder.bind fun builder => ?_)
  refine (Agrees.ofResult (pageWindow_follows filling page builder.settings.pageLimit)).bind ?_
  intro window
  refine Agrees.andThen ?_ fun _ => select_agrees schema columns
  exact .changeClauses fun clauses => by rw [Clauses.fill_eq, Clauses.fill_eq]; rfl

theorem has_agrees (schema : Schema) :
    Agrees (τ := τ) filling id (has (resting schema)) (has (resting schema)) := by
  refine Agrees.andThen ?_ fun _ => Agrees.builder.bind fun builder => .pure _
  refine .statement (limitOne_agrees.bind fun _ => Agrees.pending.bind fun clauses => ?_)
  refine (Agrees.ofResult (clauses.select_follows filling [])).bind fun statement => ?_
  exact execute_agrees schema statement (.pure ())

theorem write_agrees (schema : Schema) (inserted : Bool)
    {render other : Clauses → Except Error Fragment}
    (followed : ∀ clauses,
      Follows (Fragment.filled filling) (render clauses) (other (clauses.filled filling))) :
    Agrees (τ := τ) filling id (write (resting schema) inserted render)
      (write (resting schema) inserted other) := by
  refine .statement (Agrees.pending.bind fun clauses => ?_)
  refine (Agrees.ofResult (followed clauses)).bind fun rendered => ?_
  exact execute_agrees schema rendered (.pure ())

theorem insertMulti_agrees (schema : Schema) (rows : Value) :
    Agrees (τ := τ) filling id (insertMulti (resting schema) rows)
      (insertMulti (resting schema) (rowsFilled filling rows)) := by
  refine .statement ((Agrees.ofResult (rowsOf_follows filling rows)).bind fun rows => ?_)
  refine Agrees.pending.bind fun clauses => ?_
  refine (Agrees.ofResult (clauses.insert_follows filling "INSERT" rows)).bind fun rendered => ?_
  refine execute_agrees schema rendered ?_
  exact (Agrees.pure ()).bind fun _ => .pure ()

theorem rawQuery_agrees (schema : Schema) (written : Value) (values : List Value) :
    Agrees (τ := τ) filling id (rawQuery (resting schema) written values)
      (rawQuery (resting schema) (written.filled filling false)
        (values.map (Value.filled filling true))) :=
  .statement (Agrees.builder.bind fun _ => executeLoose_agrees schema written values (.pure ()))

theorem textOf_follows (text : Value) :
    Follows id (textOf text) (textOf (text.filled filling false)) := by
  cases text with
  | text => exact .same _
  | _ => exact .failure rfl

theorem rawQueryOne_agrees (schema : Schema) (text : Value) (values : List Value) :
    Agrees (τ := τ) filling id (rawQueryOne (resting schema) text values)
      (rawQueryOne (resting schema) (text.filled filling false)
        (values.map (Value.filled filling true))) :=
  (Agrees.ofResult (textOf_follows text)).bind fun _ => rawQuery_agrees schema _ values

/-- A new destination holds nothing that could be filled. -/
theorem bindFresh_agrees (destination : Destination) (empty : destination.filled filling = destination)
    (sink : Sink) :
    Agrees (τ := τ) filling id (bindFresh destination sink) (bindFresh destination sink) := by
  have slot (desk : Desk τ) : (desk.filled filling).shelf.length = desk.shelf.length :=
    List.length_map _
  constructor
  · intro desk
    exact .of_eq (slot desk)
  · intro desk
    change (desk.filled filling).bound destination sink = (desk.bound destination sink).filled filling
    unfold Desk.bound
    rw [slot]
    simp [Desk.filled, Builder.filled, empty]

theorem freshHolder_agrees : Agrees (τ := τ) filling id freshHolder freshHolder :=
  bindFresh_agrees _ rfl _

theorem freshList_agrees : Agrees (τ := τ) filling id freshList freshList :=
  bindFresh_agrees _ rfl _

theorem contentOf_agrees (slot : Nat) :
    Agrees (τ := τ) filling (Value.filled filling false) (contentOf slot) (contentOf slot) := by
  constructor
  · intro desk
    rw [run_contentOf, run_contentOf]
    exact .of_eq (slotValue_fill filling slot desk)
  · intro desk
    rw [run_contentOf, run_contentOf]

end Builder

open Builder

theorem TerminalCall.perform_agrees (filling : Filling) (schema : Schema) (call : TerminalCall) :
    Agrees (τ := τ) filling (Option.map (Value.filled filling false)) (call.perform (resting schema))
      ((call.filled filling).perform (resting schema)) := by
  cases call with
  | get columns => exact (get_agrees schema columns).bind fun _ => .answer none
  | getOne columns => exact (getOne_agrees schema columns).bind fun _ => .answer none
  | getValue column =>
    refine Agrees.bind ?_ fun content => .answer (some content)
    refine freshHolder_agrees.bind fun slot => ?_
    exact (getOne_agrees schema [column]).bind fun _ => contentOf_agrees slot
  | getValues column =>
    refine Agrees.bind ?_ fun content => .answer (some content)
    refine freshList_agrees.bind fun slot => ?_
    exact (get_agrees schema [column]).bind fun _ => contentOf_agrees slot
  | paginate page columns => exact (paginate_agrees schema page columns).bind fun _ => .answer none
  | has => exact (has_agrees schema).bind fun found => .answer (some (.truth found))
  | insert data =>
    refine (write_agrees schema true fun clauses => ?_).bind fun _ => .answer none
    exact clauses.insert_follows filling "INSERT" [data]
  | insertMulti rows => exact (insertMulti_agrees schema rows).bind fun _ => .answer none
  | replace data =>
    refine (write_agrees schema true fun clauses => ?_).bind fun _ => .answer none
    exact clauses.insert_follows filling "REPLACE" [data]
  | update data =>
    refine (write_agrees schema false fun clauses => ?_).bind fun _ => .answer none
    exact clauses.update_follows filling data
  | delete =>
    refine (write_agrees schema false fun clauses => ?_).bind fun _ => .answer none
    exact clauses.delete_follows filling
  | rawQuery text values => exact (rawQuery_agrees schema text values).bind fun _ => .answer none
  | rawQueryOne text values =>
    exact (rawQueryOne_agrees schema text values).bind fun _ => .answer none
  | rawQueryValue text values =>
    refine Agrees.bind ?_ fun content => .answer (some content)
    refine freshHolder_agrees.bind fun slot => ?_
    exact (rawQueryOne_agrees schema text values).bind fun _ => contentOf_agrees slot
  | rawQueryValues text values =>
    refine Agrees.bind ?_ fun content => .answer (some content)
    refine freshList_agrees.bind fun slot => ?_
    exact (rawQuery_agrees schema text values).bind fun _ => contentOf_agrees slot
  | lock | unlock => exact ⟨fun _ => .failure rfl, fun _ => rfl⟩

end Querywright
