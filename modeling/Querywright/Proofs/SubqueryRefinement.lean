import Querywright.Proofs.FilledRuns
import Querywright.Proofs.NamedCalls

/-! Nested selects and builders. A nested select, renewed by every call and rendered when it is
asked, goes through the same as one builder without an executor that the same calls are made on. -/
namespace Querywright
open Work

/-- Calls in turn up to the first that fails: its reason, with the number of calls behind it. -/
def callAll {σ : Type} (step : NamedCall → σ → Except Error σ) :
    List NamedCall → σ → Except (Nat × Error) σ
  | [], state => .ok state
  | call :: rest, state =>
    match step call state with
    | .error reason => .error (rest.length, reason)
    | .ok next => callAll step rest next

theorem callAll_append {σ : Type} (step : NamedCall → σ → Except Error σ)
    (earlier later : List NamedCall) (state final : σ)
    (done : callAll step (earlier ++ later) state = .ok final) :
    ∃ between, callAll step earlier state = .ok between ∧
      callAll step later between = .ok final := by
  induction earlier generalizing state with
  | nil => exact ⟨state, rfl, done⟩
  | cons call rest ih =>
    rw [List.cons_append] at done
    unfold callAll at done
    cases stepped : step call state with
    | error reason =>
      rw [stepped] at done
      cases done
    | ok next =>
      rw [stepped] at done
      obtain ⟨between, first, second⟩ := ih next done
      refine ⟨between, ?_, second⟩
      unfold callAll
      rw [stepped]
      exact first

/-- A call on a nested select, as a step. -/
def Subquery.step (call : NamedCall) (subquery : Subquery) : Except Error Subquery :=
  subquery.call call.1 call.2

/-- The same call on a builder without an executor. -/
def Desk.step (call : NamedCall) (desk : Desk Unit) : Except Error (Desk Unit) :=
  match BuilderCall.ofName call.1 call.2 with
  | none => .error (.misuse (.noSuchOperation call.1))
  | some result => do
    let call ← result
    let (answer, after) := (call.perform {}).run desk
    answer.map fun _ => after

theorem fitNamed_text (text : String) :
    fitNamed "statement" .text (.text text) = .ok (.text text) := by
  unfold fitNamed
  rw [fit]
  rfl

/-- Where only clauses and results differ, the desk is that of a nested select again. -/
theorem Idle.shape {subquery : Subquery} {after : Desk Unit} (idle : Idle subquery.desk after)
    (unbound : after.builder.binding = none) (recorded : Option (String × List Value)) :
    after = Desk.withResults after.builder.results
      { subquery with clauses := after.builder.clauses, recorded := recorded }.desk := by
  obtain ⟨⟨clauses, settings, results, traces, binding, backing⟩, shelf, outside⟩ := after
  obtain ⟨rfl, rfl, rfl, rfl, -⟩ := idle
  cases unbound
  rfl

/-- A nested select and a builder that the same calls have come to: the builder differs by its
results only, which are what has been recorded if the last call was a terminal one. -/
structure StandsFor (terminal : Bool) (start subquery : Subquery) (desk : Desk Unit) : Prop where
  shape : desk = subquery.desk.withResults desk.builder.results
  recorded : subquery.recorded = if terminal then
    some (desk.builder.results.query.plain, desk.builder.results.arguments) else none
  textual : terminal = true → ∃ text, desk.builder.results.query = .text text
  uncounted : subquery.clauses.totalRequested = false
  derivedName : subquery.derivedName = start.derivedName
  pageLimit : subquery.pageLimit = start.pageLimit

/-- Both fail for the same reason, or both succeed with what is related. -/
inductive Alike {ε α β : Type} (related : α → β → Prop) : Except ε α → Except ε β → Prop
  | failure (reason : ε) : Alike related (.error reason) (.error reason)
  | success {left : α} {right : β} (same : related left right) :
    Alike related (.ok left) (.ok right)

namespace StandsFor

variable {terminal : Bool} {start subquery : Subquery} {desk : Desk Unit}

theorem derive (stands : StandsFor terminal start subquery desk) (call : ClauseCall)
    (other : call ≠ .requestTotal) :
    Alike (StandsFor false start) (subquery.derive call)
      ((((BuilderCall.clause call).perform {}).run desk).1.map fun _ =>
        (((BuilderCall.clause call).perform {}).run desk).2) := by
  have uncounted := call.apply_totalRequested other subquery.clauses
  have applied : (BuilderCall.applyClause call).run desk =
      ((call.apply subquery.clauses).1, Desk.withResults desk.builder.results
        { subquery with clauses := (call.apply subquery.clauses).2 }.desk) := by
    rw [stands.shape]
    rfl
  have performed : (BuilderCall.clause call).perform {} =
    (BuilderCall.applyClause call >>= fun _ => pure none : Work Unit (Option Value)) := rfl
  rw [performed, run_bind, applied]
  unfold Subquery.derive
  cases settled : call.apply subquery.clauses with
  | mk result clauses =>
    rw [settled] at uncounted
    cases result with
    | error reason => exact .failure reason
    | ok _ =>
      exact .success ⟨rfl, rfl, Bool.noConfusion, uncounted.trans stands.uncounted,
        stands.derivedName, stands.pageLimit⟩

theorem record (stands : StandsFor terminal start subquery desk) (call : TerminalCall)
    (selects : call.selects = true) (textual : call.IsTextual) :
    Alike (StandsFor true start) (subquery.record call)
      (((call.perform {}).run desk).1.map fun _ => ((call.perform {}).run desk).2) := by
  have scope : IsScope .all True (call.perform ({} : Setting Unit)) :=
    call.selects_scope selects textual
  have idle := call.selects_idle selects subquery.desk
  have settled := call.perform_settles {} textual subquery.desk
  have cleared := scope.clauses subquery.desk
  have unbound := scope.binding subquery.desk
  -- The builder has results of an earlier call, which a terminal operation does not look at.
  rw [stands.shape, scope.forgets]
  unfold Subquery.record
  cases ran : (call.perform {}).run subquery.desk with
  | mk result after =>
    rw [ran] at idle settled cleared unbound
    cases result with
    | error reason => exact .failure reason
    | ok value =>
      have balanced : after.builder.results.IsBalanced := by
        rcases settled.results with same | balanced
        · exact same ▸ Results.balanced_empty
        · exact balanced
      obtain ⟨text, query, -⟩ := balanced
      have recorded : invalidOr (fitNamed "statement" .text after.builder.results.query) =
          .ok (.text text) := by
        rw [query, fitNamed_text]
        rfl
      dsimp only
      rw [recorded]
      refine .success ⟨idle.shape unbound _, ?_, fun _ => ⟨text, query⟩, ?_, stands.derivedName,
        stands.pageLimit⟩
      · rw [if_pos rfl, query]
      · exact congrArg Clauses.totalRequested cleared

theorem step (stands : StandsFor terminal start subquery desk) (call : NamedCall)
    (known : call.IsKnown) :
    Alike (StandsFor call.isTerminal start) (subquery.step call) (desk.step call) := by
  obtain ⟨name, arguments⟩ := call
  unfold Subquery.step Subquery.call Desk.step NamedCall.isTerminal
  dsimp only
  by_cases clause : name ∈ Subquery.clauseNames
  · obtain ⟨result, named, other⟩ := NamedCall.clause_named name arguments clause
    have performed := NamedCall.clause_performed name arguments clause result named
    have added : Subquery.terminalNames.contains name = false := by
      rw [Bool.eq_false_iff]
      exact fun found => NamedCall.terminal_unclaused name (List.contains_iff_mem.mp found) clause
    rw [if_pos (List.contains_iff_mem.mpr clause), named, performed, added]
    cases result with
    | error reason => exact .failure reason
    | ok call => exact stands.derive call fun same => other (congrArg Except.ok same)
  · have terminal := known.known.resolve_left clause
    obtain ⟨result, named, performed, right⟩ :=
      NamedCall.terminal_named name arguments terminal known.textual
    rw [if_neg (fun found => clause (List.contains_iff_mem.mp found)),
      if_pos (List.contains_iff_mem.mpr terminal), named, performed,
      List.contains_iff_mem.mpr terminal]
    cases result with
    | error reason => exact .failure reason
    | ok call =>
      obtain ⟨selects, textual⟩ := right call rfl
      exact stands.record call selects textual

theorem run (stands : StandsFor terminal start subquery desk) (calls : List NamedCall)
    (known : ∀ call ∈ calls, call.IsKnown) :
    Alike (StandsFor ((calls.getLast?.map NamedCall.isTerminal).getD terminal) start)
      (callAll Subquery.step calls subquery) (callAll Desk.step calls desk) := by
  induction calls generalizing terminal subquery desk with
  | nil => exact .success stands
  | cons call rest ih =>
    have first := stands.step call (known call List.mem_cons_self)
    have later (terminal : Bool) :
        ((call :: rest).getLast?.map NamedCall.isTerminal).getD terminal =
          (rest.getLast?.map NamedCall.isTerminal).getD call.isTerminal := by
      rw [List.getLast?_cons]
      cases rest.getLast? <;> rfl
    rw [later]
    unfold callAll
    generalize subquery.step call = one at first
    generalize desk.step call = other at first
    cases first with
    | failure reason => exact .failure (rest.length, reason)
    | success same => exact ih same fun call member => known call (List.mem_cons_of_mem _ member)

end StandsFor

/-- The statement of a builder: the one that it has kept, or else the one that one more select
keeps. -/
def Desk.told (terminal : Bool) (desk : Desk Unit) : Except Error (Value × List Value) :=
  if terminal then .ok (desk.builder.results.query, desk.builder.results.arguments)
  else
    let (answer, after) := ((TerminalCall.get []).perform {}).run desk
    answer.map fun _ => (after.builder.results.query, after.builder.results.arguments)

namespace Subquery

theorem rendered_unrecorded (subquery : Subquery) (unrecorded : subquery.recorded = none) :
    subquery.rendered = subquery.clauses.select [] >>= Fragment.checked := by
  obtain ⟨clauses, pageLimit, derivedName, recorded⟩ := subquery
  cases unrecorded
  unfold rendered Clauses.select Clauses.selectWith columnsFragment
  simp only [bind_assoc, pure_bind]

theorem rendered_recorded (subquery : Subquery) (text : String) (arguments : List Value)
    (recorded : subquery.recorded = some (text, arguments)) :
    subquery.rendered = .ok ⟨text, arguments⟩ := by
  obtain ⟨clauses, pageLimit, derivedName, recorded⟩ := subquery
  cases recorded
  rfl

end Subquery

theorem StandsFor.rendered {terminal : Bool} {start subquery : Subquery} {desk : Desk Unit}
    (stands : StandsFor terminal start subquery desk) :
    desk.told terminal = subquery.rendered.map fun statement =>
      (.text statement.text, statement.arguments) := by
  cases terminal with
  | true =>
    obtain ⟨text, query⟩ := stands.textual rfl
    have recorded := stands.recorded
    rw [if_pos rfl, query] at recorded
    rw [subquery.rendered_recorded _ _ recorded]
    unfold Desk.told
    rw [if_pos rfl, query]
    rfl
  | false =>
    have clauses : desk.builder.clauses = subquery.clauses := by
      rw [stands.shape]
      rfl
    rw [subquery.rendered_unrecorded stands.recorded, ← clauses]
    unfold Desk.told
    cases rendered : desk.builder.clauses.select [] >>= Fragment.checked with
    | error reason =>
      rw [get_unrendered desk reason rendered]
      rfl
    | ok statement =>
      have uncounted : desk.builder.clauses.totalRequested = false := clauses ▸ stands.uncounted
      rw [get_rendered desk uncounted statement rendered]
      rfl

theorem Settings.ofOptions_pageLimit (pageLimit : Value) (settings : Settings)
    (ok : Settings.ofOptions [("page_limit", pageLimit)] = .ok settings) :
    ∃ number, settings = { pageLimit := .integer number } := by
  unfold Settings.ofOptions at ok
  dsimp only at ok
  split at ok
  · cases ok
  · rename_i fitted lockMethod tracing both
    cases ok
    obtain ⟨page, rest⟩ := besides_success both
    obtain ⟨locking, traced⟩ := besides_success rest
    cases locking
    cases traced
    change fitNamed "page_limit" .integer pageLimit = .ok fitted at page
    unfold fitNamed at page
    split at page
    · rename_i integer fits
      cases page
      rw [fit] at fits
      obtain ⟨number, same⟩ := fitInteger_integer pageLimit integer fits
      exact ⟨number, by rw [same]; rfl⟩
    · cases page

theorem Settings.fittedOr_fitting {name : String} {type : FieldType} {fallback value : Value}
    {options : Options} (present : options.lookup name = some value)
    (fits : fit [] type value = .ok { value := value }) :
    Settings.fittedOr name type fallback options = .ok value := by
  unfold Settings.fittedOr
  rw [present]
  dsimp only
  unfold fitNamed
  rw [fits]

theorem Settings.renewed_pageLimit (number : Int) :
    ({ pageLimit := .integer number } : Settings).renewed =
      .ok { pageLimit := .integer number } := by
  have page : fit [] .integer (.integer number) = .ok { value := .integer number } := by
    rw [fit]
    rfl
  have locking : fit [] .text (.text "WRITE") = .ok { value := .text "WRITE" } := by
    rw [fit]
    rfl
  have tracing : fit [] .truth (.truth false) = .ok { value := .truth false } := by
    rw [fit]
    rfl
  unfold Settings.renewed Settings.ofOptions
  rw [fittedOr_fitting rfl page, fittedOr_fitting rfl locking, fittedOr_fitting rfl tracing]
  rfl

/-- A new builder without an executor. -/
def Desk.renderOnly (pageLimit : Value) : Except Error (Desk Unit) :=
  (Settings.ofOptions [("page_limit", pageLimit)]).map fun settings =>
    ⟨{ settings := settings }, [], ()⟩

theorem StandsFor.opened {source : Builder} {derivedName : Value} {start : Subquery}
    (opened : source.subquery derivedName = .ok start) :
    start.clauses = {} ∧ ∃ desk, Desk.renderOnly source.settings.pageLimit = .ok desk ∧
      StandsFor false start start desk := by
  obtain ⟨settings, renewed, opened⟩ := bind_success opened
  obtain ⟨number, rfl⟩ := Settings.ofOptions_pageLimit _ settings renewed
  dsimp only at opened
  split at opened
  case h_2 => cases opened
  cases opened
  refine ⟨rfl, _, congrArg (Except.map _) renewed, ?_⟩
  exact ⟨rfl, rfl, Bool.noConfusion, rfl, rfl, rfl⟩

theorem StandsFor.copied {terminal : Bool} {start subquery : Subquery} {desk : Desk Unit}
    (stands : StandsFor terminal start subquery desk) :
    desk.builder.clone = .ok subquery.desk.builder := by
  rw [stands.shape]
  change (Settings.renewed { pageLimit := .integer subquery.pageLimit }).map _ = _
  rw [Settings.renewed_pageLimit]
  rfl

namespace Subquery

/-- The statement that was recorded plays no part in the next call. -/
theorem step_unrecorded (call : NamedCall) (known : call.IsKnown) (subquery : Subquery)
    (recorded : Option (String × List Value)) :
    step call { subquery with recorded := recorded } = step call subquery := by
  unfold step Subquery.call
  split
  · rfl
  · rename_i other
    have terminal := known.known.resolve_left fun clause =>
      other (List.contains_iff_mem.mpr clause)
    rw [if_pos (List.contains_iff_mem.mpr terminal), if_pos (List.contains_iff_mem.mpr terminal)]
    rfl

/-- A terminal call leaves nothing but the statement. -/
theorem step_terminal (call : NamedCall) (known : call.IsKnown) (terminal : call.isTerminal = true)
    (subquery after : Subquery) (stepped : step call subquery = .ok after) :
    after = { subquery with clauses := {}, recorded := after.recorded } := by
  have member : call.1 ∈ Subquery.terminalNames := List.contains_iff_mem.mp terminal
  have other := NamedCall.terminal_unclaused call.1 member
  obtain ⟨result, named, -, right⟩ := NamedCall.terminal_named call.1 call.2 member known.textual
  unfold step Subquery.call at stepped
  rw [if_neg fun found => other (List.contains_iff_mem.mp found),
    if_pos (List.contains_iff_mem.mpr member), named] at stepped
  obtain ⟨call, rfl, recorded⟩ := bind_success stepped
  obtain ⟨selects, textual⟩ := right call rfl
  have cleared := (call.selects_scope selects textual).clauses subquery.desk
  unfold record at recorded
  split at recorded
  · cases recorded
  · rename_i answer left ran
    rw [ran] at cleared
    obtain ⟨statement, -, rfl⟩ := map_success recorded
    rw [← cleared]

end Subquery

/-- What a nested select and a builder have in common that the same calls have come to. The select
keeps its name and holds a copy of the builder, and its statement is the one that the builder has
kept, or would keep with one more select. The calls up to a terminal one are gone with the next. -/
structure Subquery.Mirrors (start : Subquery) (calls : List NamedCall) (final : Subquery)
    (after : Desk Unit) : Prop where
  derivedName : final.derivedName = start.derivedName
  copied : after.builder.clone = .ok final.desk.builder
  query : final.query.map .text =
    (after.told (calls.getLast?.any NamedCall.isTerminal)).map Prod.fst
  parameters : final.parameters =
    (after.told (calls.getLast?.any NamedCall.isTerminal)).map Prod.snd
  onwards : ∀ earlier last later, calls = earlier ++ last :: later → last.isTerminal = true →
    later ≠ [] → callAll Subquery.step later start = .ok final

theorem Subquery.onwards {start final : Subquery} {desk : Desk Unit} (empty : start.clauses = {})
    (stands : StandsFor false start start desk) (earlier later : List NamedCall) (last : NamedCall)
    (known : ∀ call ∈ earlier ++ last :: later, call.IsKnown)
    (done : callAll Subquery.step (earlier ++ last :: later) start = .ok final)
    (terminal : last.isTerminal = true) (more : later ≠ []) :
    callAll Subquery.step later start = .ok final := by
  obtain ⟨between, first, second⟩ := callAll_append _ earlier (last :: later) start final done
  have reached := stands.run earlier fun call member => known call (List.mem_append_left _ member)
  rw [first] at reached
  generalize callAll Desk.step earlier desk = other at reached
  obtain ⟨⟩ | ended := reached
  have known (call : NamedCall) (member : call ∈ last :: later) : call.IsKnown :=
    known call (List.mem_append_right _ member)
  unfold callAll at second
  cases stepped : step last between with
  | error reason =>
    rw [stepped] at second
    cases second
  | ok next =>
    rw [stepped] at second
    dsimp only at second
    have left := step_terminal last (known last List.mem_cons_self) terminal between next stepped
    have same : next = { start with recorded := next.recorded } := by
      rw [left, ended.derivedName, ended.pageLimit, ← empty]
    obtain ⟨call, rest, rfl⟩ := List.exists_cons_of_ne_nil more
    have unseen := step_unrecorded call
      (known call (List.mem_cons_of_mem _ List.mem_cons_self)) start next.recorded
    rw [same] at second
    unfold callAll at second ⊢
    rwa [unseen] at second

/-- The same calls on a nested select and on a builder without an executor fail at the same place
for the same reason, or come to the same statement. -/
theorem subquery_mirrors_builder (source : Builder) (derivedName : Value) (start : Subquery)
    (opened : source.subquery derivedName = .ok start) (calls : List NamedCall)
    (known : ∀ call ∈ calls, call.IsKnown) :
    ∃ desk, Desk.renderOnly source.settings.pageLimit = .ok desk ∧
      Alike (start.Mirrors calls) (callAll Subquery.step calls start)
        (callAll Desk.step calls desk) := by
  obtain ⟨empty, desk, fresh, stands⟩ := StandsFor.opened opened
  refine ⟨desk, fresh, ?_⟩
  have course := stands.run calls known
  have same : (calls.getLast?.map NamedCall.isTerminal).getD false =
      calls.getLast?.any NamedCall.isTerminal := by
    cases calls.getLast? <;> rfl
  rw [same] at course
  generalize called : callAll Subquery.step calls start = one at course ⊢
  generalize callAll Desk.step calls desk = other at course ⊢
  cases course with
  | failure reason => exact .failure reason
  | @success final after ended =>
    refine .success ⟨ended.derivedName, ended.copied, ?_, ?_, ?_⟩
    · rw [ended.rendered, Subquery.query]
      cases final.rendered <;> rfl
    · rw [ended.rendered, Subquery.parameters]
      cases final.rendered <;> rfl
    · rintro earlier last later rfl terminal more
      exact Subquery.onwards empty stands earlier later last known called terminal more

theorem Subquery.step_rawQuery (written : Value) (text : String)
    (balanced : Placeholder.checkBalance written 0 = .ok ())
    (fits : fitNamed "statement" .text written = .ok (.text text)) (subquery : Subquery) :
    Subquery.step ("raw_query", [written]) subquery =
      .ok { subquery with clauses := {}, recorded := some (text, []) } := by
  have named : Subquery.step ("raw_query", [written]) subquery =
      subquery.record (.rawQuery written []) := rfl
  rw [named, Subquery.record, rawQuery_kept written [] balanced]
  dsimp only
  change (invalidOr (fitNamed "statement" .text written)).map _ = _
  rw [fits]
  rfl

def unnamed : Subquery :=
  { clauses := {}, pageLimit := 20, derivedName := none, recorded := none }

theorem unnamed_opened : ({} : Builder).subquery .null = .ok unnamed := by
  have page : fit [] .integer (.integer 20) = .ok { value := .integer 20 } := by
    rw [fit]
    rfl
  have name : fit [] (.optional .text) .null = .ok { value := .null } := by
    rw [fit.eq_def]
    rfl
  unfold Builder.subquery Subquery.make Settings.ofOptions fitNamed
  rw [Settings.fittedOr_fitting rfl page, name]
  rfl

def rawThenTable : List NamedCall :=
  [("raw_query", [.text "SELECT 1"]), ("table", [.text "T"])]

theorem rawThenTable_mirrors : ({} : Builder).subquery .null = .ok unnamed ∧
    (∀ call ∈ rawThenTable, call.IsKnown) ∧
    ∃ desk final after, Desk.renderOnly (.integer 20) = .ok desk ∧
      callAll Subquery.step rawThenTable unnamed = .ok final ∧
      callAll Desk.step rawThenTable desk = .ok after ∧
      final.query = .ok "SELECT * FROM T" ∧ unnamed.Mirrors rawThenTable final after := by
  have known : ∀ call ∈ rawThenTable, call.IsKnown := by
    unfold rawThenTable
    simp only [List.forall_mem_cons]
    refine ⟨⟨by decide, ?_⟩, ⟨by decide, fun same => absurd same (by decide)⟩, by simp⟩
    rintro - written ⟨⟩
    exact ⟨_, rfl⟩
  obtain ⟨desk, fresh, course⟩ :=
    subquery_mirrors_builder {} .null unnamed unnamed_opened rawThenTable known
  have raw : Subquery.step ("raw_query", [.text "SELECT 1"]) unnamed =
      .ok { unnamed with recorded := some ("SELECT 1", []) } :=
    Subquery.step_rawQuery _ _ rfl (fitNamed_text "SELECT 1") _
  have called : callAll Subquery.step rawThenTable unnamed =
      .ok { unnamed with clauses := { tables := [.text "T"] } } := by
    unfold rawThenTable callAll
    rw [raw]
    rfl
  have rendered : Subquery.query { unnamed with clauses := { tables := [.text "T"] } } =
      .ok "SELECT * FROM T" := by
    unfold Subquery.query
    rw [Subquery.rendered_unrecorded _ rfl, selected_rendered]
    have checked : Fragment.checked ⟨"SELECT * FROM T", []⟩ = .ok ⟨"SELECT * FROM T", []⟩ :=
      if_pos selected_balanced
    exact congrArg (Except.map Fragment.text) checked
  rw [called] at course
  generalize ran : callAll Desk.step rawThenTable desk = other at course
  obtain ⟨⟩ | mirrors := course
  exact ⟨unnamed_opened, known, desk, _, _, fresh, called, ran, rendered, mirrors⟩

def octets : List UInt8 :=
  [83, 69, 76, 69, 67, 84, 32, 49]

def selectOctets : NamedCall :=
  ("raw_query", [.octets octets])

/-- A statement given as octets, which raw statements are not declared to be: the nested select has
it as a text, the builder as it came. -/
theorem octets_decoded : ({} : Builder).subquery .null = .ok unnamed ∧
    (callAll Subquery.step [selectOctets] unnamed).map Subquery.query = .ok (.ok "SELECT 1") ∧
    (callAll Desk.step [selectOctets] ⟨{}, [], ()⟩).map (fun desk => desk.builder.results.query) =
      .ok (.octets octets) := by
  have balanced : Placeholder.checkBalance (.octets octets) 0 = .ok () := rfl
  have decoded : fitNamed "statement" .text (.octets octets) = .ok (.text "SELECT 1") := by
    unfold fitNamed
    rw [fit]
    rfl
  have recorded : Subquery.step selectOctets unnamed =
      .ok { unnamed with recorded := some ("SELECT 1", []) } :=
    Subquery.step_rawQuery _ _ balanced decoded _
  have kept : Desk.step selectOctets ⟨{}, [], ()⟩ =
      .ok ⟨{ results := { query := .octets octets } }, [], ()⟩ :=
    congrArg (fun outcome => outcome.1.map fun _ => outcome.2)
      (rawQuery_kept (.octets octets) [] balanced (⟨{}, [], ()⟩ : Desk Unit))
  refine ⟨unnamed_opened, ?_, ?_⟩
  · unfold callAll
    rw [recorded]
    rfl
  · unfold callAll
    rw [kept]
    rfl

end Querywright
