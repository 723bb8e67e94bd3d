import Mathlib.Data.List.Basic
import Querywright.Proofs.BuilderRuns
import Querywright.Proofs.NamedDatabases
import Querywright.Session.Calling

/-! Calls on a builder that are refused. A call that gathers a clause, makes a setting or binds a
destination leaves everything as it was when it is refused, with one exception: query options are
taken one by one, so those in front of an unknown one stay. -/
namespace Querywright

namespace Clauses

/-- The same clauses with other options. -/
def withOptions (options : List String) (clauses : Clauses) : Clauses :=
  { clauses with options := options }

@[simp] theorem withOptions_self (clauses : Clauses) :
    clauses.withOptions clauses.options = clauses := by
  cases clauses
  rfl

/-- A known option that was not set before stands in front of the first unknown one. -/
def AddsFirst (chosen : List Value) (clauses : Clauses) : Prop :=
  ∃ option ∈ chosen.takeWhile fun option => (queryOption? option).isSome,
    ∃ keyword, queryOption? option = some keyword ∧ keyword ∉ clauses.options

theorem addOption_cases (option : Value) (clauses : Clauses) :
    (queryOption? option = none ∧
      clauses.addOption option = .error (.unknownOption option.plain)) ∨
    ∃ keyword, queryOption? option = some keyword ∧
      ((keyword ∈ clauses.options ∧ clauses.addOption option = .ok clauses) ∨
        (keyword ∉ clauses.options ∧ clauses.addOption option =
          .ok (clauses.withOptions (clauses.options ++ [keyword])))) := by
  unfold addOption
  cases queryOption? option with
  | none => exact .inl ⟨rfl, rfl⟩
  | some keyword =>
    refine .inr ⟨keyword, rfl, ?_⟩
    dsimp only
    split
    · rename_i present
      exact .inl ⟨List.contains_iff_mem.mp present, rfl⟩
    · rename_i absent
      exact .inr ⟨fun present => absent (List.contains_iff_mem.mpr present), rfl⟩

/-- Nothing but the options may change, and those that were set stay in front. -/
theorem addOptions_frame (chosen : List Value) (clauses : Clauses) :
    ∃ added, (clauses.addOptions chosen).2 =
      clauses.withOptions (clauses.options ++ added) := by
  induction chosen generalizing clauses with
  | nil => exact ⟨[], by rw [List.append_nil, withOptions_self]; rfl⟩
  | cons option rest ih =>
    unfold addOptions
    obtain ⟨-, refused⟩ | ⟨keyword, -, ⟨-, taken⟩ | ⟨-, taken⟩⟩ :=
      clauses.addOption_cases option
    · rw [refused]
      exact ⟨[], by rw [List.append_nil, withOptions_self]⟩
    · rw [taken]
      exact ih clauses
    · rw [taken]
      obtain ⟨added, same⟩ := ih (clauses.withOptions (clauses.options ++ [keyword]))
      refine ⟨keyword :: added, same.trans ?_⟩
      unfold withOptions
      rw [List.append_assoc, List.singleton_append]

theorem addOptions_same_iff (chosen : List Value) (clauses : Clauses) :
    (clauses.addOptions chosen).2 = clauses ↔ ¬clauses.AddsFirst chosen := by
  induction chosen generalizing clauses with
  | nil => simp [addOptions, AddsFirst]
  | cons option rest ih =>
    unfold addOptions AddsFirst
    obtain ⟨unknown, refused⟩ | ⟨keyword, known, ⟨present, taken⟩ | ⟨absent, taken⟩⟩ :=
      clauses.addOption_cases option
    · rw [refused, List.takeWhile_cons_of_neg (by simp [unknown])]
      simp
    · rw [taken, List.takeWhile_cons_of_pos (by simp [known]), List.exists_mem_cons_iff]
      dsimp only
      rw [ih clauses]
      unfold AddsFirst
      simp [known, present]
    · rw [taken, List.takeWhile_cons_of_pos (by simp [known]), List.exists_mem_cons_iff]
      refine ⟨fun unchanged => ?_, fun none => absurd (.inl ⟨keyword, known, absent⟩) none⟩
      obtain ⟨added, same⟩ :=
        addOptions_frame rest (clauses.withOptions (clauses.options ++ [keyword]))
      have grown : clauses.options ++ [keyword] ++ added = clauses.options :=
        congrArg Clauses.options (same.symm.trans unchanged)
      simp at grown

end Clauses

namespace ClauseCall

/-- A call of which a part is taken even when it is refused. -/
def TakesPart (clauses : Clauses) : ClauseCall → Prop
  | .options chosen => clauses.AddsFirst chosen
  | _ => False

theorem settle_refused {clauses after : Clauses} {reason : Error}
    {result : Except Error Clauses} (refused : settle clauses result = (.error reason, after)) :
    after = clauses := by
  cases result with
  | ok changed => cases refused
  | error reason =>
    cases refused
    rfl

theorem apply_refused {call : ClauseCall} {clauses after : Clauses} {reason : Error}
    (refused : call.apply clauses = (.error reason, after)) :
    ∃ options, after = clauses.withOptions options ∧
      (options = clauses.options ↔ ¬call.TakesPart clauses) := by
  have whole (same : after = clauses) : ∃ options, after = clauses.withOptions options ∧
      (options = clauses.options ↔ ¬False) :=
    ⟨clauses.options, by rw [same, Clauses.withOptions_self], by simp⟩
  cases call with
  | options chosen =>
    obtain ⟨added, same⟩ := Clauses.addOptions_frame chosen clauses
    have outcome : (clauses.addOptions chosen).2 = after := congrArg Prod.snd refused
    refine ⟨_, outcome.symm.trans same, ?_⟩
    rw [TakesPart, ← Clauses.addOptions_same_iff chosen clauses, same]
    constructor
    · intro kept
      rw [kept, Clauses.withOptions_self]
    · exact congrArg Clauses.options
  | table | groupBy | requestTotal => cases refused
  | restrict | restrictGroups | join | restrictJoin | orderBy | limit | onDuplicate =>
    exact whole (settle_refused refused)

end ClauseCall

def Builder.withOptions (options : List String) (builder : Builder) : Builder :=
  { builder with clauses := builder.clauses.withOptions options }

theorem Builder.withOptions_eq_self_iff (options : List String) (builder : Builder) :
    builder.withOptions options = builder ↔ options = builder.clauses.options := by
  constructor
  · intro same
    exact congrArg (fun builder => builder.clauses.options) same
  · rintro rfl
    unfold Builder.withOptions
    rw [Clauses.withOptions_self]

namespace BuilderCall

variable {τ : Type}

/-- A call that only changes the builder: its clauses, its settings or what it is bound to. -/
def Prepares : BuilderCall → Prop
  | .terminal _ => False
  | _ => True

def TakesPart (clauses : Clauses) : BuilderCall → Prop
  | .clause call => call.TakesPart clauses
  | _ => False

theorem replaceBuilder_refused {change : Desk τ → Except Error Builder} {desk after : Desk τ}
    {reason : Error} (refused : (replaceBuilder change).run desk = (.error reason, after)) :
    after = desk := by
  rw [run_replaceBuilder] at refused
  split at refused <;> cases refused
  rfl

/-- What is left on the desk by a call that is refused. -/
theorem perform_refused (itself : Bool) (setting : Setting τ) {call : BuilderCall}
    (prepares : call.Prepares) {desk after : Desk τ} {reason : Error}
    (refused : (call.performAs itself setting).run desk = (.error reason, after)) :
    ∃ options, after = { desk with builder := desk.builder.withOptions options } ∧
      (options = desk.builder.clauses.options ↔ ¬call.TakesPart desk.builder.clauses) := by
  -- Bindings and settings replace the builder in one step, or not at all.
  have whole {change : Desk τ → Except Error Builder}
      (refused : (do replaceBuilder change; return none : Work τ (Option Value)).run desk =
        (.error reason, after)) :
      ∃ options, after = { desk with builder := desk.builder.withOptions options } ∧
        (options = desk.builder.clauses.options ↔ ¬False) := by
    rw [Work.run_bind] at refused
    split at refused
    · cases refused
    · rename_i changed
      cases refused
      have same := replaceBuilder_refused changed
      refine ⟨desk.builder.clauses.options, ?_, by simp⟩
      rw [same, (Builder.withOptions_eq_self_iff _ _).mpr rfl]
  cases call with
  | terminal call => exact prepares.elim
  | bind | setLockMethod | setTrace => exact whole refused
  | clause call =>
    change (do applyClause call; return none : Work τ (Option Value)).run desk = _ at refused
    rw [Work.run_bind] at refused
    split at refused
    · cases refused
    · rename_i applied
      cases refused
      have outcome : (call.apply desk.builder.clauses).1 = .error reason :=
        congrArg Prod.fst applied
      obtain ⟨options, left, kept⟩ :=
        ClauseCall.apply_refused (Prod.ext outcome (rfl : _ = (call.apply _).2))
      have changed : { desk with builder := { desk.builder with
        clauses := (call.apply desk.builder.clauses).2 } } = after := congrArg Prod.snd applied
      exact ⟨options, changed.symm.trans (congrArg (fun clauses =>
        { desk with builder := { desk.builder with clauses := clauses } }) left), kept⟩

end BuilderCall

namespace Session

variable {σ : Type}

/-- The destinations on the shelf, those that are builders shown as they are now. -/
def destinations (session : Session σ) : Shelf :=
  session.shelf.map (Action.refreshed session.builders)

/-- A session that kept all it had: every builder with all its fields, every destination with its
content, and what the builders work on. A destination that was offered may stand behind the others.
-/
structure Kept (before after : Session σ) : Prop where
  builders : after.builders = before.builders
  destinations : before.destinations <+: after.destinations
  network : after.network = before.network
  pools : after.pools = before.pools
  names : after.names = before.names
  schema : after.schema = before.schema

theorem Kept.refl (session : Session σ) : session.Kept session :=
  ⟨rfl, List.prefix_refl _, rfl, rfl, rfl, rfl⟩

theorem Kept.trans {before between after : Session σ} (first : before.Kept between)
    (second : between.Kept after) : before.Kept after :=
  { builders := second.builders.trans first.builders
    destinations := first.destinations.trans second.destinations
    network := second.network.trans first.network
    pools := second.pools.trans first.pools
    names := second.names.trans first.names
    schema := second.schema.trans first.schema }

theorem refreshed_again (builders others : List Builder) (destination : Destination) :
    Action.refreshed builders (Action.refreshed others destination) =
      Action.refreshed builders destination := by
  cases destination <;> rfl

/-- A builder that is only shown has nothing to take over. -/
theorem takeOver_refreshed (number : Nat) (builders others : List Builder)
    (destination : Destination) :
    Action.takeOver number builders (Action.refreshed others destination) = builders := by
  cases destination with
  | builder other fields changes =>
    unfold Action.refreshed Action.takeOver
    dsimp only
    split
    · rfl
    · exact List.modify_id other builders
  | _ => rfl

theorem foldl_takeOver_refreshed (number : Nat) (others : List Builder) (shelf : Shelf)
    (builders : List Builder) :
    (shelf.map (Action.refreshed others)).foldl (Action.takeOver number) builders = builders := by
  induction shelf generalizing builders with
  | nil => rfl
  | cons destination rest ih =>
    rw [List.map_cons, List.foldl_cons, takeOver_refreshed, ih]

/-- The session with another builder under a number. -/
def withBuilder (number : Nat) (builder : Builder) (session : Session σ) : Session σ :=
  { session with builders := session.builders.set number builder }

section There

variable {engine : Engine σ} {number : Nat} {builder : Builder} {session after : Session σ}
  {reason : Error} (there : session.builders[number]? = some builder)

include there

theorem withBuilder_self : session.withBuilder number builder = session := by
  obtain ⟨inside, found⟩ := List.getElem?_eq_some_iff.mp there
  unfold withBuilder
  rw [← found, List.set_getElem_self]

theorem eq_of_withBuilder_builders {other : Builder}
    (same : (session.withBuilder number other).builders = session.builders) :
    other = builder := by
  obtain ⟨inside, -⟩ := List.getElem?_eq_some_iff.mp there
  have set : (session.withBuilder number other).builders[number]? = some other :=
    List.getElem?_set_self inside
  rw [same, there] at set
  exact (Option.some.inj set).symm

theorem work_result {α : Type} (body : Work (Network σ) α) :
    ((Action.work number body).run session).1 =
      (body.run ⟨builder, session.destinations, session.network⟩).1 := by
  unfold Action.work ExceptT.run ExceptT.mk
  dsimp only
  rw [there]
  rfl

/-- Work that leaves the destinations and the network alone changes nothing but its builder. -/
theorem work_run {α : Type} {body : Work (Network σ) α} {other : Builder}
    {result : Except Error α}
    (ran : body.run ⟨builder, session.destinations, session.network⟩ =
      (result, ⟨other, session.destinations, session.network⟩)) :
    (Action.work number body).run session = (result,
      { session.withBuilder number other with shelf := session.destinations }) := by
  unfold destinations ExceptT.run at ran
  unfold Action.work ExceptT.run ExceptT.mk
  dsimp only
  rw [there]
  dsimp only
  rw [ran]
  dsimp only
  rw [foldl_takeOver_refreshed]
  rfl

/-- A refused call leaves everything but the options of its builder; these stay too, unless a part of
the call was taken. -/
theorem work_refused (itself : Bool) (setting : Setting (Network σ)) {call : BuilderCall}
    (prepares : call.Prepares)
    (refused : (Action.work number (call.performAs itself setting)).run session =
      (.error reason, after)) :
    ∃ options, (session.withBuilder number (builder.withOptions options)).Kept after ∧
      (options = builder.clauses.options ↔ ¬call.TakesPart builder.clauses) := by
  have failed := work_result there (call.performAs itself setting)
  rw [refused] at failed
  obtain ⟨options, left, kept⟩ :=
    call.perform_refused itself setting prepares (Prod.ext failed.symm rfl)
  rw [work_run there (Prod.ext failed.symm left)] at refused
  cases refused
  refine ⟨options, ⟨rfl, ?_, rfl, rfl, rfl, rfl⟩, kept⟩
  have same : destinations { session.withBuilder number (builder.withOptions options) with
      shelf := session.destinations } =
      (session.withBuilder number (builder.withOptions options)).destinations := by
    unfold destinations
    rw [List.map_map]
    exact List.map_congr_left fun destination _ => refreshed_again _ _ destination
  rw [same]

end There

/-! Calls by name -/

/-- The calls that change the builder only. -/
def preparingNames : List String :=
  Subquery.clauseNames ++
    ["with_total_count", "on_duplicate", "set_lock_method", "set_trace", "bind"]

/-- A name together with arguments of any number either is refused for their number or is a call, of
which a part may be taken if it sets options. -/
theorem ofName_prepares {name : String} (listed : name ∈ preparingNames) (unbound : name ≠ "bind")
    (values : List Value) :
    (name ≠ "set_query_option" ∧
      BuilderCall.ofName name values = some (.error (.misuse .argumentCount))) ∨
    ∃ call, BuilderCall.ofName name values = some (.ok call) ∧ call.Prepares ∧
      ∀ clauses, call.TakesPart clauses ↔
        name = "set_query_option" ∧ clauses.AddsFirst values := by
  revert name
  unfold preparingNames Subquery.clauseNames
  simp only [List.cons_append, List.nil_append, List.forall_mem_cons]
  refine ⟨?_, ?_, ?_, ?_, ?_, ?_, ?_, ?_, ?_, ?_, ?_, ?_, ?_, ?_, ?_, ?_, ?_, ?_, ?_, ?_, ?_,
    ?_, ?_⟩
  -- One goal for each name in the order of the list, and one for its end.
  case refine_22 => exact fun unbound => absurd rfl unbound
  case refine_23 => simp
  case refine_17 =>
    exact fun _ => .inr ⟨_, rfl, trivial, fun clauses => ⟨fun taken => ⟨trivial, taken⟩, And.right⟩⟩
  all_goals
    intro _
    rcases values with _ | ⟨one, _ | ⟨two, _ | ⟨three, _ | ⟨four, rest⟩⟩⟩⟩ <;>
      first
      | exact .inl ⟨by decide, rfl⟩
      | exact .inr ⟨_, rfl, trivial, fun clauses =>
          ⟨False.elim, fun named => absurd named.1 (by decide)⟩⟩

theorem callBuilder_performs {engine : Engine σ} {number : Nat} {name : String}
    (listed : name ∈ preparingNames) (unbound : name ≠ "bind") (arguments : List Argument)
    (session : Session σ) :
    (callBuilder engine number name arguments).run session =
      (performCall engine number name (arguments.map Argument.value)).run session := by
  revert name
  unfold preparingNames Subquery.clauseNames
  simp only [List.cons_append, List.nil_append, List.forall_mem_cons]
  refine ⟨?_, ?_, ?_, ?_, ?_, ?_, ?_, ?_, ?_, ?_, ?_, ?_, ?_, ?_, ?_, ?_, ?_, ?_, ?_, ?_, ?_,
    ?_, ?_⟩
  case refine_22 => exact fun unbound => absurd rfl unbound
  case refine_23 => simp
  all_goals
    exact fun _ => rfl

theorem slotOf_kept (destination : Argument) (session : Session σ) :
    session.Kept ((slotOf destination).run session).2 := by
  have added (fresh : Destination) :
      session.Kept ((Action.addDestination fresh).run session).2 := by
    refine ⟨rfl, ?_, rfl, rfl, rfl, rfl⟩
    change session.shelf.map _ <+: (session.shelf ++ [fresh]).map _
    rw [List.map_append]
    exact List.prefix_append _ _
  unfold slotOf
  split
  · exact .refl session
  · exact added _
  · split
    · exact added _
    · exact .refl session

theorem run_builder (number : Nat) (session : Session σ) :
    (Action.builder number).run session =
      (.ok ((session.builders[number]?).getD {}), session) :=
  rfl

theorem run_get (session : Session σ) :
    (get : Action σ (Session σ)).run session = (.ok session, session) :=
  rfl

/-- What follows on a step and never fails is not what failed. -/
theorem refused_first {α β : Type} {first : Action σ α} {next : α → Action σ β}
    {session after : Session σ} {reason : Error}
    (answers : ∀ value between, ∃ reply, (next value).run between = (.ok reply, between))
    (refused : (first >>= next).run session = (.error reason, after)) :
    first.run session = (.error reason, after) := by
  cases ran : first.run session with
  | mk result between =>
    cases result with
    | error other =>
      rw [run_bind_error ran next] at refused
      cases refused
      rfl
    | ok value =>
      obtain ⟨reply, replied⟩ := answers value between
      rw [run_bind_ok ran next, replied] at refused
      cases refused

section There

variable {engine : Engine σ} {number : Nat} {builder : Builder} {session after : Session σ}
  {reason : Error} (there : session.builders[number]? = some builder)

include there

theorem performCall_refused {name : String} (listed : name ∈ preparingNames)
    (unbound : name ≠ "bind") (values : List Value)
    (refused : (performCall engine number name values).run session = (.error reason, after)) :
    ∃ options, (session.withBuilder number (builder.withOptions options)).Kept after ∧
      (options = builder.clauses.options ↔
        ¬(name = "set_query_option" ∧ builder.clauses.AddsFirst values)) := by
  unfold performCall at refused
  obtain ⟨other, named⟩ | ⟨call, named, prepares, takes⟩ :=
    ofName_prepares listed unbound values
  · rw [named] at refused
    cases refused
    refine ⟨builder.clauses.options, ?_, fun _ named => other named.1, fun _ => rfl⟩
    rw [(Builder.withOptions_eq_self_iff _ _).mpr rfl, withBuilder_self there]
    exact .refl session
  · rw [named] at refused
    dsimp only at refused
    rw [run_bind_ok (Action.run_ofResult (.ok call) session),
      run_bind_ok (run_builder number session), run_bind_ok (run_get session),
      run_bind_ok (run_get session)] at refused
    have failed := refused_first (fun value between => by
      cases value <;> exact ⟨_, rfl⟩) refused
    obtain ⟨options, keeps, kept⟩ := work_refused there _ _ prepares failed
    exact ⟨options, keeps, kept.trans (not_congr (takes _))⟩

/-- What was taken of the options stays with the builder. -/
theorem setOptions_refused {arguments : List Argument} {clauses : Clauses}
    (taken : builder.clauses.addOptions (arguments.map Argument.value) =
      (.error reason, clauses)) :
    (callBuilder engine number "set_query_option" arguments).run session = (.error reason,
      { session.withBuilder number { builder with clauses := clauses } with
        shelf := session.destinations }) := by
  let setting := Action.setting engine ((session.builders[number]?).getD {}) session
  let call := BuilderCall.clause (.options (arguments.map Argument.value))
  have applied : (call.performAs (session.isOwnDestination number) setting).run
      ⟨builder, session.destinations, session.network⟩ = (.error reason,
        ⟨{ builder with clauses := clauses }, session.destinations, session.network⟩) := by
    refine run_bind_error ?_ _
    change ((builder.clauses.addOptions _).1, Desk.mk { builder with
      clauses := (builder.clauses.addOptions _).2 } _ _) = _
    rw [taken]
  have named : BuilderCall.ofName "set_query_option" (arguments.map Argument.value) =
    some (.ok call) := rfl
  rw [callBuilder_performs (by decide) (by decide)]
  unfold performCall
  rw [named]
  dsimp only
  rw [run_bind_ok (Action.run_ofResult (.ok call) session),
    run_bind_ok (run_builder number session), run_bind_ok (run_get session),
    run_bind_ok (run_get session), run_bind_error (work_run there applied)]

theorem bindDestination_refused (destination : Argument) (rule : ElementRule)
    (refused : (bindDestination engine number destination rule).run session =
      (.error reason, after)) : session.Kept after := by
  unfold bindDestination at refused
  cases placed : (slotOf destination).run session with
  | mk result between =>
    have kept : session.Kept between := by
      have kept := slotOf_kept destination session
      rwa [placed] at kept
    cases result with
    | error other =>
      rw [run_bind_error placed] at refused
      cases refused
      exact kept
    | ok slot =>
      rw [run_bind_ok placed, run_bind_ok (run_builder number between),
        run_bind_ok (run_get between)] at refused
      have failed := refused_first (fun _ _ => ⟨_, rfl⟩) refused
      have still : between.builders[number]? = some builder := kept.builders ▸ there
      have prepares : (BuilderCall.bind slot rule).Prepares := trivial
      obtain ⟨options, keeps, same⟩ := work_refused still false _ prepares failed
      rw [(Builder.withOptions_eq_self_iff _ _).mpr (same.mpr id), withBuilder_self still] at keeps
      exact kept.trans keeps

end There

/-- A refused call that gathers a clause, makes a setting or binds a destination leaves everything
as it was exactly if it does not set an option in front of one that is unknown. Such a call changes
nothing but the options. -/
theorem refused_call_keeps (engine : Engine σ) (session after : Session σ) (number : Nat)
    (builder : Builder) (there : session.builders[number]? = some builder) (name : String)
    (listed : name ∈ preparingNames) (arguments : List Argument) (reason : Error)
    (refused : (callBuilder engine number name arguments).run session = (.error reason, after)) :
    (session.Kept after ↔ ¬(name = "set_query_option" ∧
      builder.clauses.AddsFirst (arguments.map Argument.value))) ∧
    ∃ options, (session.withBuilder number (builder.withOptions options)).Kept after := by
  by_cases binds : name = "bind"
  · subst binds
    have kept : session.Kept after := by
      rcases arguments with _ | ⟨destination, _ | ⟨element, _ | ⟨third, rest⟩⟩⟩
      case cons.nil => exact bindDestination_refused there _ _ refused
      case cons.cons.nil => exact bindDestination_refused there _ _ refused
      all_goals
        cases refused
        exact .refl session
    refine ⟨⟨fun _ named => absurd named.1 (by decide), fun _ => kept⟩, builder.clauses.options, ?_⟩
    rwa [(Builder.withOptions_eq_self_iff _ _).mpr rfl, withBuilder_self there]
  · rw [callBuilder_performs listed binds] at refused
    obtain ⟨options, keeps, kept⟩ := performCall_refused there listed binds _ refused
    refine ⟨?_, options, keeps⟩
    rw [← kept, ← Builder.withOptions_eq_self_iff]
    constructor
    · intro same
      exact eq_of_withBuilder_builders there (keeps.builders.symm.trans same.builders)
    · intro same
      rwa [same, withBuilder_self there] at keeps

end Session

namespace Rehearsal

/-- A builder with some options, and nothing else. -/
def optioned (options : List String) : Builder :=
  { clauses := { options := options } }

def optionedSession (options : List String) : Session Rehearsal :=
  { network := { world := { outside := {} } }, builders := [optioned options] }

/-- A known option and an unknown one behind it. -/
def mixedOptions : List Argument :=
  [{ value := .text "DISTINCT" }, { value := .text "TURBO" }]

end Rehearsal

theorem option_distinct : queryOption? (.text "DISTINCT") = some "DISTINCT" := by
  decide +kernel

theorem option_turbo : queryOption? (.text "TURBO") = none := by
  decide +kernel

theorem mixedOptions_taken (clauses : Clauses)
    (few : clauses.options = [] ∨ clauses.options = ["DISTINCT"]) :
    clauses.addOptions (Rehearsal.mixedOptions.map Argument.value) =
      (.error (.unknownOption "TURBO"), clauses.withOptions ["DISTINCT"]) := by
  have shown : (Value.text "TURBO").plain = "TURBO" := rfl
  rcases few with none | one
  · simp [Rehearsal.mixedOptions, Clauses.addOptions, Clauses.addOption, option_distinct,
      option_turbo, none, shown, Clauses.withOptions]
  · simp [Rehearsal.mixedOptions, Clauses.addOptions, Clauses.addOption, option_distinct,
      option_turbo, one, shown]
    rw [← one, Clauses.withOptions_self]

/-- An option that was set before is no part to be taken. -/
theorem repeated_option_kept :
    let session := Rehearsal.optionedSession ["DISTINCT"]
    let outcome := (Session.callBuilder Rehearsal.engine 0 "set_query_option"
      Rehearsal.mixedOptions).run session
    session.builders[0]? = some (Rehearsal.optioned ["DISTINCT"]) ∧
      "set_query_option" ∈ Session.preparingNames ∧
      outcome.1 = .error (.unknownOption "TURBO") ∧ session.Kept outcome.2 := by
  intro session outcome
  have there : session.builders[0]? = some (Rehearsal.optioned ["DISTINCT"]) := rfl
  have refused : outcome.1 = .error (.unknownOption "TURBO") :=
    congrArg Prod.fst (Session.setOptions_refused there (mixedOptions_taken _ (.inr rfl)))
  have listed : "set_query_option" ∈ Session.preparingNames := by decide
  have kept := (Session.refused_call_keeps Rehearsal.engine session outcome.2 0 _ there
    "set_query_option" listed Rehearsal.mixedOptions _ (Prod.ext refused rfl)).1
  refine ⟨there, listed, refused, kept.mpr ?_⟩
  rintro ⟨-, adds⟩
  refine (Clauses.addOptions_same_iff _ _).mp ?_ adds
  rw [mixedOptions_taken _ (.inr rfl)]
  rfl

/-- A call that is refused may have set an option. -/
theorem option_set_by_refused :
    let session := Rehearsal.optionedSession []
    let outcome := (Session.callBuilder Rehearsal.engine 0 "set_query_option"
      Rehearsal.mixedOptions).run session
    outcome.1 = .error (.unknownOption "TURBO") ∧
      outcome.2.builders = [Rehearsal.optioned ["DISTINCT"]] ∧ ¬session.Kept outcome.2 := by
  intro session outcome
  have there : session.builders[0]? = some (Rehearsal.optioned []) := rfl
  have ran : outcome = _ := Session.setOptions_refused there (mixedOptions_taken _ (.inl rfl))
  rw [ran]
  refine ⟨rfl, rfl, fun kept => ?_⟩
  have options := congrArg (List.map fun builder => builder.clauses.options) kept.builders
  cases options

end Querywright
