import Querywright.Session.Making
import Querywright.Proofs.KeyEquality
import Querywright.Proofs.RouterSources
import Querywright.Proofs.WorkRuns

/-! The registry of named databases. Under a name stand the configuration that was registered last and
a router made from it, or none; calls on one name do not touch what stands under another, and a call
that fails touches nothing. -/
namespace Querywright

variable {σ : Type}

namespace Action

variable {α : Type}

theorem run_ofResult (result : Except Error α) (session : Session σ) :
    (ofResult result).run session = (result, session) := by
  cases result <;> rfl

theorem run_onNetwork {action : Network σ → Except Error α × Network σ} {session : Session σ}
    {result : Except Error α} {network : Network σ}
    (acted : action session.network = (result, network)) :
    (onNetwork action).run session = (result, { session with network := network }) := by
  change ((action session.network).1, { session with network := (action session.network).2 }) = _
  rw [acted]

end Action

namespace Network

/-- Two states of a network with the same registry and the same routers. -/
structure SameRegistry (before after : Network σ) : Prop where
  configurations : after.configurations = before.configurations
  named : after.named = before.named
  routers : after.routers = before.routers

/-- What stands under names: the configuration that each name was given, and a router made from it or
none. Only names that are one key share a router. -/
structure IsConsistent (registered : Value → Option Configuration) (network : Network σ) :
    Prop where
  configured : ∀ name, Entries.get? name network.configurations = registered name
  built : ∀ name number, Entries.get? name network.named = some number →
    ∃ configuration router, registered name = some configuration ∧
      network.routers[number]? = some router ∧ router.IsBuiltFrom configuration
  apart : ∀ name other number, Entries.get? name network.named = some number →
    Entries.get? other network.named = some number → name.sameKey other = true

/-- What stands under a name is what stood there before, and its router is as it was. -/
structure Spares (name : Value) (before after : Network σ) : Prop where
  configuration : Entries.get? name after.configurations = Entries.get? name before.configurations
  router : Entries.get? name after.named = Entries.get? name before.named
  state : ∀ number, Entries.get? name before.named = some number →
    after.routers[number]? = before.routers[number]?

/-- A name has no router any more; the one that it had keeps no connection, and has closed those that
were idle. -/
structure Clears (name : Value) (before after : Network σ) : Prop where
  router : Entries.get? name after.named = none
  shut : ∀ number router, Entries.get? name before.named = some number →
    before.routers[number]? = some router →
      ∃ closed, after.routers[number]? = some closed ∧ closed.idle = [] ∧
        ∀ entry ∈ router.idle, entry.2 ∈ after.world.closed

/-- What is left of a network when the router of a name is taken out of the registry and closed. -/
structure Withdraws (name : Value) (before after : Network σ) : Prop where
  configurations : after.configurations = before.configurations
  named : ∀ other, Entries.get? other after.named =
    if name.sameKey other then none else Entries.get? other before.named
  others : ∀ number, Entries.get? name before.named ≠ some number →
    after.routers[number]? = before.routers[number]?
  shut : ∀ number router, Entries.get? name before.named = some number →
    before.routers[number]? = some router →
      ∃ closed, after.routers[number]? = some closed ∧ closed.idle = [] ∧
        ∀ entry ∈ router.idle, entry.2 ∈ after.world.closed

theorem onRouter_of_some {α : Type} {number : Nat} (network : Network σ) {router : Router}
    (action : Router → World σ → Except Error α × Router × World σ)
    (there : network.routers[number]? = some router) :
    network.onRouter number action = ((action router network.world).1,
      { network.setRouter number (action router network.world).2.1 with
        world := (action router network.world).2.2 }) := by
  unfold onRouter
  rw [there]

theorem onRouter_of_none {α : Type} {number : Nat} (network : Network σ)
    (action : Router → World σ → Except Error α × Router × World σ)
    (missing : network.routers[number]? = none) :
    network.onRouter number action = (.error .noConnection, network) := by
  unfold onRouter
  rw [missing]

theorem setRouter_routers {number : Nat} {network : Network σ} {router : Router} (now : Router)
    (there : network.routers[number]? = some router) (other : Nat) :
    (network.setRouter number now).routers[other]? =
      if other = number then some now else network.routers[other]? := by
  have inside := (List.getElem?_eq_some_iff.mp there).1
  show (network.routers.set number now)[other]? = _
  rw [List.getElem?_set]
  by_cases same : number = other
  · subst same
    rw [if_pos rfl, if_pos inside, if_pos rfl]
  · rw [if_neg same, if_neg (Ne.symm same)]

theorem closeNamed_withdraws (engine : Engine σ) (name : Value) (network : Network σ) :
    Withdraws name network (network.closeNamed engine name) := by
  unfold closeNamed
  cases there : Entries.get? name network.named with
  | none =>
    refine ⟨rfl, ?_, fun _ _ => rfl, ?_⟩
    · intro other
      by_cases same : name.sameKey other = true
      · rw [if_pos same, ← Entries.get?_congr same, there]
      · rw [if_neg same]
    · intro number router found
      rw [there] at found
      cases found
  | some number =>
    dsimp only
    unfold close
    have erased (other : Value) := Entries.get?_erase name other network.named
    cases found : network.routers[number]? with
    | none =>
      rw [onRouter_of_none { network with named := Entries.erase name network.named } _ found]
      refine ⟨rfl, erased, fun _ _ => rfl, ?_⟩
      intro other router same present
      rw [there] at same
      cases same
      rw [found] at present
      cases present
    | some router =>
      rw [onRouter_of_some { network with named := Entries.erase name network.named } _ found]
      refine ⟨rfl, erased, ?_, ?_⟩
      · intro other apart
        rw [there] at apart
        exact (setRouter_routers _ found other).trans (if_neg fun same => apart (by rw [same]))
      · intro other present same entry
        rw [there] at same
        cases same
        rw [found] at entry
        cases entry
        obtain ⟨idle, closed⟩ := router.close_shut engine network.world
        exact ⟨(router.close engine network.world).1,
          (setRouter_routers _ found number).trans (if_pos rfl), idle, closed⟩

end Network

/-- A builder on a router as it is handed out. -/
def Router.builder (number : Nat) (router : Router) : Builder :=
  { settings := .ofConfiguration router.configuration, backing := some (.router number) }

/-- A call on the registry, or one on a router that it has handed out. -/
inductive RegistryCall where
  | connect (name : Value) (primaries : List Value) (replicas : Value) (options : Options)
  | database (name : Value)
  | disconnect (name : Value)
  | use (router : Nat) (call : RouterCall)

namespace RegistryCall

def action (engine : Engine σ) : RegistryCall → Action σ Item
  | .connect name primaries replicas options =>
    Session.register engine name primaries replicas options
  | .database name => Session.database engine name
  | .disconnect name => Session.forget engine name
  | .use number call => do
    Action.onRouter number fun router world => (Except.ok (), call.perform engine router world)
    return .value .null

def perform (engine : Engine σ) (call : RegistryCall) (session : Session σ) :
    Except Error Item × Session σ :=
  (call.action engine).run session

def name? : RegistryCall → Option Value
  | .connect name .. | .database name | .disconnect name => some name
  | .use .. => none

/-- Whether a call, if it succeeds, takes the router of a name away. -/
def withdraws (name : Value) : RegistryCall → Bool
  | .connect own .. | .disconnect own => own.sameKey name
  | _ => false

/-- The configuration that a call registers, unless something is wrong with the options or the
name. -/
def configuration? : RegistryCall → Option Configuration
  | .connect name primaries replicas options => Except.toOption do
    let options ← Session.databaseOptions primaries replicas options
    let made ← Configuration.ofOptions options
    Network.requireKey name
    return made
  | _ => none

/-- The configuration that a call registers under a name. -/
def registered? (name : Value) (call : RegistryCall) : Option Configuration :=
  if (call.name?.map fun own => own.sameKey name).getD false then call.configuration? else none

/-- All that a call on the registry can come to. -/
inductive Happens (engine : Engine σ) (before : Session σ) :
    RegistryCall → Except Error Item × Session σ → Prop where
  | refused {call : RegistryCall} (reason : Error) (after : Session σ)
      (unformed : call.configuration? = none)
      (same : before.network.SameRegistry after.network) :
      Happens engine before call (.error reason, after)
  | connected (name : Value) (primaries : List Value) (replicas : Value) (options : Options)
      (configuration : Configuration) (network : Network σ)
      (formed : (connect name primaries replicas options).configuration? = some configuration)
      (withdraws : Network.Withdraws name { before.network with
        configurations := Entries.put name configuration before.network.configurations } network) :
      Happens engine before (connect name primaries replicas options)
        (.ok (.value .null), { before with network := network })
  | disconnected (name : Value) (network : Network σ)
      (withdraws : before.network.Withdraws name network) :
      Happens engine before (disconnect name)
        (.ok (.value .null), { before with network := network })
  | found (name : Value) (number : Nat) (router : Router)
      (fit : Network.requireKey name = .ok ())
      (named : Entries.get? name before.network.named = some number)
      (there : before.network.routers[number]? = some router) :
      Happens engine before (database name) (.ok (.builder before.builders.length),
        { before with builders := before.builders ++ [router.builder number] })
  | made (name : Value) (configuration : Configuration) (router : Router) (world : World σ)
      (fit : Network.requireKey name = .ok ())
      (unnamed : Entries.get? name before.network.named = none)
      (known : Entries.get? name before.network.configurations = some configuration)
      (making : Router.make engine configuration before.network.world = (.ok router, world)) :
      Happens engine before (database name) (.ok (.builder before.builders.length),
        { before with
          builders := before.builders ++ [router.builder before.network.routers.length]
          network := { before.network with
            world := world
            routers := before.network.routers ++ [router]
            named := Entries.put name before.network.routers.length before.network.named } })
  | used (number : Nat) (call : RouterCall) (router : Router)
      (there : before.network.routers[number]? = some router) :
      Happens engine before (use number call) (.ok (.value .null),
        { before with network := { before.network.setRouter number
            (call.perform engine router before.network.world).1 with
          world := (call.perform engine router before.network.world).2 } })

variable (engine : Engine σ) (before : Session σ)

theorem connect_happens (name : Value) (primaries : List Value) (replicas : Value)
    (options : Options) :
    Happens engine before (connect name primaries replicas options)
      ((connect name primaries replicas options).perform engine before) := by
  show Happens engine before _
    ((Session.register engine name primaries replicas options).run before)
  unfold Session.register
  cases given : Session.databaseOptions primaries replicas options with
  | error reason =>
    rw [run_bind_error (Action.run_ofResult _ before)]
    refine .refused reason before ?_ ⟨rfl, rfl, rfl⟩
    rw [configuration?, given]
    rfl
  | ok read =>
    rw [run_bind_ok (Action.run_ofResult _ before)]
    have shape : (connect name primaries replicas options).configuration? = Except.toOption do
        let made ← Configuration.ofOptions read
        Network.requireKey name
        return made := by
      rw [configuration?, given]
      rfl
    have acted : before.network.register engine name read = _ := rfl
    conv at acted => rhs; unfold Network.register
    generalize (do
        let made ← Configuration.ofOptions read
        Network.requireKey name
        return made : Except Error Configuration) = formed at shape acted
    cases formed with
    | error reason =>
      rw [run_bind_error (Action.run_onNetwork acted)]
      exact .refused reason _ shape ⟨rfl, rfl, rfl⟩
    | ok configuration =>
      rw [run_bind_ok (Action.run_onNetwork acted)]
      exact .connected name primaries replicas options configuration _ shape
        (Network.closeNamed_withdraws engine name _)

theorem disconnect_happens (name : Value) :
    Happens engine before (disconnect name) ((disconnect name).perform engine before) := by
  show Happens engine before _ ((Session.forget engine name).run before)
  unfold Session.forget
  have acted : before.network.forget engine name = _ := rfl
  conv at acted => rhs; unfold Network.forget
  have closing := Network.closeNamed_withdraws engine name before.network
  by_cases nothing : before.network.named.isEmpty = true
  · rw [if_pos nothing] at acted
    rw [run_bind_ok (Action.run_onNetwork acted)]
    have unnamed : Entries.get? name before.network.named = none := by
      rw [List.isEmpty_iff.mp nothing]
      rfl
    unfold Network.closeNamed at closing
    rw [unnamed] at closing
    exact .disconnected name _ closing
  · rw [if_neg nothing] at acted
    cases fit : Network.requireKey name with
    | error reason =>
      rw [fit] at acted
      rw [run_bind_error (Action.run_onNetwork acted)]
      exact .refused reason _ rfl ⟨rfl, rfl, rfl⟩
    | ok done =>
      rw [fit] at acted
      rw [run_bind_ok (Action.run_onNetwork acted)]
      exact .disconnected name _ closing

theorem builderFor_run (number : Nat) (router : Router)
    (there : before.network.routers[number]? = some router) :
    (Session.builderFor number).run before = (.ok (.builder before.builders.length),
      { before with builders := before.builders ++ [router.builder number] }) := by
  unfold Session.builderFor
  rw [run_bind_ok (show (get : Action σ (Session σ)).run before = (.ok before, before) from rfl),
    there]
  rfl

/-- A name that has a router is given that router. -/
theorem database_found {name : Value} {number : Nat} {router : Router}
    (fit : Network.requireKey name = .ok ())
    (named : Entries.get? name before.network.named = some number)
    (there : before.network.routers[number]? = some router) :
    (database name).perform engine before = (.ok (.builder before.builders.length),
      { before with builders := before.builders ++ [router.builder number] }) := by
  show (Session.database engine name).run before = _
  unfold Session.database
  have acted : before.network.database engine name = _ := rfl
  conv at acted => rhs; unfold Network.database
  rw [fit, named] at acted
  rw [run_bind_ok (Action.run_onNetwork acted), builderFor_run _ number router there]

theorem database_happens (name : Value)
    (led : ∀ number, Entries.get? name before.network.named = some number →
      ∃ router, before.network.routers[number]? = some router) :
    Happens engine before (database name) ((database name).perform engine before) := by
  show Happens engine before _ ((Session.database engine name).run before)
  unfold Session.database
  have acted : before.network.database engine name = _ := rfl
  conv at acted => rhs; unfold Network.database
  cases fit : Network.requireKey name with
  | error reason =>
    rw [fit] at acted
    rw [run_bind_error (Action.run_onNetwork acted)]
    exact .refused reason _ rfl ⟨rfl, rfl, rfl⟩
  | ok done =>
    rw [fit] at acted
    cases named : Entries.get? name before.network.named with
    | some number =>
      obtain ⟨router, there⟩ := led number named
      show Happens engine before _ ((database name).perform engine before)
      rw [database_found engine before fit named there]
      exact .found name number router fit named there
    | none =>
      rw [named] at acted
      cases known : Entries.get? name before.network.configurations with
      | none =>
        rw [known] at acted
        rw [run_bind_error (Action.run_onNetwork acted)]
        exact .refused _ _ rfl ⟨rfl, rfl, rfl⟩
      | some configuration =>
        rw [known] at acted
        dsimp only at acted
        unfold Network.makeRouter at acted
        cases making : Router.make engine configuration before.network.world with
        | mk result world =>
          rw [making] at acted
          cases result with
          | error reason =>
            rw [run_bind_error (Action.run_onNetwork acted)]
            exact .refused reason _ rfl ⟨rfl, rfl, rfl⟩
          | ok router =>
            rw [run_bind_ok (Action.run_onNetwork acted),
              builderFor_run _ before.network.routers.length router (by simp)]
            exact .made name configuration router world fit named known making

theorem use_happens (number : Nat) (call : RouterCall) :
    Happens engine before (use number call) ((use number call).perform engine before) := by
  unfold perform action Action.onRouter
  cases there : before.network.routers[number]? with
  | none =>
    have acted := Network.onRouter_of_none before.network
      (fun router world => (Except.ok (), call.perform engine router world)) there
    rw [run_bind_error (Action.run_onNetwork acted)]
    exact .refused _ _ rfl ⟨rfl, rfl, rfl⟩
  | some router =>
    have acted := Network.onRouter_of_some before.network
      (fun router world => (Except.ok (), call.perform engine router world)) there
    rw [run_bind_ok (Action.run_onNetwork acted)]
    exact .used number call router there

/-- Every call comes to what it can come to, as long as no name leads to a router that is not
there. -/
theorem perform_happens (call : RegistryCall)
    (led : ∀ name number, Entries.get? name before.network.named = some number →
      ∃ router, before.network.routers[number]? = some router) :
    Happens engine before call (call.perform engine before) := by
  cases call with
  | connect name primaries replicas options =>
    exact connect_happens engine before name primaries replicas options
  | database name => exact database_happens engine before name (led name)
  | disconnect name => exact disconnect_happens engine before name
  | use number call => exact use_happens engine before number call

end RegistryCall

section Steps

variable {engine : Engine σ} {before after : Session σ} {call : RegistryCall}
  {result : Except Error Item} {registered : Value → Option Configuration}

/-- What stands under a name after a withdrawal stood there before, under another name than the one
withdrawn, and its router has not been touched. -/
theorem Network.Withdraws.kept {name other : Value} {number : Nat} {start left : Network σ}
    (withdraws : start.Withdraws name left)
    (apart : ∀ name other number, Entries.get? name start.named = some number →
      Entries.get? other start.named = some number → name.sameKey other = true)
    (named : Entries.get? other left.named = some number) :
    ¬name.sameKey other = true ∧ Entries.get? other start.named = some number ∧
      left.routers[number]? = start.routers[number]? := by
  rw [withdraws.named] at named
  by_cases same : name.sameKey other = true
  · rw [if_pos same] at named
    cases named
  · rw [if_neg same] at named
    refine ⟨same, named, withdraws.others number fun shared => ?_⟩
    exact same (apart name other number shared named)

theorem Network.Withdraws.clears {own name : Value} {start left : Network σ}
    (withdraws : start.Withdraws own left) (same : own.sameKey name = true) :
    start.Clears name left := by
  constructor
  · rw [withdraws.named, if_pos same]
  · intro number router named
    rw [← Entries.get?_congr same] at named
    exact withdraws.shut number router named

/-- Withdrawing a name keeps the registry consistent, be it that the name has another configuration
by then. -/
theorem Network.IsConsistent.withdrawn {name : Value} {start left : Network σ}
    {configurations : List (Value × Configuration)} {recorded : Value → Option Configuration}
    (consistent : start.IsConsistent registered)
    (withdraws : Network.Withdraws name { start with configurations := configurations } left)
    (configured : ∀ other, Entries.get? other configurations = recorded other)
    (same : ∀ other, ¬name.sameKey other = true → recorded other = registered other) :
    left.IsConsistent recorded := by
  refine ⟨?_, ?_, ?_⟩
  · intro other
    rw [withdraws.configurations]
    exact configured other
  · intro other number named
    obtain ⟨different, named, untouched⟩ := withdraws.kept consistent.apart named
    rw [same other different, untouched]
    exact consistent.built other number named
  · intro one other number first second
    obtain ⟨-, first, -⟩ := withdraws.kept consistent.apart first
    obtain ⟨-, second, -⟩ := withdraws.kept consistent.apart second
    exact consistent.apart one other number first second

theorem Network.IsConsistent.spared {own name : Value} {start left : Network σ}
    {configurations : List (Value × Configuration)} (consistent : start.IsConsistent registered)
    (withdraws : Network.Withdraws own { start with configurations := configurations } left)
    (other : ¬own.sameKey name = true)
    (same : Entries.get? name configurations = Entries.get? name start.configurations) :
    start.Spares name left := by
  refine ⟨?_, ?_, ?_⟩
  · rw [withdraws.configurations]
    exact same
  · rw [withdraws.named, if_neg other]
  · intro number named
    refine withdraws.others number fun shared => ?_
    exact other (consistent.apart own name number shared named)

theorem Network.IsConsistent.lt_length {name : Value} {number : Nat} {network : Network σ}
    (consistent : network.IsConsistent registered)
    (named : Entries.get? name network.named = some number) : number < network.routers.length := by
  obtain ⟨_, _, _, there, _⟩ := consistent.built name number named
  exact (List.getElem?_eq_some_iff.mp there).1

/-- A name that has no router is given a new one. -/
theorem Network.IsConsistent.made {name : Value} {network : Network σ} {router : Router}
    {configuration : Configuration} (consistent : network.IsConsistent registered)
    (known : Entries.get? name network.configurations = some configuration)
    (built : router.IsBuiltFrom configuration) (world : World σ) :
    Network.IsConsistent registered { network with
      world := world
      routers := network.routers ++ [router]
      named := Entries.put name network.routers.length network.named } := by
  refine ⟨consistent.configured, ?_, ?_⟩
  · intro other number named
    obtain ⟨same, rfl⟩ | ⟨-, named⟩ := Entries.get?_put_some.mp named
    · refine ⟨configuration, router, ?_, by simp, built⟩
      rw [← consistent.configured, ← Entries.get?_congr same, known]
    · dsimp only
      rw [List.getElem?_append_left (consistent.lt_length named)]
      exact consistent.built other number named
  · intro one other number first second
    obtain ⟨here, rfl⟩ | ⟨-, first⟩ := Entries.get?_put_some.mp first
    · obtain ⟨there, -⟩ | ⟨-, second⟩ := Entries.get?_put_some.mp second
      · exact Value.sameKey_trans (Value.sameKey_symm here) there
      · exact absurd (consistent.lt_length second) (lt_irrefl _)
    · obtain ⟨-, rfl⟩ | ⟨-, second⟩ := Entries.get?_put_some.mp second
      · exact absurd (consistent.lt_length first) (lt_irrefl _)
      · exact consistent.apart one other number first second

theorem Network.IsConsistent.used {number : Nat} {network : Network σ} {router now : Router}
    (consistent : network.IsConsistent registered)
    (there : network.routers[number]? = some router) (same : router.SameSources now)
    (world : World σ) :
    Network.IsConsistent registered { network.setRouter number now with world := world } := by
  refine ⟨consistent.configured, ?_, consistent.apart⟩
  intro name other named
  obtain ⟨configuration, present, known, found, built⟩ := consistent.built name other named
  have set := Network.setRouter_routers now there other
  by_cases here : other = number
  · subst here
    rw [there] at found
    cases found
    exact ⟨configuration, now, known, set.trans (if_pos rfl), built.of_same same⟩
  · exact ⟨configuration, present, known, (set.trans (if_neg here)).trans found, built⟩

namespace RegistryCall

/-- What the names are registered with behind a call. -/
def record (call : RegistryCall) (registered : Value → Option Configuration) (name : Value) :
    Option Configuration :=
  (call.registered? name).or (registered name)

theorem record_unformed (unformed : call.configuration? = none)
    (registered : Value → Option Configuration) : call.record registered = registered := by
  funext name
  unfold record registered?
  rw [unformed, ite_self]
  rfl

/-- One call keeps the registry consistent, with the configuration that it registers. -/
theorem Happens.consistent (happens : Happens engine before call (result, after))
    (consistent : before.network.IsConsistent registered) :
    after.network.IsConsistent (call.record registered) := by
  cases happens with
  | refused reason after unformed same =>
    rw [record_unformed unformed]
    obtain ⟨configurations, named, routers⟩ := same
    refine ⟨?_, ?_, ?_⟩
    · rw [configurations]
      exact consistent.configured
    · rw [named, routers]
      exact consistent.built
    · rw [named]
      exact consistent.apart
  | connected name primaries replicas options configuration network formed withdraws =>
    have recorded (other : Value) :
        record (connect name primaries replicas options) registered other =
          if name.sameKey other then some configuration else registered other := by
      unfold record registered?
      rw [formed]
      show (if name.sameKey other = true then _ else _ : Option Configuration).or _ = _
      split <;> rfl
    refine consistent.withdrawn withdraws ?_ ?_
    · intro other
      rw [recorded, Entries.get?_put, consistent.configured]
    · intro other different
      rw [recorded, if_neg different]
  | disconnected name network withdraws =>
    rw [record_unformed rfl]
    exact consistent.withdrawn withdraws consistent.configured fun _ _ => rfl
  | found name number router fit named there =>
    rw [record_unformed rfl]
    exact consistent
  | made name configuration router world fit unnamed known making =>
    rw [record_unformed rfl]
    exact consistent.made known (Router.make_built making) world
  | used number call router there =>
    rw [record_unformed rfl]
    exact consistent.used there (call.perform_sources engine router before.network.world) _

/-- The router of a name stays until the name is withdrawn. -/
theorem Happens.stays (happens : Happens engine before call (result, after)) {name : Value}
    {number : Nat} (named : Entries.get? name before.network.named = some number)
    (undisturbed : call.withdraws name = true → ∃ reason, result = .error reason) :
    Entries.get? name after.network.named = some number := by
  cases happens with
  | refused reason after unformed same => rwa [same.named]
  | connected own _ _ _ _ network formed withdraws | disconnected own network withdraws =>
    rw [withdraws.named]
    by_cases same : own.sameKey name = true
    · obtain ⟨reason, failed⟩ := undisturbed same
      cases failed
    · rwa [if_neg same]
  | found | used => exact named
  | made own configuration router world fit unnamed known making =>
    dsimp only
    rw [Entries.get?_put]
    by_cases same : own.sameKey name = true
    · rw [Entries.get?_congr same, named] at unnamed
      cases unnamed
    · rwa [if_neg same]

/-- A call that is not about a name leaves what stands under it. -/
theorem Happens.separate (happens : Happens engine before call (result, after))
    (consistent : before.network.IsConsistent registered) {own name : Value}
    (about : call.name? = some own) (other : ¬own.sameKey name = true) :
    before.network.Spares name after.network := by
  cases happens with
  | refused reason after unformed same =>
    obtain ⟨configurations, named, routers⟩ := same
    exact ⟨by rw [configurations], by rw [named], fun number _ => by rw [routers]⟩
  | connected _ _ _ _ configuration network formed withdraws =>
    cases about
    refine consistent.spared withdraws other ?_
    rw [Entries.get?_put, if_neg other]
  | disconnected _ network withdraws =>
    cases about
    exact consistent.spared withdraws other rfl
  | found => exact ⟨rfl, rfl, fun _ _ => rfl⟩
  | made _ configuration router world fit unnamed known making =>
    cases about
    refine ⟨rfl, ?_, fun number named => List.getElem?_append_left (consistent.lt_length named)⟩
    exact (Entries.get?_put _ _ _ _).trans (if_neg other)
  | used => cases about

theorem Happens.withdrawn {item : Item}
    (happens : Happens engine before call (.ok item, after)) {name : Value}
    (withdraws : call.withdraws name = true) : before.network.Clears name after.network := by
  cases happens with
  | connected own _ _ _ _ network formed taken =>
    obtain ⟨router, shut⟩ := taken.clears withdraws
    exact ⟨router, shut⟩
  | disconnected own network taken => exact taken.clears withdraws
  | found | made | used => cases withdraws

end RegistryCall
end Steps

/-- The configuration that was registered last under a name. -/
def lastRegistered (calls : List RegistryCall) : Value → Option Configuration :=
  calls.foldl (fun registered call => call.record registered) fun _ => none

namespace Session

def after (engine : Engine σ) (calls : List RegistryCall) (session : Session σ) : Session σ :=
  calls.foldl (fun session call => (call.perform engine session).2) session

/-- No call of a run takes the router of a name away. -/
def Undisturbed (engine : Engine σ) (name : Value) : List RegistryCall → Session σ → Prop
  | [], _ => True
  | call :: rest, session =>
    (call.withdraws name = true → ∃ reason, (call.perform engine session).1 = .error reason) ∧
      Undisturbed engine name rest (call.perform engine session).2

/-- An item is a builder as it is handed out on a router. -/
def HandsOut (item : Item) (number : Nat) (session : Session σ) : Prop :=
  ∃ place router, item = .builder place ∧ session.network.routers[number]? = some router ∧
    session.builders[place]? = some (router.builder number)

/-- What holds of the registry behind a run of calls, and of whatever call comes next. -/
structure KeepsRegistry (engine : Engine σ) (calls : List RegistryCall) (reached : Session σ) :
    Prop where
  configured : ∀ name,
    Entries.get? name reached.network.configurations = lastRegistered calls name
  built : ∀ name number, Entries.get? name reached.network.named = some number →
    ∃ configuration router, lastRegistered calls name = some configuration ∧
      reached.network.routers[number]? = some router ∧ router.IsBuiltFrom configuration
  /-- Only flawed options or a name that cannot be a key keep a configuration from being
  registered. -/
  formed : ∀ name primaries replicas options,
    let call := RegistryCall.connect name primaries replicas options
    (∃ reason, (call.perform engine reached).1 = .error reason) ↔ call.configuration? = none
  /-- Who asks for a name gets its router, or a new one where it has none. -/
  handed : ∀ name item (next : Session σ),
    (RegistryCall.database name).perform engine reached = (.ok item, next) →
      ∃ number, next.HandsOut item number ∧
        Entries.get? name next.network.named = some number ∧
        (Entries.get? name reached.network.named = some number ∨
          Entries.get? name reached.network.named = none ∧
            number = reached.network.routers.length)
  /-- Who asks again gets the same router, whatever has been called in between. -/
  repeated : ∀ name item (next : Session σ) later,
    (RegistryCall.database name).perform engine reached = (.ok item, next) →
      next.Undisturbed engine name later →
        ∃ number again last, next.HandsOut item number ∧
          (RegistryCall.database name).perform engine (next.after engine later) =
            (.ok again, last) ∧ last.HandsOut again number
  withdrawn : ∀ (call : RegistryCall) name item (next : Session σ), call.withdraws name = true →
    call.perform engine reached = (.ok item, next) → reached.network.Clears name next.network
  raising : ∀ (call : RegistryCall) reason (next : Session σ),
    call.perform engine reached = (.error reason, next) →
      reached.network.SameRegistry next.network
  separate : ∀ (call : RegistryCall) own name, call.name? = some own →
    ¬own.sameKey name = true →
      reached.network.Spares name (call.perform engine reached).2.network

variable {engine : Engine σ} {registered : Value → Option Configuration}

theorem happens_of_consistent (engine : Engine σ) {session : Session σ}
    (consistent : session.network.IsConsistent registered) (call : RegistryCall) :
    call.Happens engine session (call.perform engine session) := by
  refine call.perform_happens engine session fun name number named => ?_
  obtain ⟨_, router, _, there, _⟩ := consistent.built name number named
  exact ⟨router, there⟩

theorem perform_consistent (engine : Engine σ) {session : Session σ}
    (consistent : session.network.IsConsistent registered) (call : RegistryCall) :
    (call.perform engine session).2.network.IsConsistent (call.record registered) :=
  (happens_of_consistent engine consistent call).consistent consistent

theorem after_consistent (engine : Engine σ) (calls : List RegistryCall) {session : Session σ}
    (consistent : session.network.IsConsistent registered) :
    (session.after engine calls).network.IsConsistent
      (calls.foldl (fun registered call => call.record registered) registered) := by
  induction calls generalizing session registered with
  | nil => exact consistent
  | cons call rest ih => exact ih (perform_consistent engine consistent call)

theorem Undisturbed.stays {name : Value} {number : Nat} {later : List RegistryCall}
    {session : Session σ} (consistent : session.network.IsConsistent registered)
    (named : Entries.get? name session.network.named = some number)
    (undisturbed : session.Undisturbed engine name later) :
    Entries.get? name (session.after engine later).network.named = some number := by
  induction later generalizing session registered with
  | nil => exact named
  | cons call rest ih =>
    obtain ⟨first, others⟩ := undisturbed
    have stays := (happens_of_consistent engine consistent call).stays named first
    exact ih (perform_consistent engine consistent call) stays others

theorem connect_refused_iff {reached : Session σ}
    (consistent : reached.network.IsConsistent registered) (name : Value)
    (primaries : List Value) (replicas : Value) (options : Options) :
    (∃ reason, ((RegistryCall.connect name primaries replicas options).perform engine reached).1 =
        .error reason) ↔
      (RegistryCall.connect name primaries replicas options).configuration? = none := by
  have happens := happens_of_consistent engine consistent (.connect name primaries replicas options)
  generalize (RegistryCall.connect name primaries replicas options).perform engine reached = outcome
    at happens ⊢
  cases happens with
  | refused reason after unformed same => exact ⟨fun _ => unformed, fun _ => ⟨reason, rfl⟩⟩
  | connected _ _ _ _ configuration network formed withdraws =>
    rw [formed]
    constructor
    · rintro ⟨reason, failed⟩
      cases failed
    · intro unformed
      cases unformed

theorem database_handed {reached next : Session σ} {name : Value} {item : Item}
    (consistent : reached.network.IsConsistent registered)
    (performed : (RegistryCall.database name).perform engine reached = (.ok item, next)) :
    ∃ number, Network.requireKey name = .ok () ∧ next.HandsOut item number ∧
      Entries.get? name next.network.named = some number ∧
      (Entries.get? name reached.network.named = some number ∨
        Entries.get? name reached.network.named = none ∧
          number = reached.network.routers.length) := by
  have happens := happens_of_consistent engine consistent (.database name)
  rw [performed] at happens
  cases happens with
  | found _ number router fit named there =>
    exact ⟨number, fit, ⟨_, router, rfl, there, by simp⟩, named, .inl named⟩
  | made _ configuration router world fit unnamed known making =>
    refine ⟨reached.network.routers.length, fit, ⟨_, router, rfl, by simp, by simp⟩, ?_,
      .inr ⟨unnamed, rfl⟩⟩
    dsimp only
    rw [Entries.get?_put, if_pos (Entries.sameKey_of_get? known)]

theorem database_repeated {reached next : Session σ} {name : Value} {item : Item}
    {later : List RegistryCall} (consistent : reached.network.IsConsistent registered)
    (performed : (RegistryCall.database name).perform engine reached = (.ok item, next))
    (undisturbed : next.Undisturbed engine name later) :
    ∃ number again last, next.HandsOut item number ∧
      (RegistryCall.database name).perform engine (next.after engine later) = (.ok again, last) ∧
      last.HandsOut again number := by
  obtain ⟨number, fit, given, named, -⟩ := database_handed consistent performed
  have follows := perform_consistent engine consistent (.database name)
  rw [performed] at follows
  have stays := undisturbed.stays follows named
  obtain ⟨_, router, _, there, _⟩ := (after_consistent engine later follows).built name number stays
  have again := RegistryCall.database_found engine (next.after engine later) fit stays there
  exact ⟨number, _, _, given, again, _, router, rfl, there, by simp⟩

theorem keeps_registry {reached : Session σ} {calls : List RegistryCall}
    (consistent : reached.network.IsConsistent (lastRegistered calls)) :
    reached.KeepsRegistry engine calls where
  configured := consistent.configured
  built := consistent.built
  formed := connect_refused_iff consistent
  handed := by
    intro name item next performed
    obtain ⟨number, -, given⟩ := database_handed consistent performed
    exact ⟨number, given⟩
  repeated := fun _ _ _ _ performed => database_repeated consistent performed
  withdrawn := by
    intro call name item next withdraws performed
    have happens := happens_of_consistent engine consistent call
    rw [performed] at happens
    exact happens.withdrawn withdraws
  raising := by
    intro call reason next performed
    have happens := happens_of_consistent engine consistent call
    rw [performed] at happens
    cases happens with
    | refused _ _ unformed same => exact same
  separate := fun call _ _ about other =>
    (happens_of_consistent engine consistent call).separate consistent about other

end Session

/-- The registry of named databases, from when it is empty: whatever has been called, with success or
not, every name that has a router has a configuration, and the router is made of the one registered
last; and so it is with the next call, which touches nothing if it fails, and nothing under other
names. -/
theorem registry_kept (engine : Engine σ) (start : Session σ)
    (unregistered : start.network.configurations = []) (unnamed : start.network.named = [])
    (calls : List RegistryCall) : (start.after engine calls).KeepsRegistry engine calls := by
  refine Session.keeps_registry (Session.after_consistent engine calls ⟨?_, ?_, ?_⟩)
  · intro name
    rw [unregistered]
    rfl
  · intro name number named
    rw [unnamed] at named
    cases named
  · intro name other number named
    rw [unnamed] at named
    cases named

def Rehearsal.session : Session Rehearsal :=
  { network := { world := { outside := {} } } }

/-- A name that is registered twice and asked for after each; a registration without an address and a
question for an unknown name fail in between. -/
def renewedCalls : List RegistryCall :=
  [.connect (.text "main") [.text "sqlite:///a.db"] (.tuple []) [], .database (.text "main"),
    .connect (.text "main") [] (.tuple []) [], .database (.text "other"),
    .connect (.text "main") [.text "sqlite:///b.db"] (.tuple []) [], .database (.text "main")]

theorem renewed_router_rebuilt :
    Rehearsal.session.network.configurations = [] ∧ Rehearsal.session.network.named = [] ∧
      ∃ router, (Rehearsal.session.after Rehearsal.engine renewedCalls).network.routers[1]? =
        some router ∧ router.sources .primary = [.fixed "sqlite:///b.db"] := by
  have named : Entries.get? (.text "main")
      (Rehearsal.session.after Rehearsal.engine renewedCalls).network.named = some 1 := by
    cbv
  have last : (lastRegistered renewedCalls (.text "main")).map Configuration.primaries =
      some [.fixed "sqlite:///b.db"] := by
    cbv
  have kept := registry_kept Rehearsal.engine Rehearsal.session rfl rfl renewedCalls
  obtain ⟨configuration, router, known, there, built⟩ := kept.built _ _ named
  rw [known] at last
  exact ⟨rfl, rfl, router, there, (built.sources .primary).trans (Option.some.inj last)⟩

end Querywright
