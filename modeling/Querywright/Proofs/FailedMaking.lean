import Querywright.Network
import Querywright.Proofs.FailedDispatch
import Querywright.Proofs.RouterSources
import Mathlib

/-! A router that fails while it is made. Its databases are asked one after the other whether they
answer; a failure closes no connection but the one on which it happened, and only where it means
that this connection is lost. So nothing is left open only where the first database fails. -/
namespace Querywright

variable {σ : Type}

namespace World

/-- Every connection opened on the way from one world to another has been closed on this way. -/
def LeavesNothing (before after : World σ) : Prop :=
  ∃ shut, after.closed = shut ++ before.closed ∧
    ∀ connection, before.targets.length < connection → connection ≤ after.targets.length →
      connection ∈ shut

variable {before after : World σ} {opened : Nat} {closed : List Nat} {sent : List (Nat × Value)}

theorem Passes.leavesNothing_iff (passage : before.Passes after opened closed sent) :
    before.LeavesNothing after ↔ ∀ connection, before.targets.length < connection →
      connection ≤ before.targets.length + opened → connection ∈ closed := by
  unfold LeavesNothing
  rw [passage.targets, passage.closings]
  constructor
  · rintro ⟨shut, same, all⟩ connection above below
    rw [← List.append_cancel_right same] at all
    exact List.mem_reverse.mp (all connection above below)
  · intro all
    refine ⟨_, rfl, fun connection above below => ?_⟩
    exact List.mem_reverse.mpr (all connection above below)

end World

namespace Pool

/-- A pool as it is made: it is not marked and has no connections. -/
structure IsFresh (pool : Pool) : Prop where
  healthy : pool.healthy = true
  idle : pool.idle = []

/-- A database does not answer and leaves no connection: none is opened, or the one that is opened
is lost by the probe. -/
inductive Declines (engine : Engine σ) (pool : Pool) (world : World σ) : Prop where
  | unopened (reason : Error) (after : Pool) (left : World σ)
      (taking : pool.checkout engine world = (.error reason, after, left))
      (nothing : left.targets.length = world.targets.length)
  | lost (connection : Nat) (taken : Pool) (opened : World σ)
      (taking : pool.checkout engine world = (.ok connection, taken, opened)) (reason : Error)
      (raised : (taken.run engine connection probe (.tuple []) opened).1 = .error reason)
      (loses : taken.losesBy reason = true)

theorem IsMadeFor.fresh {source : Source} {pool : Pool} (made : pool.IsMadeFor source) :
    pool.IsFresh := by
  obtain ⟨url, dialect, rfl⟩ := made
  exact ⟨rfl, rfl⟩

theorem make_passes (engine : Engine σ) (source : Source) (world : World σ) :
    world.Passes (Pool.make engine source world).2 0 [] [] := by
  have asking := source_passes engine source world
  unfold Pool.make
  generalize source.resolve engine world = resolved at asking ⊢
  obtain ⟨result, left⟩ := resolved
  cases result with
  | error reason => exact asking
  | ok url => exact asking

theorem Provided.of_fresh {engine : Engine σ} {pool : Pool} {world : World σ}
    {outcome : Except Error Nat × Pool × World σ}
    (taking : Provided engine true pool world outcome) (fresh : pool.IsFresh) :
    ∃ made sent, world.Passes outcome.2.2 made [] sent ∧ ∀ connection,
      outcome.1 = .ok connection → connection = world.targets.length + 1 ∧ made = 1 := by
  cases taking with
  | popped rest connection healthy idle =>
    rw [fresh.idle] at idle
    cases List.append_ne_nil_of_right_ne_nil rest (List.cons_ne_nil connection []) idle.symm
  | opened url kept dropped left sent idle emptied newcomer passage first =>
    obtain ⟨-, rfl⟩ := List.append_eq_nil_iff.mp (idle.symm.trans fresh.idle)
    refine ⟨1, sent, passage, fun connection same => ?_⟩
    cases same
    exact ⟨rfl, rfl⟩
  | refused reason url kept dropped left made sent idle emptied nobody passage first =>
    obtain ⟨-, rfl⟩ := List.append_eq_nil_iff.mp (idle.symm.trans fresh.idle)
    refine ⟨made, sent, passage, fun connection same => ?_⟩
    cases same

theorem Ran.passes {connection : Nat} {statement parameters : Value} {pool : Pool}
    {world : World σ} {outcome : Except Error Report × Pool × World σ}
    (ran : Ran connection statement parameters pool world outcome) :
    ∃ sent, world.Passes outcome.2.2 0 [] sent := by
  obtain ⟨passage, -⟩ | ⟨sent, values, -, passage⟩ := ran.sending
  · exact ⟨_, passage⟩
  · exact ⟨_, passage⟩

/-- A new pool opens one connection to ask its database, and is marked where it is lost by that. -/
theorem probe_fresh {engine : Engine σ} {pool taken ran : Pool} {world opened left : World σ}
    {connection : Nat} {report : Except Error Report} (fresh : pool.IsFresh)
    (taking : pool.checkout engine world = (.ok connection, taken, opened))
    (running : taken.run engine connection probe (.tuple []) opened = (report, ran, left)) :
    connection = world.targets.length + 1 ∧ ran.healthy = !taken.isLoss report ∧
      ∃ sent, world.Passes left 1 [] sent := by
  have provided : Provided engine true pool world (.ok connection, taken, opened) :=
    taking ▸ provide_provided engine true pool world
  have asked := run_ran engine connection probe (.tuple []) taken opened
  rw [running] at asked
  have marking : ran.healthy = (taken.healthy && !taken.isLoss report) :=
    congrArg Pool.healthy asked.marking
  rw [provided.healthy, Bool.true_and] at marking
  obtain ⟨made, first, opening, number⟩ := provided.of_fresh fresh
  obtain ⟨same, rfl⟩ := number connection rfl
  obtain ⟨second, asking⟩ := asked.passes
  exact ⟨same, marking, _, opening.trans asking⟩

/-- The one connection that a new pool opens to ask its database is all that it closes, and it stays
open unless the database declines. -/
theorem ping_fresh (engine : Engine σ) {pool : Pool} (fresh : pool.IsFresh) (world : World σ) :
    ∃ opened shut sent, world.Passes (pool.ping engine world).2.2 opened shut sent ∧
      (∀ connection ∈ shut, world.targets.length < connection) ∧
      ((pool.ping engine world).1 = .ok () → opened = 1 ∧ shut = []) ∧
      ((∀ connection, world.targets.length < connection →
        connection ≤ world.targets.length + opened → connection ∈ shut) ↔
          pool.Declines engine world) := by
  have provided := provide_provided engine true pool world
  have pinged := ping_pinged engine pool world
  generalize pool.ping engine world = outcome at pinged ⊢
  cases pinged with
  | refused reason after left taking =>
    rw [taking] at provided
    obtain ⟨made, sent, passage, -⟩ := provided.of_fresh fresh
    have size : left.targets.length = world.targets.length + made := passage.targets
    refine ⟨made, [], sent, passage, by simp, by simp, ?_⟩
    constructor
    · intro all
      refine .unopened reason after left taking ?_
      by_contra more
      exact List.not_mem_nil (all (world.targets.length + 1) (by omega) (by omega))
    · rintro (⟨_, _, _, asked, nothing⟩ | ⟨_, _, _, asked, -⟩)
      · cases asked.symm.trans taking
        intro connection above below
        omega
      · cases asked.symm.trans taking
  | returned connection taken opened taking report ran left running healthy result after idle =>
    obtain ⟨rfl, marking, sent, passage⟩ := probe_fresh fresh taking running
    refine ⟨1, [], sent, passage, by simp, fun _ => ⟨rfl, rfl⟩, ?_⟩
    constructor
    · intro all
      cases all (world.targets.length + 1) (by omega) (by omega)
    · rintro (⟨_, _, _, asked, -⟩ | ⟨_, _, _, asked, reason, raised, loses⟩)
      · cases asked.symm.trans taking
      · -- A probe that loses the connection marks the pool, which then keeps nothing.
        cases asked.symm.trans taking
        rw [running] at raised
        rw [show report = .error reason from raised, show taken.isLoss _ = true from loses,
          healthy] at marking
        cases marking
  | closed connection taken opened taking reason ran left running marked =>
    obtain ⟨rfl, marking, sent, passage⟩ := probe_fresh fresh taking running
    have closing := World.discard_passes engine [world.targets.length + 1] left
    refine ⟨1, [world.targets.length + 1], _, passage.trans closing, by simp, by simp, ?_⟩
    constructor
    · intro _
      have loses : taken.isLoss (.error reason : Except Error Report) = true := by
        rw [marked] at marking
        simpa using marking.symm
      exact .lost _ taken opened taking reason (by rw [running]) loses
    · intro _ connection above below
      obtain rfl : connection = world.targets.length + 1 := by omega
      exact List.mem_singleton_self _

end Pool

namespace Router

variable {engine : Engine σ} {configuration : Configuration} {router : Router}
  {world opened : World σ}

/-- The router before its databases are asked whether they answer. -/
def prepare (engine : Engine σ) (configuration : Configuration) (world : World σ) :
    Except Error Router × World σ :=
  match makePools engine configuration.primaries world with
  | (.error reason, world) => (.error reason, world)
  | (.ok primaries, world) =>
    match makePools engine configuration.replicas world with
    | (.error reason, world) => (.error reason, world)
    | (.ok replicas, world) =>
      (.ok { configuration := configuration, primaries := primaries, replicas := replicas }, world)

/-- Asks the databases of a router that has been prepared. -/
def asked (engine : Engine σ) : Except Error Router × World σ → Except Error Router × World σ
  | (.error reason, world) => (.error reason, world)
  | (.ok router, world) =>
    let outcome := router.ping engine world
    (outcome.1.map fun _ => outcome.2.1, outcome.2.2)

theorem make_eq (engine : Engine σ) (configuration : Configuration) (world : World σ) :
    Router.make engine configuration world = asked engine (prepare engine configuration world) := by
  unfold Router.make prepare
  generalize makePools engine configuration.primaries world = made
  obtain ⟨reason | primaries, between⟩ := made
  · rfl
  dsimp only
  generalize makePools engine configuration.replicas between = made
  obtain ⟨reason | replicas, last⟩ := made
  · rfl
  · rfl

theorem makePools_passes (engine : Engine σ) (sources : List Source) (world : World σ) :
    world.Passes (makePools engine sources world).2 0 [] [] := by
  induction sources generalizing world with
  | nil => exact .refl world
  | cons source rest ih =>
    have making := Pool.make_passes engine source world
    rw [makePools]
    generalize Pool.make engine source world = made at making ⊢
    obtain ⟨reason | pool, between⟩ := made
    · exact making
    · exact making.trans (ih between)

theorem makePools_fresh {sources : List Source} {pools : List Pool}
    (made : makePools engine sources world = (.ok pools, opened)) :
    ∀ pool ∈ pools, pool.IsFresh := by
  intro pool member
  obtain ⟨source, -, first⟩ := exists_left (makePools_made made) member
  exact first.fresh

theorem prepare_passes (engine : Engine σ) (configuration : Configuration) (world : World σ) :
    world.Passes (prepare engine configuration world).2 0 [] [] := by
  have first := makePools_passes engine configuration.primaries world
  unfold prepare
  generalize makePools engine configuration.primaries world = primaries at first ⊢
  obtain ⟨reason | primaries, between⟩ := primaries
  · exact first
  have second := makePools_passes engine configuration.replicas between
  dsimp only
  generalize makePools engine configuration.replicas between = replicas at second ⊢
  obtain ⟨reason | replicas, last⟩ := replicas
  · exact first.trans second
  · exact first.trans second

theorem prepare_fresh (prepared : prepare engine configuration world = (.ok router, opened))
    {place : Place} {pool : Pool} (there : router.pool? place = some pool) : pool.IsFresh := by
  unfold prepare at prepared
  generalize first : makePools engine configuration.primaries world = made at prepared
  obtain ⟨reason | primaries, between⟩ := made
  · cases prepared
  dsimp only at prepared
  generalize second : makePools engine configuration.replicas between = made at prepared
  obtain ⟨reason | replicas, last⟩ := made
  · cases prepared
  cases prepared
  have member := List.mem_of_getElem? there
  obtain ⟨side, index⟩ := place
  cases side with
  | primary => exact makePools_fresh first pool member
  | replica => exact makePools_fresh second pool member

/-- The pools at some places are as they were made. -/
def AreFresh (places : List Place) (router : Router) : Prop :=
  ∀ place ∈ places, ∀ pool, router.pool? place = some pool → pool.IsFresh

theorem AreFresh.replace {place : Place} {rest : List Place} {pool : Pool} (after : Pool)
    (fresh : AreFresh (place :: rest) router) (apart : place ∉ rest)
    (there : router.pool? place = some pool) : AreFresh rest (router.replace place after) := by
  intro other member found kept
  rw [pool?_replace _ there, if_neg (ne_of_mem_of_not_mem member apart)] at kept
  exact fresh other (List.mem_cons_of_mem _ member) found kept

/-- Nothing is closed while new pools ask their databases but what they opened themselves. -/
theorem actAll_ping_passes (engine : Engine σ) {places : List Place} (distinct : places.Nodup)
    (router : Router) (world : World σ) (fresh : AreFresh places router) :
    ∃ opened shut sent,
      world.Passes (actAll (Pool.ping engine) places router world).2.2 opened shut sent ∧
        ∀ connection ∈ shut, world.targets.length < connection := by
  induction places generalizing router world with
  | nil => exact ⟨0, [], [], .refl world, by simp⟩
  | cons place rest ih =>
    obtain ⟨apart, distinct⟩ := List.nodup_cons.mp distinct
    rw [actAll]
    cases there : router.pool? place with
    | none =>
      rw [act_of_none _ _ there]
      exact ⟨0, [], [], .refl world, by simp⟩
    | some pool =>
      obtain ⟨opened, shut, sent, passage, above, -⟩ :=
        Pool.ping_fresh engine (fresh place List.mem_cons_self pool there) world
      rw [act_of_pool? _ _ there]
      generalize pool.ping engine world = outcome at passage ⊢
      obtain ⟨reason | done, after, left⟩ := outcome
      · exact ⟨opened, shut, sent, passage, above⟩
      · obtain ⟨more, closed, further, onward, beyond⟩ :=
          ih distinct (router.replace place after) left (fresh.replace after apart there)
        refine ⟨_, _, _, passage.trans onward, fun connection member => ?_⟩
        obtain early | late := List.mem_append.mp member
        · exact above connection early
        · have size : left.targets.length = world.targets.length + opened := passage.targets
          have later := beyond connection late
          omega

/-- The first of the databases asked does not answer and leaves no connection. -/
def FirstDeclines (engine : Engine σ) (router : Router) (world : World σ) : Prop :=
  ∃ place pool, router.places.head? = some place ∧ router.pool? place = some pool ∧
    pool.Declines engine world

/-- Where the databases of a new router are asked and one fails, nothing is left open just when the
first one declines. -/
theorem ping_leavesNothing_iff (fresh : AreFresh router.places router) {reason : Error}
    (failed : (router.ping engine world).1 = .error reason) :
    world.LeavesNothing (router.ping engine world).2.2 ↔ FirstDeclines engine router world := by
  have distinct := router.places_nodup
  have peopled (place : Place) (member : place ∈ router.places) :
      ∃ pool, router.pool? place = some pool := pool?_of_mem_places member
  unfold ping at failed ⊢
  unfold FirstDeclines
  generalize router.places = places at fresh distinct peopled failed ⊢
  cases places with
  | nil => cases failed
  | cons place rest =>
    obtain ⟨pool, there⟩ := peopled place List.mem_cons_self
    obtain ⟨apart, distinct⟩ := List.nodup_cons.mp distinct
    have first : (∃ other found, (place :: rest).head? = some other ∧
        router.pool? other = some found ∧ found.Declines engine world) ↔
          pool.Declines engine world := by
      simp [there]
    obtain ⟨opened, shut, sent, passage, -, answered, declines⟩ :=
      Pool.ping_fresh engine (fresh place List.mem_cons_self pool there) world
    rw [first, ← declines]
    rw [actAll, act_of_pool? _ _ there] at failed ⊢
    generalize pool.ping engine world = outcome at passage answered failed ⊢
    obtain ⟨reason | done, after, left⟩ := outcome
    · exact passage.leavesNothing_iff
    · -- What the first database was asked on stays idle in a pool that nobody has.
      obtain ⟨rfl, rfl⟩ := answered rfl
      obtain ⟨more, closed, further, onward, beyond⟩ := actAll_ping_passes engine distinct
        (router.replace place after) left (fresh.replace after apart there)
      have size : left.targets.length = world.targets.length + 1 := passage.targets
      rw [(passage.trans onward).leavesNothing_iff]
      constructor
      · intro all
        have later := beyond _ (all (world.targets.length + 1) (by omega) (by omega))
        omega
      · intro all
        cases all (world.targets.length + 1) (by omega) (by omega)

/-- No router could be prepared, or its first database does not answer and leaves no connection. -/
inductive FailsEarly (engine : Engine σ) (configuration : Configuration) (world : World σ) :
    Prop where
  | unprepared (reason : Error) (left : World σ)
      (failed : prepare engine configuration world = (.error reason, left))
  | declined (router : Router) (opened : World σ)
      (prepared : prepare engine configuration world = (.ok router, opened))
      (declines : FirstDeclines engine router opened)

theorem make_leavesNothing_iff {reason : Error} {left : World σ}
    (failed : Router.make engine configuration world = (.error reason, left)) :
    world.LeavesNothing left ↔ FailsEarly engine configuration world := by
  have passage := prepare_passes engine configuration world
  rw [make_eq] at failed
  cases prepared : prepare engine configuration world with
  | mk result opened =>
    rw [prepared] at passage failed
    cases result with
    | error cause =>
      cases failed
      rw [passage.leavesNothing_iff]
      exact ⟨fun _ => .unprepared reason left prepared, fun _ connection above below => by omega⟩
    | ok router =>
      have fresh : AreFresh router.places router := fun place _ pool there =>
        prepare_fresh prepared there
      rw [asked] at failed
      obtain ⟨refused, rfl⟩ := Prod.mk.inj failed
      have onwards : world.LeavesNothing (router.ping engine opened).2.2 ↔
          opened.LeavesNothing (router.ping engine opened).2.2 := by
        rw [World.LeavesNothing, World.LeavesNothing, passage.targets, passage.closings]
        rfl
      rw [onwards, ping_leavesNothing_iff fresh (map_failure refused)]
      constructor
      · exact .declined router opened prepared
      · rintro (⟨_, _, unprepared⟩ | ⟨_, _, again, declines⟩)
        · cases prepared.symm.trans unprepared
        · cases prepared.symm.trans again
          exact declines

end Router

/-- A database is registered under a name, and its router is still to be made. -/
structure Network.Awaits (name : Value) (configuration : Configuration) (network : Network σ) :
    Prop where
  fit : Network.requireKey name = .ok ()
  unnamed : Entries.get? name network.named = none
  known : Entries.get? name network.configurations = some configuration

theorem Network.Awaits.refused {name : Value} {configuration : Configuration} {network : Network σ}
    (awaits : network.Awaits name configuration) {engine : Engine σ} {reason : Error}
    {left : World σ}
    (failed : Router.make engine configuration network.world = (.error reason, left)) :
    network.database engine name = (.error reason, { network with world := left }) := by
  unfold Network.database
  rw [awaits.fit, awaits.unnamed, awaits.known]
  dsimp only
  rw [Network.makeRouter, failed]

/-- A router that fails while it is made leaves nothing open just when it fails before any database
has answered and the one that failed has left no connection. Whoever asked for it by name is told,
and the next request by this name begins with whatever was left open. -/
theorem failed_router_leaves (engine : Engine σ) (configuration : Configuration)
    (world left : World σ) (reason : Error)
    (failed : Router.make engine configuration world = (.error reason, left)) :
    (world.LeavesNothing left ↔ Router.FailsEarly engine configuration world) ∧
      ∀ (network : Network σ) (name : Value), network.world = world →
        network.Awaits name configuration →
          network.database engine name = (.error reason, { network with world := left }) ∧
            Network.Awaits name configuration { network with world := left } := by
  refine ⟨Router.make_leavesNothing_iff failed, fun network name same awaits => ?_⟩
  subst same
  exact ⟨awaits.refused failed, awaits.fit, awaits.unnamed, awaits.known⟩

/-- The first database loses its connection when it is asked whether it answers. -/
def Rehearsal.lostFirst : World Rehearsal :=
  let lost := World.closedFault none
  { outside := { rules := [{ part := "SELECT 1", connection := some 1, outcome := .error lost }] } }

/-- The second database cannot be opened. -/
def Rehearsal.missingSecond : World Rehearsal :=
  let absent : Fault := ⟨.sqliteOperational, [.text "unable to open database file"]⟩
  { outside := { connectRules := [{ part := "b.db", refusal := some absent }] } }

/-- Whether a router is made, how many connections are opened for that, and which are closed. -/
def makingOutcome (world : World Rehearsal) : Bool × Nat × List Nat :=
  let made := Router.make Rehearsal.engine Rehearsal.mirrored world
  (made.1.toOption.isSome, made.2.targets.length, made.2.closed)

theorem makingOutcome_failed {world : World Rehearsal} {size : Nat} {closed : List Nat}
    (outcome : makingOutcome world = (false, size, closed)) :
    ∃ reason left, Router.make Rehearsal.engine Rehearsal.mirrored world = (.error reason, left) ∧
      left.targets.length = size ∧ left.closed = closed := by
  unfold makingOutcome at outcome
  generalize Router.make Rehearsal.engine Rehearsal.mirrored world = made at outcome ⊢
  obtain ⟨reason | router, left⟩ := made
  · cases outcome
    exact ⟨reason, left, rfl, rfl, rfl⟩
  · cases outcome

theorem lostFirst_leaves_nothing :
    ∃ reason left, Router.make Rehearsal.engine Rehearsal.mirrored Rehearsal.lostFirst =
        (.error reason, left) ∧
      Router.FailsEarly Rehearsal.engine Rehearsal.mirrored Rehearsal.lostFirst ∧
      Network.database Rehearsal.engine (.text "default")
          { world := Rehearsal.lostFirst
            configurations := [(.text "default", Rehearsal.mirrored)] } =
        (.error reason,
          { world := left, configurations := [(.text "default", Rehearsal.mirrored)] }) := by
  have outcome : makingOutcome Rehearsal.lostFirst = (false, 1, [1]) := by cbv
  obtain ⟨reason, left, failed, size, closed⟩ := makingOutcome_failed outcome
  have leaves := failed_router_leaves Rehearsal.engine Rehearsal.mirrored Rehearsal.lostFirst left
    reason failed
  have nothing : Rehearsal.lostFirst.LeavesNothing left := by
    refine ⟨[1], closed, fun connection above below => ?_⟩
    have first : connection = 1 := by
      rw [size] at below
      exact Nat.le_antisymm below above
    simp [first]
  have asked := leaves.2
    { world := Rehearsal.lostFirst, configurations := [(.text "default", Rehearsal.mirrored)] }
    (.text "default") rfl ⟨rfl, rfl, rfl⟩
  exact ⟨reason, left, failed, leaves.1.mp nothing, asked.1⟩

/-- The connection to the first database stays open when the second one cannot be opened. -/
theorem missingSecond_leaves_open :
    ∃ reason left, Router.make Rehearsal.engine Rehearsal.mirrored Rehearsal.missingSecond =
        (.error reason, left) ∧
      left.targets.length = 1 ∧ left.closed = [] ∧ ¬Rehearsal.missingSecond.LeavesNothing left := by
  have outcome : makingOutcome Rehearsal.missingSecond = (false, 1, []) := by cbv
  obtain ⟨reason, left, failed, size, closed⟩ := makingOutcome_failed outcome
  refine ⟨reason, left, failed, size, closed, ?_⟩
  rintro ⟨shut, same, all⟩
  rw [closed] at same
  obtain ⟨rfl, -⟩ := List.append_eq_nil_iff.mp same.symm
  cases all 1 Nat.zero_lt_one (Nat.le_of_eq size.symm)

end Querywright
