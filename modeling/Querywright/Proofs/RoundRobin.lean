import Querywright.Rehearsal
import Querywright.Proofs.Outcome
import Querywright.Proofs.RouterTurns
import Mathlib

/-! Calls on a router and the members that serve them. A call that is told to write, or that finds
no replicas, goes to the primary whose turn it is, any other to the replica whose turn it is;
whatever comes of it, the members of a side serve equally many calls, one more or less. -/
namespace Querywright

variable {σ : Type}

/-- A call on a router: statements, transactions and loans, and whatever else is done in between. A
transaction and a lent connection are known to their callers only, who may hold any of them. -/
inductive RouterCall where
  | execute (statement parameters : Value)
  | begin
  | lend (writes : Bool)
  | giveBack (place : Place) (connection : Nat) (discarded : Bool)
  | within (transaction : Transaction) (statement parameters : Value)
  | finish (transaction : Transaction) (ending : Ending)
  | ping
  | close
  | reconnect

namespace RouterCall

def perform (engine : Engine σ) (call : RouterCall) (router : Router) (world : World σ) :
    Router × World σ :=
  match call with
  | .execute statement parameters => (router.execute engine statement parameters world).2
  | .begin => (Transaction.begin engine router world).2
  | .lend writes => (router.lend engine writes world).2
  | .giveBack place connection discarded =>
    router.giveBack engine place connection discarded world
  | .within transaction statement parameters =>
    (transaction.execute engine statement parameters router world).2
  | .finish transaction ending => (transaction.finish engine ending router world).2.2
  | .ping => (router.ping engine world).2
  | .close => router.close engine world
  | .reconnect => (router.reconnect engine world).2

/-- Whether a call is there to write, if it is one that the router hands to a member. A statement
that cannot be told apart is not handed to any. -/
def writes? : RouterCall → Option Bool
  | .execute statement _ => (isWriting statement).toOption
  | .begin => some true
  | .lend writes => some writes
  | _ => none

def place? (call : RouterCall) (router : Router) : Option Place :=
  call.writes?.map fun writes => (router.dispatch (router.sideFor writes)).1

/-- What the pool that serves a call makes of it. -/
def service (engine : Engine σ) (call : RouterCall) (pool : Pool) (world : World σ) :
    Pool × World σ :=
  match call with
  | .execute statement parameters =>
    match parameters.items with
    | .error _ => (pool, world)
    | .ok _ => (pool.execute engine statement parameters world).2
  | .begin =>
    match pool.checkout engine world with
    | (.error _, pool, world) => (pool, world)
    | (.ok connection, pool, world) =>
      match pool.run engine connection (.text "BEGIN") (.tuple []) world with
      | (.error _, pool, world) => pool.checkin engine connection true world
      | (.ok _, pool, world) => (pool, world)
  | .lend _ => (pool.checkout engine world).2
  | _ => (pool, world)

/-- A call is served at a place: the pool there does all that is done, and no other pool is
touched. -/
def IsServedAt (engine : Engine σ) (call : RouterCall) (place : Place) (router : Router)
    (world : World σ) : Prop :=
  ∃ turned pool, router.SamePools turned ∧ router.pool? place = some pool ∧
    call.perform engine router world =
      (turned.replace place (call.service engine pool world).1, (call.service engine pool world).2)

end RouterCall

namespace Router

def performAll (engine : Engine σ) : List RouterCall → Router → World σ → Router × World σ
  | [], router, world => (router, world)
  | call :: rest, router, world =>
    performAll engine rest (call.perform engine router world).1
      (call.perform engine router world).2

/-- The places that the calls of a run are handed to, in their order. -/
def dispatched (engine : Engine σ) : List RouterCall → Router → World σ → List Place
  | [], _, _ => []
  | call :: rest, router, world =>
    (call.place? router).toList ++
      dispatched engine rest (call.perform engine router world).1
        (call.perform engine router world).2

variable {router : Router}

theorem replace_self {place : Place} {pool : Pool} (there : router.pool? place = some pool) :
    router.replace place pool = router := by
  obtain ⟨side, index⟩ := place
  cases side with
  | primary =>
    have entry : router.primaries[index]? = some pool := there
    obtain ⟨inside, rfl⟩ := List.getElem?_eq_some_iff.mp entry
    simp [Router.replace]
  | replica =>
    have entry : router.replicas[index]? = some pool := there
    obtain ⟨inside, rfl⟩ := List.getElem?_eq_some_iff.mp entry
    simp [Router.replace]

/-- A side with members has one whose turn it is. -/
theorem dispatch_pool? (side : Side) (peopled : 0 < router.size side) :
    ∃ pool, router.pool? (router.dispatch side).1 = some pool := by
  rw [dispatch_index]
  have inside : router.turn side % router.size side < (router.pools side).length :=
    Nat.mod_lt _ peopled
  exact ⟨_, List.getElem?_eq_getElem inside⟩

theorem sideFor_peopled (writes : Bool) (peopled : 0 < router.size .primary) :
    0 < router.size (router.sideFor writes) := by
  unfold sideFor
  split
  · exact peopled
  · rename_i reads
    cases replicas : router.replicas with
    | nil => simp [replicas] at reads
    | cons first rest => simp [size, pools, replicas]

end Router

theorem Router.sideFor_replica {router : Router} (writes : Bool) :
    router.sideFor writes = .replica ↔ 0 < router.size .replica ∧ some writes = some false := by
  unfold Router.sideFor Router.size Router.pools
  cases writes <;> cases router.replicas <;> simp

namespace Router

/-- A relation between two states of a router that holds across all that is done with a connection
once it has been lent. -/
structure IsFrame (engine : Engine σ) (kept : Router → Router → Prop) : Prop where
  refl : ∀ router, kept router router
  trans : ∀ {before between after}, kept before between → kept between after → kept before after
  run : ∀ place connection statement parameters router world,
    kept router (router.act place (Pool.run engine connection statement parameters) world).2.1
  giveBack : ∀ place connection discarded router world,
    kept router (router.giveBack engine place connection discarded world).1

namespace IsFrame

variable {engine : Engine σ} {kept : Router → Router → Prop}

/-- What becomes of a connection that has been lent for a transaction. -/
theorem begin (frame : IsFrame engine kept) (router : Router) (world : World σ) :
    kept (router.lend engine true world).2.1 (Transaction.begin engine router world).2.1 := by
  unfold Transaction.begin
  generalize router.lend engine true world = outcome
  obtain ⟨result, taken, opened⟩ := outcome
  cases result with
  | error reason => exact frame.refl taken
  | ok given =>
    obtain ⟨place, connection⟩ := given
    have ran := frame.run place connection (.text "BEGIN") (.tuple []) taken opened
    dsimp only
    generalize taken.act place (Pool.run engine connection (.text "BEGIN") (.tuple [])) opened =
      outcome at ran ⊢
    obtain ⟨report, ran', left⟩ := outcome
    cases report with
    | error reason => exact frame.trans ran (frame.giveBack place connection true ran' left)
    | ok report => exact ran

theorem within (frame : IsFrame engine kept) (transaction : Transaction)
    (statement parameters : Value) (router : Router) (world : World σ) :
    kept router (transaction.execute engine statement parameters router world).2.1 := by
  unfold Transaction.execute
  split
  · exact frame.refl router
  · split
    · exact frame.refl router
    · exact frame.run _ _ _ _ router world

theorem finish (frame : IsFrame engine kept) (transaction : Transaction) (ending : Ending)
    (router : Router) (world : World σ) :
    kept router (transaction.finish engine ending router world).2.2.1 := by
  unfold Transaction.finish
  split
  · exact frame.refl router
  · have ran := frame.run transaction.place transaction.connection (.text ending.statement)
      (.tuple []) router world
    dsimp only
    generalize router.act transaction.place (Pool.run engine transaction.connection
      (.text ending.statement) (.tuple [])) world = outcome at ran ⊢
    obtain ⟨report, ran', left⟩ := outcome
    cases report with
    | error reason => exact frame.trans ran (frame.giveBack _ _ true ran' left)
    | ok report => exact frame.trans ran (frame.giveBack _ _ false ran' left)

end IsFrame

theorem turns_frame (engine : Engine σ) : IsFrame engine SameTurns where
  refl := .refl
  trans := .trans
  run := fun place connection statement parameters =>
    act_turns place (Pool.run engine connection statement parameters)
  giveBack := giveBack_turns engine

end Router

namespace RouterCall

variable (engine : Engine σ) (router : Router) (world : World σ)

theorem execute_bound (statement parameters : Value) (writes : Bool)
    (told : isWriting statement = .ok writes) (values : List Value)
    (read : parameters.items = .ok values) :
    router.execute engine statement parameters world =
      (router.dispatch (router.sideFor writes)).2.act (router.dispatch (router.sideFor writes)).1
        (Pool.execute engine statement parameters) world := by
  unfold Router.execute Router.select
  rewrite [told, read]
  rfl

/-- A turn is taken even if the parameters cannot be read. -/
theorem execute_unbound (statement parameters : Value) (writes : Bool)
    (told : isWriting statement = .ok writes) (reason : Error)
    (unread : parameters.items = .error reason) :
    router.execute engine statement parameters world =
      (.error reason, (router.dispatch (router.sideFor writes)).2, world) := by
  unfold Router.execute Router.select
  rewrite [told, unread]
  rfl

theorem execute_unclassified (statement parameters : Value) (reason : Error)
    (untold : isWriting statement = .error reason) :
    router.execute engine statement parameters world = (.error reason, router, world) := by
  unfold Router.execute Router.select
  rewrite [untold]
  rfl

section Service

variable {router} {writes : Bool} {pool : Pool}

theorem execute_served (statement parameters : Value) (told : isWriting statement = .ok writes)
    (kept : (router.dispatch (router.sideFor writes)).2.pool?
      (router.dispatch (router.sideFor writes)).1 = some pool) :
    (router.execute engine statement parameters world).2 =
      ((router.dispatch (router.sideFor writes)).2.replace
          (router.dispatch (router.sideFor writes)).1
          (service engine (.execute statement parameters) pool world).1,
        (service engine (.execute statement parameters) pool world).2) := by
  unfold service
  dsimp only
  cases read : parameters.items with
  | error reason =>
    rw [execute_unbound engine router world statement parameters writes told reason read]
    dsimp only
    rw [Router.replace_self kept]
  | ok values =>
    rw [execute_bound engine router world statement parameters writes told values read]
    rw [Router.act_of_pool? _ _ kept]

/-- A connection on which no transaction begins is given back at once. -/
theorem begin_served (kept : (router.dispatch (router.sideFor true)).2.pool?
      (router.dispatch (router.sideFor true)).1 = some pool) :
    (Transaction.begin engine router world).2 =
      ((router.dispatch (router.sideFor true)).2.replace
          (router.dispatch (router.sideFor true)).1 (service engine .begin pool world).1,
        (service engine .begin pool world).2) := by
  unfold service Transaction.begin Router.lend
  dsimp only
  rw [Router.act_of_pool? _ _ kept]
  generalize pool.checkout engine world = taking
  obtain ⟨result, taken, opened⟩ := taking
  cases result with
  | error reason => rfl
  | ok connection =>
    dsimp only [Except.map]
    have ready := Router.pool?_replace_self taken kept
    rw [Router.act_of_pool? _ _ ready, Router.replace_replace]
    generalize taken.run engine connection (.text "BEGIN") (.tuple []) opened = running
    obtain ⟨report, ran, left⟩ := running
    cases report with
    | error reason =>
      have shut := Router.pool?_replace_self ran kept
      dsimp only
      unfold Router.giveBack
      rw [Router.act_of_pool? _ _ shut, Router.replace_replace]
    | ok report => rfl

theorem lend_served (kept : (router.dispatch (router.sideFor writes)).2.pool?
      (router.dispatch (router.sideFor writes)).1 = some pool) :
    (router.lend engine writes world).2 =
      ((router.dispatch (router.sideFor writes)).2.replace
          (router.dispatch (router.sideFor writes)).1
          (service engine (.lend writes) pool world).1,
        (service engine (.lend writes) pool world).2) := by
  unfold service Router.lend
  dsimp only
  rw [Router.act_of_pool? _ _ kept]

end Service

/-- A call that goes to a member is served by the one whose turn it is. -/
theorem served_of_place (call : RouterCall) (peopled : 0 < router.size .primary) (place : Place)
    (handed : call.place? router = some place) : call.IsServedAt engine place router world := by
  obtain ⟨writes, told, rfl⟩ := Option.map_eq_some_iff.mp handed
  obtain ⟨pool, there⟩ := router.dispatch_pool? _ (Router.sideFor_peopled writes peopled)
  have same := Router.dispatch_samePools (router.sideFor writes) router
  have kept : (router.dispatch (router.sideFor writes)).2.pool?
      (router.dispatch (router.sideFor writes)).1 = some pool := by
    rw [same.pool?, there]
  refine ⟨(router.dispatch (router.sideFor writes)).2, pool, same, there, ?_⟩
  cases call with
  | execute statement parameters =>
    have classified : isWriting statement = .ok writes := by
      cases told' : isWriting statement with
      | error reason => simp [writes?, told', Except.toOption] at told
      | ok found => simpa [writes?, told', Except.toOption] using told
    exact execute_served engine world statement parameters classified kept
  | begin =>
    cases told
    exact begin_served engine world kept
  | lend mode =>
    cases told
    exact lend_served engine world kept
  | _ => cases told

theorem lend_dispatches (writes : Bool) :
    router.Dispatches [(router.dispatch (router.sideFor writes)).1]
      (router.lend engine writes world).2.1 :=
  .dispatch _ (Router.act_turns _ (Pool.checkout engine) _ world)

theorem begin_dispatches :
    router.Dispatches [(router.dispatch (router.sideFor true)).1]
      (Transaction.begin engine router world).2.1 :=
  (lend_dispatches engine router world true).trans
    (.nothing ((Router.turns_frame engine).begin router world))

/-- One call: the turn that it takes, if it is handed to a member, is all that it changes of the
turns. -/
theorem perform_dispatches (call : RouterCall) :
    router.Dispatches (call.place? router).toList (call.perform engine router world).1 := by
  cases call with
  | execute statement parameters =>
    unfold perform place? writes?
    dsimp only
    cases told : isWriting statement with
    | error reason =>
      rw [execute_unclassified engine router world statement parameters reason told]
      exact .nothing (.refl router)
    | ok writes =>
      refine .dispatch _ ?_
      cases read : parameters.items with
      | error reason =>
        rw [execute_unbound engine router world statement parameters writes told reason read]
        exact .refl _
      | ok values =>
        rw [execute_bound engine router world statement parameters writes told values read]
        exact Router.act_turns _ _ _ world
  | begin => exact begin_dispatches engine router world
  | lend writes => exact lend_dispatches engine router world writes
  | giveBack place connection discarded =>
    exact .nothing (Router.giveBack_turns engine place connection discarded router world)
  | within transaction statement parameters =>
    exact .nothing
      ((Router.turns_frame engine).within transaction statement parameters router world)
  | finish transaction ending =>
    exact .nothing ((Router.turns_frame engine).finish transaction ending router world)
  | ping => exact .nothing (Router.ping_turns engine router world)
  | close => exact .nothing (Router.close_turns engine router world)
  | reconnect => exact .nothing (Router.reconnect_turns engine router world)

end RouterCall

theorem Router.performAll_dispatches (engine : Engine σ) (calls : List RouterCall)
    (router : Router) (world : World σ) :
    router.Dispatches (router.dispatched engine calls world)
      (router.performAll engine calls world).1 := by
  induction calls generalizing router world with
  | nil => exact .nothing (.refl router)
  | cons call rest ih => exact (call.perform_dispatches engine router world).trans (ih _ _)

def Configuration.size (side : Side) (configuration : Configuration) : Nat :=
  match side with
  | .primary => configuration.primaries.length
  | .replica => configuration.replicas.length

/-- A pool as it is made for a source: it is not marked and has no connections. -/
def Pool.IsMadeFor (source : Source) (pool : Pool) : Prop :=
  ∃ url dialect, pool = { source := source, url := url, dialect := dialect }

theorem Pool.make_made {engine : Engine σ} {source : Source} {world opened : World σ}
    {pool : Pool} (made : Pool.make engine source world = (.ok pool, opened)) :
    pool.IsMadeFor source := by
  unfold Pool.make at made
  split at made
  · cases made
  · rename_i url left resolved
    have read : ofUrl source url = .ok pool := congrArg Prod.fst made
    obtain ⟨address, -, read⟩ := bind_success read
    obtain ⟨dialect, -, read⟩ := bind_success read
    exact ⟨url, dialect, (return_success read).symm⟩

namespace Router

variable {engine : Engine σ} {configuration : Configuration} {world opened : World σ}
  {router : Router}

theorem makePools_made {sources : List Source} {pools : List Pool}
    (made : makePools engine sources world = (.ok pools, opened)) :
    List.Forall₂ Pool.IsMadeFor sources pools := by
  induction sources generalizing world pools with
  | nil =>
    cases made
    exact .nil
  | cons source rest ih =>
    unfold makePools at made
    cases first : Pool.make engine source world with
    | mk result between =>
      rw [first] at made
      cases result with
      | error reason => cases made
      | ok pool =>
        dsimp only at made
        cases others : makePools engine rest between with
        | mk result last =>
          rw [others] at made
          cases result with
          | error reason => cases made
          | ok found =>
            cases made
            exact .cons (Pool.make_made first) (ih others)

theorem makePools_sources {sources : List Source} {pools : List Pool}
    (made : makePools engine sources world = (.ok pools, opened)) :
    pools.map Pool.source = sources := by
  have all := makePools_made made
  clear made
  induction all with
  | nil => rfl
  | cons first _ ih =>
    obtain ⟨url, dialect, rfl⟩ := first
    rw [List.map_cons, ih]

/-- A new router has been asked whether its databases answer, with the pools of all its addresses. -/
theorem make_success (made : Router.make engine configuration world = (.ok router, opened)) :
    ∃ primaries replicas asked, primaries.map Pool.source = configuration.primaries ∧
      replicas.map Pool.source = configuration.replicas ∧
      Router.ping engine
        { configuration := configuration, primaries := primaries, replicas := replicas } asked =
          (.ok (), router, opened) := by
  unfold Router.make at made
  cases first : makePools engine configuration.primaries world with
  | mk result between =>
    rw [first] at made
    cases result with
    | error reason => cases made
    | ok primaries =>
      dsimp only at made
      cases second : makePools engine configuration.replicas between with
      | mk result asked =>
        rw [second] at made
        cases result with
        | error reason => cases made
        | ok replicas =>
          refine ⟨primaries, replicas, asked, makePools_sources first, makePools_sources second, ?_⟩
          dsimp only at made
          generalize Router.ping engine
            { configuration := configuration, primaries := primaries, replicas := replicas }
              asked = answer at made
          obtain ⟨reply, answered, left⟩ := answer
          cases reply with
          | error reason => cases made
          | ok done =>
            cases made
            rfl

/-- A new router has a member for every address, and on either side it is the first one's turn. -/
theorem make_turns (made : Router.make engine configuration world = (.ok router, opened))
    (side : Side) : router.turn side = 0 ∧ router.size side = configuration.size side := by
  obtain ⟨primaries, replicas, asked, first, second, answered⟩ := make_success made
  have pinged := Router.ping_turns engine
    { configuration := configuration, primaries := primaries, replicas := replicas } asked
  rw [answered] at pinged
  have primary : primaries.length = configuration.primaries.length := by
    rw [← first, List.length_map]
  have replica : replicas.length = configuration.replicas.length := by
    rw [← second, List.length_map]
  cases side with
  | primary => exact ⟨pinged.turn .primary, (pinged.size .primary).trans primary⟩
  | replica => exact ⟨pinged.turn .replica, (pinged.size .replica).trans replica⟩

end Router

/-- From a new router on, whatever calls are made and however each ends: the next call handed to a
side is served by the member whose number is that of the calls handed to this side before, counted
around; it goes to a replica just when there are some and it is not there to write; nothing else
moves a turn; and the members of a side have served equally many calls, one more or less. -/
theorem members_served_in_turn (engine : Engine σ) (configuration : Configuration)
    (world opened : World σ) (router : Router)
    (made : Router.make engine configuration world = (.ok router, opened))
    (peopled : configuration.primaries ≠ []) (calls : List RouterCall) :
    let now := router.performAll engine calls opened
    let places := router.dispatched engine calls opened
    (∀ side, membersOf side places =
        turnsFrom 0 (membersOf side places).length (configuration.size side) ∧
      now.1.turn side = (membersOf side places).length % configuration.size side) ∧
    (∀ (call : RouterCall) (place : Place), call.place? now.1 = some place →
      (place.side = .replica ↔ 0 < configuration.size .replica ∧ call.writes? = some false) ∧
      place.index = (membersOf place.side places).length % configuration.size place.side ∧
      call.IsServedAt engine place now.1 now.2) ∧
    ∀ side, ∀ index < configuration.size side,
      (membersOf side places).length / configuration.size side ≤ places.count ⟨side, index⟩ ∧
      places.count ⟨side, index⟩ ≤
        ((membersOf side places).length + configuration.size side - 1) /
          configuration.size side := by
  intro now places
  have start := Router.make_turns made
  have dispatched := Router.performAll_dispatches engine calls router opened
  have turns (side : Side) := dispatched.in_turn (start side).1
  have sizes (side : Side) : now.1.size side = configuration.size side :=
    (dispatched.size side).trans (start side).2
  refine ⟨?_, ?_, ?_⟩
  · intro side
    rw [← (start side).2]
    exact turns side
  · intro call place handed
    have primaries : 0 < now.1.size .primary := by
      rw [sizes]
      exact List.length_pos_iff.mpr peopled
    have served := call.served_of_place engine now.1 now.2 primaries place handed
    obtain ⟨writes, told, rfl⟩ := Option.map_eq_some_iff.mp handed
    refine ⟨?_, ?_, served⟩
    · rw [Router.dispatch_index, told, ← sizes]
      exact Router.sideFor_replica writes
    · rw [Router.dispatch_index]
      dsimp only
      rw [(turns _).2, sizes, (start _).2, Nat.mod_mod]
  · intro side index inside
    rw [← (start side).2] at inside ⊢
    exact dispatched.shared (start side).1 inside

def Rehearsal.mirrored : Configuration :=
  { primaries := [.fixed "sqlite:///a.db", .fixed "sqlite:///b.db"]
    replicas := [.fixed "sqlite:///c.db"] }

/-- Databases of which none begins a transaction. -/
def Rehearsal.reluctant : World Rehearsal :=
  { outside := { rules := [{ part := "BEGIN", outcome := .error ⟨.sqliteOperational, []⟩ }] } }

def mixedCalls : List RouterCall :=
  [.execute (.text "DELETE FROM T") (.tuple []), .begin, .ping,
    .execute (.text "SELECT 1") (.tuple []), .lend true, .reconnect, .lend false]

def mixedPlaces : Option (List Place) :=
  match Router.make Rehearsal.engine Rehearsal.mirrored Rehearsal.reluctant with
  | (.ok router, opened) => some (router.dispatched Rehearsal.engine mixedCalls opened)
  | (.error _, _) => none

/-- A failed begin among them: three calls go to the primaries and two to the replica. -/
theorem mixedCalls_served_in_turn :
    ∃ router opened, Router.make Rehearsal.engine Rehearsal.mirrored Rehearsal.reluctant =
        (.ok router, opened) ∧ Rehearsal.mirrored.primaries ≠ [] ∧
      router.dispatched Rehearsal.engine mixedCalls opened =
        [⟨.primary, 0⟩, ⟨.primary, 1⟩, ⟨.replica, 0⟩, ⟨.primary, 0⟩, ⟨.replica, 0⟩] ∧
      [0, 1, 0] = turnsFrom 0 3 2 ∧
      (router.performAll Rehearsal.engine mixedCalls opened).1.turn .primary = 3 % 2 := by
  have places : mixedPlaces =
      some [⟨.primary, 0⟩, ⟨.primary, 1⟩, ⟨.replica, 0⟩, ⟨.primary, 0⟩, ⟨.replica, 0⟩] := by
    cbv
  unfold mixedPlaces at places
  generalize making : Router.make Rehearsal.engine Rehearsal.mirrored Rehearsal.reluctant = made
    at places
  obtain ⟨result, opened⟩ := made
  cases result with
  | error reason => cases places
  | ok router =>
    have dispatched := Option.some.inj places
    have served := members_served_in_turn Rehearsal.engine Rehearsal.mirrored Rehearsal.reluctant
      opened router making (by simp [Rehearsal.mirrored]) mixedCalls
    have turns := served.1 .primary
    rw [dispatched] at turns
    exact ⟨router, opened, rfl, by simp [Rehearsal.mirrored], dispatched, turns.1, turns.2⟩

end Querywright
