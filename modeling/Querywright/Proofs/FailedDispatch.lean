import Querywright.Proofs.ConnectionOwnership
import Querywright.Proofs.RoundRobin
import Mathlib

/-! A statement that fails on its way. Its side has passed on the turn, and nothing but the pool
whose turn it was is touched: the caller gets the error as it is, nobody tries again, and the
connection goes back to the pool or, where the error means that it is lost, is closed. -/
namespace Querywright

variable {σ : Type}

namespace Pool

/-- The driver raises an error while a statement is run on a connection: it has no cursor to give,
and is asked nothing, or it is asked once, with the statement in the style of the dialect. -/
inductive Raises (engine : Engine σ) (connection : Nat) (statement parameters : Value) (pool : Pool)
    (world : World σ) : List (Nat × Value) → Error → Prop where
  | unready (fault : Fault) (closed : world.readiness connection = .error fault) :
      Raises engine connection statement parameters pool world [] (.fault fault)
  | asked (reason : Error) (sent : Value) (values : List Value)
      (ready : world.readiness connection = .ok ())
      (handed : pool.dialect.handedOver statement parameters = .ok (sent, values))
      (answer : (world.execute engine connection sent values).1 = .error reason) :
      Raises engine connection statement parameters pool world [(connection, sent)] reason

/-- An error that means that the connection is lost. -/
def losesBy (reason : Error) (pool : Pool) : Bool :=
  pool.isLoss (.error reason : Except Error Report)

variable {engine : Engine σ} {connection : Nat} {statement parameters : Value}
  {pool taken : Pool} {world opened : World σ} {sent : List (Nat × Value)} {reason : Error}

/-- The driver is asked once at most, and on the connection that was taken. -/
theorem Raises.once
    (raises : Raises engine connection statement parameters pool world sent reason) :
    sent.length ≤ 1 ∧ ∀ sending ∈ sent, sending.1 = connection := by
  cases raises with
  | unready => simp
  | asked => simp

theorem Raises.run (raises : Raises engine connection statement parameters pool world sent reason) :
    ∃ left, pool.run engine connection statement parameters world =
        (.error reason, { pool with healthy := pool.healthy && !pool.losesBy reason }, left) ∧
      world.Passes left 0 [] sent := by
  unfold Pool.run
  cases raises with
  | unready fault closed =>
    have noticed := notice_eq fault pool world
    rw [closed]
    exact ⟨_, Prod.ext rfl (Prod.ext noticed.1 rfl), noticed.2⟩
  | asked _ sent values ready handed answer =>
    have executing := World.execute_passes engine connection sent values world
    rw [ready, handed]
    dsimp only
    generalize world.execute engine connection sent values = outcome at answer executing ⊢
    obtain ⟨report, left⟩ := outcome
    cases answer
    cases reason with
    | fault fault =>
      have noticed := notice_eq fault pool left
      exact ⟨_, Prod.ext rfl (Prod.ext noticed.1 rfl), executing.trans noticed.2⟩
    | _ => exact ⟨left, by simp [losesBy, isLoss], executing⟩

/-- The connection that was taken does not stay among the idle ones. -/
theorem Provided.absent (distinct : pool.idle.Nodup)
    (taking : Provided engine true pool world (.ok connection, taken, opened)) :
    connection ∉ taken.idle := by
  cases taking with
  | popped rest _ healthy idle =>
    rw [idle] at distinct
    exact fun member => List.disjoint_of_nodup_append distinct member (List.mem_singleton.mpr rfl)
  | opened url kept dropped left sent idle emptied =>
    dsimp only
    rw [emptied rfl]
    exact List.not_mem_nil

/-- Taking a connection sends what is sent first on new ones. -/
theorem Provided.first {result : Except Error Nat}
    (taking : Provided engine true pool world (result, taken, opened)) :
    ∃ made shut sent, world.Passes opened made shut sent ∧ Dialect.AreFirst world opened sent := by
  cases taking with
  | popped => exact ⟨0, [], [], .refl world, by simp [Dialect.AreFirst]⟩
  | opened _ _ dropped _ sent _ _ _ passage first => exact ⟨1, dropped, sent, passage, first⟩
  | refused _ _ _ dropped _ made sent _ _ _ passage first =>
    exact ⟨made, dropped, sent, passage, first⟩

theorem Provided.same_dialect {result : Except Error Nat}
    (taking : Provided engine true pool world (result, taken, opened)) :
    taken.dialect = pool.dialect := by
  cases taking <;> rfl

theorem losesBy_of_dialect (same : taken.dialect = pool.dialect) :
    taken.losesBy reason = pool.losesBy reason := by
  unfold losesBy isLoss
  rw [same]

theorem execute_of_refused
    (taking : pool.checkout engine world = (.error reason, taken, opened)) :
    pool.execute engine statement parameters world = (.error reason, taken, opened) := by
  unfold execute
  rw [taking]

/-- What is left of a statement that failed on the connection that was taken for it. -/
structure Failed (pool : Pool) (world : World σ) (connection : Nat) (reason : Error)
    (sent : List (Nat × Value)) (after : Pool) (left : World σ) : Prop where
  marking : after.healthy = true ↔ pool.losesBy reason = false
  returned : pool.losesBy reason = false → connection ∈ after.idle
  dropped : pool.losesBy reason = true → connection ∉ after.idle ∧ connection ∈ left.closed
  asked : ∃ first, left.sent = world.sent ++ first ++ sent ∧ Dialect.AreFirst world left first
  once : sent.length ≤ 1 ∧ ∀ sending ∈ sent, sending.1 = connection

theorem execute_of_raised (distinct : pool.idle.Nodup)
    (taking : pool.checkout engine world = (.ok connection, taken, opened))
    (raises : Raises engine connection statement parameters taken opened sent reason) :
    ∃ after left, pool.execute engine statement parameters world = (.error reason, after, left) ∧
      Failed pool world connection reason sent after left := by
  have provided : Provided engine true pool world (.ok connection, taken, opened) :=
    taking ▸ provide_provided engine true pool world
  obtain ⟨made, shut, first, opening, areFirst⟩ := provided.first
  obtain ⟨left, running, passage⟩ := raises.run
  have absent := provided.absent distinct
  rw [losesBy_of_dialect provided.same_dialect, provided.healthy, Bool.true_and] at running
  have asked {after : World σ} {closed : List Nat} (closing : left.Passes after 0 closed []) :
      ∃ first, after.sent = world.sent ++ first ++ sent ∧ Dialect.AreFirst world after first := by
    refine ⟨first, ?_, ?_⟩
    · rw [closing.sendings, passage.sendings, opening.sendings, List.append_nil]
    · intro sending member
      rw [closing.targets, passage.targets]
      exact areFirst sending member
  unfold execute
  rw [taking]
  dsimp only
  rw [running]
  dsimp only
  cases lost : pool.losesBy reason with
  | false =>
    rw [checkin_kept engine connection _ left rfl]
    refine ⟨_, _, rfl, by simp [lost], fun _ => by simp, ?_, asked (.refl left), raises.once⟩
    rw [lost]
    exact nofun
  | true =>
    rw [checkin_closed engine connection false _ left (.inr rfl)]
    have closing := World.discard_passes engine [connection] left
    have shut := closing.closed_of_mem (List.mem_singleton.mpr rfl)
    refine ⟨_, _, rfl, by simp [lost], ?_, fun _ => ⟨absent, shut⟩, asked closing, raises.once⟩
    rw [lost]
    exact nofun

end Pool

namespace Router

/-- A call has been handed to a place: the turn of its side is passed on, and neither another pool
nor the turn of the other side has changed. -/
structure HandedTo (place : Place) (before after : Router) : Prop where
  turn : after.turn place.side = (before.turn place.side + 1) % before.size place.side
  other : ∀ side, side ≠ place.side → after.turn side = before.turn side
  pools : ∀ other, other ≠ place → after.pool? other = before.pool? other

theorem act_pool? {α : Type} {place other : Place} (apart : other ≠ place)
    (action : Pool → World σ → Except Error α × Pool × World σ) (router : Router)
    (world : World σ) :
    (router.act place action world).2.1.pool? other = router.pool? other := by
  cases there : router.pool? place with
  | none => rw [act_of_none action world there]
  | some pool =>
    rw [act_of_pool? action world there, pool?_replace _ there, if_neg apart]

theorem act_handedTo {α : Type} (side : Side)
    (action : Pool → World σ → Except Error α × Pool × World σ) (router : Router)
    (world : World σ) :
    HandedTo (router.dispatch side).1 router
      ((router.dispatch side).2.act (router.dispatch side).1 action world).2.1 := by
  have turns := act_turns (router.dispatch side).1 action (router.dispatch side).2 world
  have here : (router.dispatch side).1.side = side := by rw [dispatch_index]
  refine ⟨?_, ?_, ?_⟩
  · rw [here, turns.turn, dispatch_turn, if_pos rfl, Nat.mod_add_mod]
  · intro other different
    rw [here] at different
    rw [turns.turn, dispatch_turn, if_neg different]
  · intro other different
    rw [act_pool? different, (dispatch_samePools side router).pool?]

end Router

/-- A statement for a pool of a router in use. If no connection can be opened for it the caller
gets that error, no statement is sent but the first ones of a new connection, and nothing is idle.
If the driver raises an error on the connection that was taken, the caller gets that error and the
driver was asked once at most, on that connection; the pool is healthy, with the connection idle
again, unless the error means that the connection is lost, and then it is marked and the connection
closed. In any case the turn is passed on by one, and no other pool and no other turn has changed.
-/
theorem failed_dispatch (engine : Engine σ) (router : Router) (world : World σ)
    (moments : List Moment) (empty : ∀ place, router.idleAt place = [])
    (statement parameters : Value) (writes : Bool) (told : isWriting statement = .ok writes)
    (values : List Value) (read : parameters.items = .ok values) :
    let traffic := Traffic.run engine moments ⟨router, world, []⟩
    let place := (traffic.router.dispatch (traffic.router.sideFor writes)).1
    let outcome := traffic.router.execute engine statement parameters traffic.world
    traffic.router.HandedTo place outcome.2.1 ∧
      ∀ pool, traffic.router.pool? place = some pool →
        (∀ reason taken opened,
          pool.checkout engine traffic.world = (.error reason, taken, opened) →
          outcome.1 = .error reason ∧ outcome.2.1.idleAt place = [] ∧
            ∃ sent, outcome.2.2.sent = traffic.world.sent ++ sent ∧
              Dialect.AreFirst traffic.world outcome.2.2 sent) ∧
        ∀ connection taken opened sent reason,
          pool.checkout engine traffic.world = (.ok connection, taken, opened) →
          taken.Raises engine connection statement parameters opened sent reason →
          outcome.1 = .error reason ∧ ∃ after, outcome.2.1.pool? place = some after ∧
            pool.Failed traffic.world connection reason sent after outcome.2.2 := by
  intro traffic place outcome
  have sound : traffic.IsSound :=
    Traffic.run_sound engine moments (Traffic.start_sound world empty)
  have bound : outcome = _ :=
    RouterCall.execute_bound engine traffic.router traffic.world statement parameters writes told
      values read
  refine ⟨bound ▸ Router.act_handedTo _ _ traffic.router traffic.world, fun pool there => ?_⟩
  have kept : (traffic.router.dispatch (traffic.router.sideFor writes)).2.pool? place =
      some pool := by
    rw [(Router.dispatch_samePools _ traffic.router).pool?, there]
  rw [Router.act_of_pool? _ _ kept] at bound
  have replaced (after : Pool) := Router.pool?_replace_self after kept
  constructor
  · intro reason taken opened taking
    have provided : Pool.Provided engine true pool traffic.world (.error reason, taken, opened) :=
      taking ▸ Pool.provide_provided engine true pool traffic.world
    obtain ⟨made, shut, sent, passage, first⟩ := provided.first
    rw [Pool.execute_of_refused taking] at bound
    rw [bound, Router.idleAt_of_pool? (replaced taken)]
    refine ⟨rfl, ?_, sent, passage.sendings, first⟩
    cases provided with
    | refused _ url kept dropped left made sent idle emptied => exact emptied rfl
  · intro connection taken opened sent reason taking raises
    have distinct : pool.idle.Nodup := by
      rw [← Router.idleAt_of_pool? there]
      exact sound.idleAt_nodup place
    obtain ⟨after, left, executing, failed⟩ := Pool.execute_of_raised distinct taking raises
    rw [executing] at bound
    rw [bound]
    exact ⟨rfl, after, replaced after, failed⟩

/-- A database without the table that a statement asks for, once it has answered a ping. -/
def Rehearsal.tableless : Traffic Rehearsal :=
  traffic "sqlite:///a.db" .sqlite
    { rules := [{ part := "FROM T"
                  outcome := .error ⟨.sqliteOperational, [.text "no such table: T"]⟩ }] }

def Rehearsal.pinged : Traffic Rehearsal :=
  Traffic.run engine [.turn (.ping ⟨.primary, 0⟩)] ⟨tableless.router, tableless.world, []⟩

/-- Its pool, with the connection of the ping. -/
def Rehearsal.pingedPool : Pool :=
  { source := .fixed "sqlite:///a.db", url := "sqlite:///a.db", dialect := .sqlite, idle := [1]
    used := true, checked := true }

open Rehearsal in
theorem missingTable_dispatch :
    (∀ place, tableless.router.idleAt place = []) ∧
      isWriting (.text "SELECT a FROM T") = .ok false ∧
      (Value.tuple []).items = .ok [] ∧
      ∃ after, (pinged.router.execute engine (.text "SELECT a FROM T") (.tuple [])
          pinged.world).2.1.pool? ⟨.primary, 0⟩ = some after ∧
        after.healthy = true ∧ 1 ∈ after.idle := by
  have empty : ∀ place, tableless.router.idleAt place = [] :=
    traffic_empty "sqlite:///a.db" .sqlite _
  have told : isWriting (.text "SELECT a FROM T") = .ok false := by cbv
  have there : pinged.router.pool? ⟨.primary, 0⟩ = some pingedPool := by cbv
  have raises : Pool.Raises engine 1 (.text "SELECT a FROM T") (.tuple [])
      { pingedPool with idle := [] } pinged.world [(1, .text "SELECT a FROM T")]
      (.fault ⟨.sqliteOperational, [.text "no such table: T"]⟩) :=
    .asked _ (.text "SELECT a FROM T") [] (by cbv) (by cbv) (by cbv)
  have kept : pingedPool.losesBy (.fault ⟨.sqliteOperational, [.text "no such table: T"]⟩) =
      false := by
    cbv
  obtain ⟨-, served⟩ := failed_dispatch engine tableless.router tableless.world
    [.turn (.ping ⟨.primary, 0⟩)] empty (.text "SELECT a FROM T") (.tuple []) false told [] rfl
  obtain ⟨-, after, found, failed⟩ := (served pingedPool there).2 1 _ pinged.world _ _ rfl raises
  exact ⟨empty, told, rfl, after, found, failed.marking.mpr kept, failed.returned kept⟩

end Querywright
