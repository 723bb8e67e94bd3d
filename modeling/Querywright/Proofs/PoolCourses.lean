import Querywright.Proofs.ConnectionOwnership

/-! What a moment does to the pool at one place. Turns are whole operations: with nothing coming late,
a marked pool only ever gets healthy by opening a new connection, all idle ones having been
closed. -/
namespace Querywright

variable {σ : Type}

/-- From a pool to the pool at the same place behind an operation. -/
inductive PoolCourse (before : Traffic σ) (operation : Operation) (after : Traffic σ)
    (seen : List Occurrence) (place : Place) (pool : Pool) : Pool → Prop where
  | same : PoolCourse before operation after seen place pool pool
  | took (purpose : Purpose) (whole : Bool) (connection : Nat) (taken : Pool) (left : World σ)
      (gained shut : List Nat) (sent : List (Nat × Value))
      (own : operation = .take purpose place whole)
      (provision :
        Pool.Provision whole pool before.world connection taken left gained shut sent)
      (noticed : seen = Pool.witnessed place gained sent [connection] [])
      (balances : Balances before operation after seen (gained.map (Prod.mk place))
        (shut.map (Prod.mk place))) :
      PoolCourse before operation after seen place pool taken
  | upkept (kept : Pool) (left : World σ) (gained shut : List Nat) (sent : List (Nat × Value))
      (handed lost : List Nat)
      (upkeep : Pool.Upkeep pool before.world kept left gained shut sent handed lost)
      (stale : operation.isWhole = true → pool.healthy = false →
        ∀ connection ∈ pool.idle, connection ∈ shut)
      (noticed : seen = Pool.witnessed place gained sent handed lost)
      (balances : Balances before operation after seen (gained.map (Prod.mk place))
        (shut.map (Prod.mk place))) :
      PoolCourse before operation after seen place pool kept
  | marked (healthy : Bool) (own : operation = .mark place healthy) :
      PoolCourse before operation after seen place pool { pool with healthy := healthy }
  | raised (lost : Bool) : PoolCourse before operation after seen place pool
      { pool with healthy := pool.healthy && !lost }
  | kept (number : Nat) (tenure : Tenure) (own : operation = .giveBack number tenure false)
      (placed : tenure.place = place) (healthy : pool.healthy = true) :
      PoolCourse before operation after seen place pool
        { pool with idle := pool.idle ++ [tenure.connection] }

variable {before after traffic : Traffic σ} {operation : Operation} {seen : List Occurrence}
  {place : Place} {pool : Pool}

theorem course_of_happens (happens : Happens before operation after seen)
    (there : before.router.pool? place = some pool) :
    ∃ next, after.router.pool? place = some next ∧
      PoolCourse before operation after seen place pool next := by
  -- A pool that is put somewhere else changes nothing here.
  have put {elsewhere : Place} {old other : Pool}
      (found : before.router.pool? elsewhere = some old)
      (here : elsewhere = place → old = pool →
        PoolCourse before operation after seen place pool other) :
      ∃ next, (before.router.replace elsewhere other).pool? place = some next ∧
        PoolCourse before operation after seen place pool next := by
    rw [Router.pool?_replace other found]
    by_cases same : place = elsewhere
    · subst same
      rw [there] at found
      cases found
      exact ⟨other, if_pos rfl, here rfl rfl⟩
    · exact ⟨pool, (if_neg same).trans there, .same⟩
  cases happens with
  | nothing | borrowed | spoiled => exact ⟨pool, there, .same⟩
  | took purpose elsewhere whole old connection taken left gained shut sent found provision =>
    refine put found ?_
    rintro rfl rfl
    exact .took purpose whole connection taken left gained shut sent rfl provision rfl
      (balances_of_took found provision)
  | upkept _ elsewhere old kept left gained shut sent handed lost found upkeep stale =>
    refine put found ?_
    rintro rfl rfl
    exact .upkept kept left gained shut sent handed lost upkeep stale rfl
      (balances_of_upkept found upkeep)
  | marked elsewhere healthy old found =>
    refine put found ?_
    rintro rfl rfl
    exact .marked healthy rfl
  | answered _ _ _ _ _ _ _ _ _ _ found | closed _ _ _ _ _ found =>
    refine put found ?_
    rintro rfl rfl
    exact .same
  | raised _ _ _ _ _ _ _ _ _ lost found =>
    refine put found ?_
    rintro rfl rfl
    exact .raised lost
  | kept number tenure _ found healthy =>
    refine put found ?_
    rintro rfl rfl
    exact .kept number tenure rfl rfl healthy

/-- No part of an operation that comes late. -/
def Moment.IsWhole : Moment → Prop
  | .turn _ => True
  | .take _ _ whole => whole = true
  | .mark _ _ => False

theorem Due.whole {tenures : List Tenure} {moment : Moment}
    (due : Due tenures moment operation) (whole : moment.IsWhole) : operation.isWhole = true := by
  cases due with
  | take => exact whole
  | mark => exact whole.elim
  | nothing | start | single | begin | within | finish | giveBack | borrow | spoil | ping
  | close => rfl

/-- Behind a loss the pool is marked. -/
theorem marked_of_lost (happens : Happens before operation after seen) {connection : Nat}
    (lost : .lost place connection ∈ seen) :
    ∃ pool, after.router.pool? place = some pool ∧ pool.healthy = false := by
  have put {old other : Pool} (found : before.router.pool? place = some old)
      (marked : other.healthy = false) :
      ∃ pool, (before.router.replace place other).pool? place = some pool ∧
        pool.healthy = false :=
    ⟨other, (Router.pool?_replace other found place).trans (if_pos rfl), marked⟩
  cases happens with
  | nothing | marked | kept | closed | spoiled => cases lost
  | answered | borrowed => cases List.mem_singleton.mp lost
  | took => simp at lost
  | upkept _ _ _ _ _ _ _ _ _ _ found upkeep =>
    obtain ⟨rfl, gone⟩ := Pool.lost_mem_witnessed.mp lost
    exact put found (upkeep.losing connection gone).1
  | raised _ _ _ _ _ _ _ _ _ loses found =>
    rcases mem_of_raised lost with ⟨_, _, clash⟩ | clash | ⟨rfl, same⟩
    · cases clash
    · cases clash
    · cases same
      exact put found (by simp)

end Querywright
