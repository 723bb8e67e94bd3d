import Querywright.Proofs.StaleConnections

/-! Lost connections that somebody still holds. The mark is one for the whole pool, so a lost
connection is closed when it is given back as long as the mark stands. Another connection that is
opened in between takes it away, and the lost one is kept with the others. -/
namespace Querywright

variable {σ : Type}

/-- A lost connection that will not come back: it is closed, or held while its pool is marked. -/
inductive Traffic.Lost (traffic : Traffic σ) (place : Place) (connection : Nat) : Prop where
  | dropped (retired : traffic.Retired connection) (closed : connection ∈ traffic.world.closed)
  | held (number : Nat) (tenure : Tenure) (pool : Pool)
      (enrolled : traffic.tenures[number]? = some tenure) (lasting : tenure.stage ≠ .past)
      (placed : tenure.place = place) (mine : tenure.connection = connection)
      (there : traffic.router.pool? place = some pool) (marked : pool.healthy = false)

section Steps

variable {before after : Traffic σ} {operation : Operation} {seen : List Occurrence}
  {moment : Moment} {place : Place} {pool : Pool} {connection : Nat}

theorem closed_of_happens (happens : Happens before operation after seen)
    (closed : connection ∈ before.world.closed) : connection ∈ after.world.closed := by
  cases happens with
  | nothing | marked | kept => exact closed
  | took _ _ _ _ _ _ _ _ _ _ _ provision => exact provision.passage.still_closed closed
  | upkept _ _ _ _ _ _ _ _ _ _ _ upkeep =>
    obtain ⟨made, -, passage⟩ := upkeep.passage
    exact passage.still_closed closed
  | answered _ _ _ _ _ _ _ _ _ _ _ _ passage | raised _ _ _ _ _ _ _ _ _ _ _ _ passage
  | closed _ _ _ _ _ _ _ passage | borrowed _ _ _ _ _ passage | spoiled _ _ passage =>
    exact passage.still_closed closed

/-- A connection is lost by a ping, which closes it, or by somebody who goes on holding it. -/
theorem lost_of_happens (sound : before.IsSound) (due : Due before.tenures moment operation)
    (happens : Happens before operation after seen) (lost : .lost place connection ∈ seen) :
    after.Lost place connection := by
  obtain ⟨next, found, marked⟩ := marked_of_lost happens lost
  cases happens with
  | nothing | marked | kept | closed | spoiled => cases lost
  | answered | borrowed => cases List.mem_singleton.mp lost
  | took => simp at lost
  | upkept _ elsewhere pool kept left gained shut sent handed gone there upkeep =>
    have balances : Balances before operation (before.put elsewhere kept left)
        (Pool.witnessed elsewhere gained sent handed gone) (gained.map (Prod.mk elsewhere))
        (shut.map (Prod.mk elsewhere)) := balances_of_upkept there upkeep
    obtain ⟨rfl, member⟩ := Pool.lost_mem_witnessed.mp lost
    have closed := (upkeep.losing connection member).2.1
    obtain ⟨made, -, passage⟩ := upkeep.passage
    exact .dropped (balances.shifts.retired_of_shut sound
      (List.mem_map.mpr ⟨connection, closed, rfl⟩)) (passage.closed_of_mem closed)
  | raised number tenure _ _ _ failed pool left sent lost there =>
    rcases mem_of_raised lost with ⟨_, _, clash⟩ | clash | ⟨-, same⟩
    · cases clash
    · cases clash
    · cases same
      obtain ⟨enrolled, -, -, lasting⟩ := due.enrolled_of_run
      refine .held number { tenure with stage := failed } next ?_ lasting rfl rfl found marked
      rw [Traffic.settle_getElem?, if_pos rfl, Traffic.put_tenures, enrolled]
      rfl

/-- A pool stays marked as long as no connection is opened for it and no mark comes late. -/
theorem PoolCourse.still_marked {next : Pool}
    (course : PoolCourse before operation after seen place pool next)
    (unopened : ∀ other, .opened place other ∉ seen) (timely : operation ≠ .mark place true)
    (marked : pool.healthy = false) : next.healthy = false := by
  have nothing {gained handed gone : List Nat} {sent : List (Nat × Value)}
      (noticed : seen = Pool.witnessed place gained sent handed gone) : gained = [] := by
    apply List.eq_nil_iff_forall_not_mem.mpr
    intro other member
    apply unopened other
    rw [noticed]
    exact Pool.opened_mem_witnessed.mpr ⟨rfl, member⟩
  cases course with
  | same => exact marked
  | took _ _ _ _ _ _ _ _ _ provision noticed =>
    rcases provision.handing with new | ⟨healthy, -⟩
    · rw [nothing noticed] at new
      cases new
    · rw [marked] at healthy
      cases healthy
  | upkept _ _ _ _ _ _ _ upkeep _ noticed =>
    cases healthy : next.healthy with
    | false => rfl
    | true =>
      rcases upkeep.renewal healthy with earlier | gained
      · rw [marked] at earlier
        cases earlier
      · exact absurd (nothing noticed) gained
  | marked healthy own =>
    cases healthy with
    | false => rfl
    | true => exact absurd own timely
  | raised => simp [marked]
  | kept _ _ _ _ healthy =>
    rw [marked] at healthy
    cases healthy

theorem Traffic.Lost.of_happens (sound : before.IsSound)
    (due : Due before.tenures moment operation)
    (happens : Happens before operation after seen)
    (unopened : ∀ other, .opened place other ∉ seen) (timely : operation ≠ .mark place true)
    (lost : before.Lost place connection) : after.Lost place connection := by
  cases lost with
  | dropped retired closed =>
    obtain ⟨gained, shut, balances⟩ := balances_of_happens due happens
    exact .dropped (balances.shifts.retired retired) (closed_of_happens happens closed)
  | held number tenure pool enrolled lasting placed mine there marked =>
    obtain ⟨next, found, course⟩ := course_of_happens happens there
    have still := course.still_marked unopened timely marked
    have outlives := tenure_of_happens happens enrolled
    generalize behind : after.tenures[number]? = outcome at outlives
    cases outlives with
    | same => exact .held number tenure next behind lasting placed mine found still
    | answered _ _ _ stage _ own =>
      subst own
      obtain ⟨-, -, lasting, -⟩ := due.enrolled_of_run
      exact .held number _ next behind lasting placed mine found still
    | failed _ _ _ _ stage own =>
      subst own
      obtain ⟨-, -, -, lasting⟩ := due.enrolled_of_run
      exact .held number _ next behind lasting placed mine found still
    | past _ _ own =>
      subst own
      subst placed mine
      obtain ⟨retired, closed⟩ := retired_of_giveBack sound due happens enrolled behind
        (.inr ⟨pool, there, marked⟩)
      exact .dropped retired closed

/-- What is handed out is new or was idle. -/
theorem handed_of_happens (happens : Happens before operation after seen)
    (handed : .handedOut place connection ∈ seen) :
    before.world.targets.length < connection ∨ connection ∈ before.router.idleAt place := by
  have origin {pool : Pool} {gained : List Nat} (there : before.router.pool? place = some pool)
      (newcomers : gained = [] ∨ gained = [before.world.targets.length + 1])
      (handing : connection ∈ gained ∨ pool.healthy = true ∧ connection ∈ pool.idle) :
      before.world.targets.length < connection ∨ connection ∈ before.router.idleAt place := by
    rcases handing with new | ⟨-, idle⟩
    · rcases newcomers with none | one
      · simp [none] at new
      · rw [one] at new
        rw [List.mem_singleton.mp new]
        exact .inl (Nat.lt_succ_self _)
    · rw [Router.idleAt_of_pool? there]
      exact .inr idle
  cases happens with
  | nothing | marked | kept | closed | spoiled => cases handed
  | answered | borrowed => cases List.mem_singleton.mp handed
  | took _ _ _ _ _ _ _ _ _ _ there provision =>
    obtain ⟨rfl, one⟩ := Pool.handedOut_mem_witnessed.mp handed
    cases List.mem_singleton.mp one
    exact origin there provision.newcomers provision.handing
  | upkept _ _ _ _ _ _ _ _ _ _ there upkeep =>
    obtain ⟨rfl, present⟩ := Pool.handedOut_mem_witnessed.mp handed
    exact origin there upkeep.newcomers (upkeep.handing connection present)
  | raised =>
    rcases mem_of_raised handed with ⟨_, _, clash⟩ | clash | ⟨-, clash⟩ <;> cases clash

end Steps

namespace Traffic

variable {traffic : Traffic σ} {place : Place} {connection : Nat}

theorem Lost.passedOn {router : Router} (lost : traffic.Lost place connection)
    (same : traffic.router.SamePools router) : (traffic.passedOn router).Lost place connection := by
  cases lost with
  | dropped retired closed => exact .dropped (retired.passedOn same) closed
  | held number tenure pool enrolled lasting placed mine there marked =>
    exact .held number tenure pool enrolled lasting placed mine ((same.pool? place).trans there)
      marked

/-- Lost connections have been opened, and no pool has them idle. -/
theorem Lost.known (lost : traffic.Lost place connection) (sound : traffic.IsSound) :
    connection ≤ traffic.world.targets.length ∧
      ∀ elsewhere, connection ∉ traffic.router.idleAt elsewhere := by
  cases lost with
  | dropped retired closed =>
    refine ⟨retired.known, ?_⟩
    intro elsewhere idle
    exact retired.unowned elsewhere (List.mem_append_left _ (Router.mem_idle.mpr idle))
  | held number tenure pool enrolled lasting placed mine there marked =>
    have owns : traffic.Owns (.tenure number) place connection :=
      ⟨tenure, enrolled, lasting, placed, mine⟩
    refine ⟨sound.numbered _ (owned_of_owns owns), ?_⟩
    intro elsewhere idle
    have other : traffic.Owns .pool elsewhere connection := idle
    cases (sound.one_owner other owns).1

/-- As long as the mark stands, a lost connection stays lost and is not handed out. -/
theorem Lost.run (engine : Engine σ) (moments : List Moment) (sound : traffic.IsSound)
    (unopened : ∀ other, .opened place other ∉ occurrences engine moments traffic)
    (timely : ∀ moment ∈ moments, moment ≠ .mark place true)
    (lost : traffic.Lost place connection) :
    (run engine moments traffic).Lost place connection ∧
      ∀ elsewhere, .handedOut elsewhere connection ∉ occurrences engine moments traffic := by
  induction moments generalizing traffic with
  | nil => exact ⟨lost, fun _ => List.not_mem_nil⟩
  | cons moment rest ih =>
    obtain ⟨operation, router, same, due, happens⟩ := moment.course engine traffic
    have passed := lost.passedOn same
    have passedSound := sound.passedOn same
    have early : ∀ other, .opened place other ∉ moment.occurrences engine traffic :=
      fun other member => unopened other (List.mem_append_left _ member)
    have late : operation ≠ .mark place true := by
      rintro rfl
      cases due with
      | mark => exact timely _ List.mem_cons_self rfl
    obtain ⟨still, withheld⟩ := ih (moment_sound engine moment sound)
      (fun other member => unopened other (List.mem_append_right _ member))
      (fun other member => timely other (List.mem_cons_of_mem _ member))
      (passed.of_happens passedSound due happens early late)
    refine ⟨still, ?_⟩
    intro elsewhere member
    rcases List.mem_append.mp member with now | later
    · obtain ⟨known, absent⟩ := passed.known passedSound
      rcases handed_of_happens happens now with above | idle
      · exact Nat.not_lt.mpr known above
      · exact absent elsewhere idle
    · exact withheld elsewhere later

end Traffic

/-- Behind a loss, for as long as no other connection is opened for the pool and no mark comes late,
the lost connection is not idle and not handed out: somebody holds it who had it before, or it is
closed and nothing is seen of it any more. -/
theorem lost_connection_dropped (engine : Engine σ) (router : Router) (world : World σ)
    (moments : List Moment) (moment : Moment) (empty : ∀ place, router.idleAt place = [])
    (place : Place) (connection : Nat)
    (lost : .lost place connection ∈
      moment.occurrences engine (Traffic.run engine moments ⟨router, world, []⟩))
    (later : List Moment) (timely : ∀ moment ∈ later, moment ≠ .mark place true)
    (unopened : ∀ other, .opened place other ∉ Traffic.occurrences engine later
      (moment.perform engine (Traffic.run engine moments ⟨router, world, []⟩)).2) :
    let left := (moment.perform engine (Traffic.run engine moments ⟨router, world, []⟩)).2
    let reached := Traffic.run engine later left
    (∀ elsewhere, connection ∉ reached.router.idleAt elsewhere) ∧
      (∀ elsewhere, .handedOut elsewhere connection ∉ Traffic.occurrences engine later left) ∧
      ((∃ number, reached.Owns (.tenure number) place connection) ∨
        connection ∈ reached.world.closed ∧
          ∀ further, ∀ occurrence ∈ Traffic.occurrences engine further reached,
            occurrence.connection ≠ connection) := by
  intro left reached
  have sound : (Traffic.run engine moments ⟨router, world, []⟩).IsSound :=
    Traffic.run_sound engine moments (Traffic.start_sound world empty)
  have leftSound : left.IsSound := Traffic.moment_sound engine moment sound
  have reachedSound : reached.IsSound := Traffic.run_sound engine later leftSound
  obtain ⟨operation, passed, same, due, happens⟩ :=
    moment.course engine (Traffic.run engine moments ⟨router, world, []⟩)
  have losing : left.Lost place connection :=
    lost_of_happens (sound.passedOn same) due happens lost
  obtain ⟨still, withheld⟩ := losing.run engine later leftSound unopened timely
  refine ⟨(still.known reachedSound).2, withheld, ?_⟩
  cases still with
  | dropped retired closed => exact .inr ⟨closed, fun further => retired.unseen engine further⟩
  | held number tenure pool enrolled lasting placed mine =>
    exact .inl ⟨number, tenure, enrolled, lasting, placed, mine⟩

/-- A transaction that loses its connection. -/
def begunTransaction : List Moment :=
  [.turn (.ping ⟨.primary, 0⟩), .turn (.start .transaction), .turn (.advance 0)]

def losingStatement : Moment :=
  .turn (.within 0 (.text "SELECT 2") (.tuple []))

def rolledBack : List Moment :=
  [.turn (.finish 0 .rollback), .turn (.advance 0)]

/-- Somebody else, for whom another connection is opened. -/
def otherStatement : List Moment :=
  [.turn (.start (.single (.text "SELECT 3") (.tuple []))), .turn (.advance 1), .turn (.advance 1)]

namespace Rehearsal

def begun : Traffic Rehearsal :=
  Traffic.run engine begunTransaction ⟨losing.router, losing.world, []⟩

def bereft : Traffic Rehearsal :=
  (losingStatement.perform engine begun).2

def bereftSeen : List Occurrence :=
  losingStatement.occurrences engine begun

def released : Traffic Rehearsal :=
  Traffic.run engine rolledBack bereft

def releasedSeen : List Occurrence :=
  Traffic.occurrences engine rolledBack bereft

/-- The lost connection, back among the idle ones. -/
def revived : Traffic Rehearsal :=
  Traffic.run engine (otherStatement ++ rolledBack) bereft

def revivedSeen : List Occurrence :=
  Traffic.occurrences engine
    [.turn (.start (.single (.text "SELECT 4") (.tuple []))), .turn (.advance 2)] revived

end Rehearsal

open Rehearsal in
theorem begun_loses : bereftSeen = [.sent (some 0) 1 (.text "SELECT 2"),
    .raised 0 1 (.text "SELECT 2"), .lost ⟨.primary, 0⟩ 1] := by
  cbv

open Rehearsal in
theorem rolledBack_dropped :
    (∀ place, losing.router.idleAt place = []) ∧ .lost ⟨.primary, 0⟩ 1 ∈ bereftSeen ∧
      (∀ moment ∈ rolledBack, moment ≠ .mark ⟨.primary, 0⟩ true) ∧
      (∀ other, .opened ⟨.primary, 0⟩ other ∉ releasedSeen) ∧
      released.world.closed = [1] ∧ (∀ elsewhere, 1 ∉ released.router.idleAt elsewhere) ∧
      (∀ elsewhere, .handedOut elsewhere 1 ∉ releasedSeen) ∧
      ((∃ number, released.Owns (.tenure number) ⟨.primary, 0⟩ 1) ∨
        1 ∈ released.world.closed ∧
          ∀ further, ∀ occurrence ∈ Traffic.occurrences engine further released,
            occurrence.connection ≠ 1) := by
  have empty : ∀ place, losing.router.idleAt place = [] :=
    traffic_empty "sqlite:///a.db" .sqlite _
  have lost : .lost ⟨.primary, 0⟩ 1 ∈ bereftSeen := by
    rw [begun_loses]
    simp
  have timely : ∀ moment ∈ rolledBack, moment ≠ .mark ⟨.primary, 0⟩ true := by
    simp [rolledBack]
  have seen : releasedSeen = [.sent (some 0) 1 (.text "ROLLBACK")] := by cbv
  have unopened : ∀ other, .opened ⟨.primary, 0⟩ other ∉ releasedSeen := by
    rw [seen]
    simp
  have closed : released.world.closed = [1] := by cbv
  obtain ⟨absent, withheld, fate⟩ := lost_connection_dropped engine losing.router losing.world
    begunTransaction losingStatement empty ⟨.primary, 0⟩ 1 lost rolledBack timely unopened
  exact ⟨empty, lost, timely, unopened, closed, absent, withheld, fate⟩

open Rehearsal in
/-- A connection that was lost is idle again, and the next statement is sent on it. -/
theorem lost_connection_returns :
    bereftSeen = [.sent (some 0) 1 (.text "SELECT 2"), .raised 0 1 (.text "SELECT 2"),
        .lost ⟨.primary, 0⟩ 1] ∧
      revived.router.idleAt ⟨.primary, 0⟩ = [2, 1] ∧
      revivedSeen = [.handedOut ⟨.primary, 0⟩ 1, .sent (some 2) 1 (.text "SELECT 4")] := by
  refine ⟨begun_loses, ?_, ?_⟩
  · cbv
  · cbv

end Querywright
