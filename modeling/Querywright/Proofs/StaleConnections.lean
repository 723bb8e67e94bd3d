import Querywright.Proofs.PoolCourses

/-! Idle connections of a pool that has lost one. They are closed before the pool gives any
connection away again, so nothing is ever seen of them any more. From the loss on every moment is a
whole operation of a pool, its place chosen whenever; a taking or a ping that came to its end late
would mark as healthy what was lost in between. -/
namespace Querywright

variable {σ : Type}

namespace Pool

/-- Taking a connection from a marked pool: all idle ones are closed, and the pool is healthy only
when a new one was opened at the address that its source gave now. -/
inductive Renewed (engine : Engine σ) (pool : Pool) (world : World σ) :
    Except Error Nat × Pool × World σ → Prop where
  | opened (url : String) (connection : Nat) (asked linked left : World σ)
      (resolved : pool.source.resolve engine (world.discard engine pool.idle) = (.ok url, asked))
      (connected : pool.dialect.connect engine url asked = (.ok (some connection), linked))
      (new : world.targets.length < connection)
      (closed : ∀ stale ∈ pool.idle, stale ∈ left.closed) :
      Renewed engine pool world (.ok connection,
        { pool with url := url, healthy := true, idle := [], used := true }, left)
  | refused (reason : Error) (url : String) (left : World σ)
      (closed : ∀ stale ∈ pool.idle, stale ∈ left.closed) :
      Renewed engine pool world (.error reason, { pool with url := url, idle := [] }, left)

theorem checkout_renewed (engine : Engine σ) (pool : Pool) (world : World σ)
    (marked : pool.healthy = false) : Renewed engine pool world (pool.checkout engine world) := by
  rw [checkout_marked engine pool world marked]
  unfold openConnection
  have dropping := World.discard_passes engine pool.idle world
  have asking := source_passes engine pool.source (world.discard engine pool.idle)
  dsimp only
  generalize resolved : pool.source.resolve engine (world.discard engine pool.idle) = resolving
    at asking ⊢
  obtain ⟨outcome, asked⟩ := resolving
  have reached : world.Passes asked 0 pool.idle [] := by simpa using dropping.trans asking
  cases outcome with
  | error reason => exact .refused reason pool.url asked fun _ => reached.closed_of_mem
  | ok url =>
    have opening := Dialect.connect_opens engine pool.dialect url asked
    dsimp only
    generalize connected : pool.dialect.connect engine url asked = connecting at opening ⊢
    cases opening with
    | opened linked sent linking first =>
      have whole : world.Passes linked 1 pool.idle sent := by simpa using reached.trans linking
      have logged := World.log_passes .information ("Opened connection to " ++ labelText
        { pool with url := url, idle := [] }) linked
      have new : world.targets.length < asked.targets.length + 1 := by
        rw [reached.targets]
        exact Nat.lt_succ_self _
      refine .opened url _ asked linked _ resolved connected new ?_
      intro stale member
      rw [logged.closings]
      exact whole.closed_of_mem member
    | failed result linked made sent absent linking first =>
      have whole : world.Passes linked made pool.idle sent := by simpa using reached.trans linking
      cases result with
      | error reason => exact .refused reason url linked fun _ => whole.closed_of_mem
      | ok connection =>
        cases connection with
        | none => exact .refused _ url linked fun _ => whole.closed_of_mem
        | some connection => exact absurd rfl (absent connection)

end Pool

/-- An idle connection of a marked pool, or one that nobody owns any more. -/
inductive Traffic.Stale (traffic : Traffic σ) (place : Place) (connection : Nat) : Prop where
  | retired (retired : traffic.Retired connection)
  | idle (pool : Pool) (there : traffic.router.pool? place = some pool)
      (marked : pool.healthy = false) (member : connection ∈ pool.idle)

section Steps

variable {before after : Traffic σ} {operation : Operation} {seen : List Occurrence}
  {moment : Moment} {place : Place} {connection : Nat}

theorem Traffic.Stale.out_of_reach (stale : before.Stale place connection)
    (sound : before.IsSound) : ¬ before.InReach connection := by
  intro reach
  cases stale with
  | retired retired =>
    rcases reach.new_or_owned with above | ⟨elsewhere, owned⟩
    · exact Nat.not_lt.mpr retired.known above
    · exact retired.unowned elsewhere owned
  | idle pool there marked member =>
    have idle : before.Owns .pool place connection := by
      show connection ∈ before.router.idleAt place
      rwa [Router.idleAt_of_pool? there]
    cases reach with
    | new above =>
      have known := sound.numbered _ (Traffic.owned_of_owns idle)
      exact Nat.not_lt.mpr known above
    | held number tenure enrolled lasting same =>
      have held : before.Owns (.tenure number) tenure.place connection :=
        ⟨tenure, enrolled, lasting, rfl, same⟩
      cases (sound.one_owner idle held).1
    | idle elsewhere other found healthy present =>
      have another : before.Owns .pool elsewhere connection := by
        show connection ∈ before.router.idleAt elsewhere
        rwa [Router.idleAt_of_pool? found]
      have same := (sound.one_owner idle another).2
      subst same
      rw [there] at found
      cases found
      rw [marked] at healthy
      cases healthy

/-- A stale connection stays where it is, under the mark of its pool, until it is closed. -/
theorem stale_of_happens (sound : before.IsSound) (due : Due before.tenures moment operation)
    (happens : Happens before operation after seen) (whole : operation.isWhole = true)
    (stale : before.Stale place connection) : after.Stale place connection := by
  cases stale with
  | retired retired =>
    obtain ⟨gained, shut, balances⟩ := balances_of_happens due happens
    exact .retired (balances.shifts.retired retired)
  | idle pool there marked member =>
    obtain ⟨next, found, course⟩ := course_of_happens happens there
    cases course with
    | same => exact .idle pool found marked member
    | took purpose entire _ _ _ _ shut _ own provision _ balances =>
      subst own
      have dropped : connection ∈ shut := by rwa [provision.stale whole marked]
      exact .retired (balances.shifts.retired_of_shut sound
        (List.mem_map.mpr ⟨connection, dropped, rfl⟩))
    | upkept _ _ _ shut _ _ _ _ drops _ balances =>
      have dropped : connection ∈ shut := drops whole marked connection member
      exact .retired (balances.shifts.retired_of_shut sound
        (List.mem_map.mpr ⟨connection, dropped, rfl⟩))
    | marked _ own =>
      subst own
      cases whole
    | raised lost => exact .idle _ found (by simp [marked]) member
    | kept _ _ _ _ healthy =>
      rw [marked] at healthy
      cases healthy

/-- What was idle before the pool was marked is stale behind it. -/
theorem stale_of_marked (sound : before.IsSound) (happens : Happens before operation after seen)
    (whole : operation.isWhole = true) {next : Pool}
    (found : after.router.pool? place = some next) (marked : next.healthy = false)
    (idle : connection ∈ before.router.idleAt place) : after.Stale place connection := by
  cases there : before.router.pool? place with
  | none => simp [Router.idleAt, there] at idle
  | some pool =>
    rw [Router.idleAt_of_pool? there] at idle
    obtain ⟨other, same, course⟩ := course_of_happens happens there
    rw [found] at same
    cases same
    cases course with
    | same => exact .idle _ found marked idle
    | took _ _ _ _ _ _ _ _ _ provision =>
      rw [provision.healthy] at marked
      cases marked
    | upkept _ _ _ shut _ _ _ upkeep _ _ balances =>
      have origin := upkeep.balance.symm.subset (List.mem_append_left _ idle)
      rcases List.mem_append.mp origin with kept | closed
      · exact .idle _ found marked kept
      · exact .retired (balances.shifts.retired_of_shut sound
          (List.mem_map.mpr ⟨connection, closed, rfl⟩))
    | marked _ own =>
      subst own
      cases whole
    | raised => exact .idle _ found marked idle
    | kept => exact .idle _ found marked (List.mem_append_left _ idle)

/-- Nothing is added to what is idle while the pool stays marked. -/
theorem shrinks_of_happens (happens : Happens before operation after seen)
    {pool next : Pool} (there : before.router.pool? place = some pool)
    (found : after.router.pool? place = some next) (marked : pool.healthy = false)
    (still : next.healthy = false) : next.idle.Sublist pool.idle := by
  obtain ⟨other, same, course⟩ := course_of_happens happens there
  rw [found] at same
  cases same
  cases course with
  | same => exact List.Sublist.refl _
  | took _ _ _ _ _ _ _ _ _ provision =>
    rw [provision.healthy] at still
    cases still
  | upkept _ _ _ _ _ _ _ upkeep => exact upkeep.shrinking still
  | marked | raised => exact List.Sublist.refl _
  | kept _ _ _ _ healthy =>
    rw [marked] at healthy
    cases healthy

end Steps

namespace Traffic

variable {traffic : Traffic σ} {place : Place} {connection : Nat}

theorem Stale.passedOn {router : Router} (stale : traffic.Stale place connection)
    (same : traffic.router.SamePools router) : (traffic.passedOn router).Stale place connection := by
  cases stale with
  | retired retired => exact .retired (retired.passedOn same)
  | idle pool there marked member =>
    exact .idle pool ((same.pool? place).trans there) marked member

/-- Nothing is seen any more of a stale connection. -/
theorem Stale.unseen (engine : Engine σ) (stale : traffic.Stale place connection)
    (sound : traffic.IsSound) (moments : List Moment)
    (whole : ∀ moment ∈ moments, moment.IsWhole) :
    ∀ occurrence ∈ occurrences engine moments traffic, occurrence.connection ≠ connection := by
  induction moments generalizing traffic with
  | nil => simp [occurrences]
  | cons moment rest ih =>
    obtain ⟨operation, router, same, due, happens⟩ := moment.course engine traffic
    have entire := due.whole (whole moment List.mem_cons_self)
    have passed := stale.passedOn same
    have passedSound := sound.passedOn same
    intro occurrence member
    rcases List.mem_append.mp member with now | later
    · intro mine
      have reach := reach_of_happens due happens occurrence now
      rw [mine] at reach
      exact passed.out_of_reach passedSound reach
    · exact ih (stale_of_happens passedSound due happens entire passed)
        (moment_sound engine _ sound)
        (fun other member => whole other (List.mem_cons_of_mem _ member)) occurrence later

end Traffic

/-- A database that loses the connection of one statement. -/
def Rehearsal.losing : Traffic Rehearsal :=
  traffic "sqlite:///a.db" .sqlite
    { rules := [{ part := "SELECT 2", times := some 1,
                  outcome := .error ⟨.sqliteProgramming, [.text "Cannot operate on a closed database."]⟩ }] }

/-- Two statements at a time, of which the second is through. -/
def pairedStatements : List Moment :=
  [.turn (.start (.single (.text "SELECT 2") (.tuple []))),
    .turn (.start (.single (.text "SELECT 3") (.tuple []))), .turn (.advance 1), .turn (.advance 1)]

def Rehearsal.paired : Traffic Rehearsal :=
  Traffic.run engine pairedStatements ⟨losing.router, losing.world, []⟩

def Rehearsal.pairedLoss : List Occurrence :=
  (Moment.turn (.advance 0)).occurrences engine paired

end Querywright
