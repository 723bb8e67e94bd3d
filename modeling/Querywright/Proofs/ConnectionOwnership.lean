import Querywright.Proofs.OwnedConnections
import Querywright.Rehearsal
import Mathlib

/-! Every connection has one owner at most. From a router whose pools are empty, whatever its callers
do and however their moments lie between each other, an open connection belongs to one pool or to
one tenure, and one that is closed belongs to nobody and is never touched again. -/
namespace Querywright

variable {σ : Type}

namespace Traffic

/-- Each connection stands once among the owned ones, and each of them has been opened. -/
structure IsSound (traffic : Traffic σ) : Prop where
  exclusive : (traffic.owned.map Prod.snd).Nodup
  numbered : ∀ entry ∈ traffic.owned, entry.2 ≤ traffic.world.targets.length

/-- A connection that has been opened and that nobody owns any more. -/
structure Retired (connection : Nat) (traffic : Traffic σ) : Prop where
  known : connection ≤ traffic.world.targets.length
  unowned : ∀ place, (place, connection) ∉ traffic.owned

variable {traffic before after : Traffic σ} {gained shut : List (Place × Nat)}

theorem IsSound.same_place (sound : traffic.IsSound) {place other : Place} {connection : Nat}
    (here : (place, connection) ∈ traffic.owned) (there : (other, connection) ∈ traffic.owned) :
    place = other :=
  congrArg Prod.fst (List.inj_on_of_nodup_map sound.exclusive here there rfl)

/-- What is owned behind a part of a run and what was closed in it are different connections. -/
theorem Shifts.exclusive (shifts : before.Shifts after gained shut) (sound : before.IsSound) :
    ((after.owned ++ shut).map Prod.snd).Nodup := by
  have moved := shifts.owned.map Prod.snd
  refine moved.nodup_iff.mpr ?_
  rw [List.map_append]
  refine sound.exclusive.append shifts.distinct ?_
  intro connection old new
  obtain ⟨early, earlyMember, rfl⟩ := List.mem_map.mp old
  obtain ⟨late, lateMember, same⟩ := List.mem_map.mp new
  have below := sound.numbered early earlyMember
  have above := shifts.fresh late lateMember
  omega

theorem Shifts.origin (shifts : before.Shifts after gained shut) {entry : Place × Nat}
    (member : entry ∈ after.owned ∨ entry ∈ shut) : entry ∈ before.owned ∨ entry ∈ gained :=
  List.mem_append.mp (shifts.owned.mem_iff.mp (List.mem_append.mpr member))

theorem Shifts.bound (shifts : before.Shifts after gained shut) (sound : before.IsSound)
    {entry : Place × Nat} (member : entry ∈ after.owned ∨ entry ∈ shut) :
    entry.2 ≤ after.world.targets.length := by
  have growth := shifts.growth
  rcases shifts.origin member with old | new
  · have bound := sound.numbered entry old
    omega
  · exact (shifts.fresh entry new).2

theorem Shifts.sound (shifts : before.Shifts after gained shut) (sound : before.IsSound) :
    after.IsSound := by
  constructor
  case exclusive =>
    have distinct := shifts.exclusive sound
    rw [List.map_append] at distinct
    exact distinct.of_append_left
  case numbered =>
    intro entry member
    exact shifts.bound sound (.inl member)

theorem Shifts.retired (shifts : before.Shifts after gained shut) {connection : Nat}
    (retired : before.Retired connection) : after.Retired connection := by
  refine ⟨retired.known.trans shifts.growth, ?_⟩
  intro place member
  rcases shifts.origin (.inl member) with old | new
  · exact retired.unowned place old
  · have above := (shifts.fresh _ new).1
    have known := retired.known
    dsimp only at above
    omega

theorem Shifts.retired_of_shut (shifts : before.Shifts after gained shut)
    (sound : before.IsSound) {place : Place} {connection : Nat}
    (closed : (place, connection) ∈ shut) : after.Retired connection := by
  refine ⟨shifts.bound sound (.inr closed), ?_⟩
  intro other member
  have distinct := shifts.exclusive sound
  rw [List.map_append] at distinct
  exact List.disjoint_of_nodup_append distinct (List.mem_map.mpr ⟨_, member, rfl⟩)
    (List.mem_map.mpr ⟨_, closed, rfl⟩)

theorem IsSound.passedOn {router : Router} (sound : traffic.IsSound)
    (same : traffic.router.SamePools router) : (traffic.passedOn router).IsSound := by
  have owned := samePools_owned traffic same
  exact ⟨owned ▸ sound.exclusive, owned ▸ sound.numbered⟩

theorem Retired.passedOn {router : Router} {connection : Nat} (retired : traffic.Retired connection)
    (same : traffic.router.SamePools router) : (traffic.passedOn router).Retired connection := by
  refine ⟨retired.known, ?_⟩
  rw [samePools_owned traffic same]
  exact retired.unowned

theorem moment_sound (engine : Engine σ) (moment : Moment) (sound : traffic.IsSound) :
    (moment.perform engine traffic).2.IsSound := by
  obtain ⟨gained, shut, shifts, -⟩ := moment_shifts engine moment traffic
  exact shifts.sound sound

theorem run_sound (engine : Engine σ) (moments : List Moment) (sound : traffic.IsSound) :
    (run engine moments traffic).IsSound := by
  obtain ⟨gained, shut, shifts, -⟩ := run_shifts engine moments traffic
  exact shifts.sound sound

/-- A router without idle connections and without callers. -/
theorem owned_start {router : Router} (world : World σ)
    (fresh : ∀ place, router.idleAt place = []) : owned ⟨router, world, []⟩ = [] := by
  have idle : router.idle = [] := by
    apply List.eq_nil_iff_forall_not_mem.mpr
    rintro ⟨place, connection⟩ member
    have inside := Router.mem_idle.mp member
    rw [fresh place] at inside
    cases inside
  unfold owned
  rw [idle]
  rfl

theorem start_sound {router : Router} (world : World σ)
    (fresh : ∀ place, router.idleAt place = []) : IsSound ⟨router, world, []⟩ := by
  constructor
  case exclusive =>
    rw [owned_start world fresh]
    exact List.nodup_nil
  case numbered =>
    rw [owned_start world fresh]
    simp

/-- Connections that something can be done with: new ones, those of tenures, and idle ones of healthy
pools. -/
inductive InReach (traffic : Traffic σ) (connection : Nat) : Prop where
  | new (above : traffic.world.targets.length < connection)
  | held (number : Nat) (tenure : Tenure) (enrolled : traffic.tenures[number]? = some tenure)
      (lasting : tenure.stage ≠ .past) (same : tenure.connection = connection)
  | idle (place : Place) (pool : Pool) (there : traffic.router.pool? place = some pool)
      (healthy : pool.healthy = true) (member : connection ∈ pool.idle)

end Traffic

def Occurrence.connection : Occurrence → Nat
  | .opened _ connection | .handedOut _ connection | .sent _ connection _
  | .raised _ connection _ | .lost _ connection => connection

section Reach

variable {before after : Traffic σ} {operation : Operation} {seen : List Occurrence}

/-- What a pool does by itself concerns new connections and idle ones that may be handed out. -/
theorem reach_of_witnessed {place : Place} {pool : Pool} {gained handed lost : List Nat}
    {sent : List (Nat × Value)} (there : before.router.pool? place = some pool)
    (newcomers : gained = [] ∨ gained = [before.world.targets.length + 1])
    (addressed : ∀ sending ∈ sent, before.world.targets.length < sending.1 ∨
      pool.healthy = true ∧ sending.1 ∈ pool.idle)
    (handing : ∀ connection ∈ handed,
      connection ∈ gained ∨ pool.healthy = true ∧ connection ∈ pool.idle)
    (losing : ∀ connection ∈ lost, connection ∈ handed) :
    ∀ occurrence ∈ Pool.witnessed place gained sent handed lost,
      before.InReach occurrence.connection := by
  have newcomer (connection : Nat) (member : connection ∈ gained) : before.InReach connection := by
    rcases newcomers with none | one
    · simp [none] at member
    · rw [one] at member
      rw [List.mem_singleton.mp member]
      exact .new (Nat.lt_succ_self _)
  have customer (connection : Nat) (member : connection ∈ handed) : before.InReach connection := by
    rcases handing connection member with new | ⟨healthy, idle⟩
    · exact newcomer connection new
    · exact .idle place pool there healthy idle
  intro occurrence member
  simp only [Pool.witnessed, List.mem_append, List.mem_map] at member
  rcases member with ⟨sending, present, rfl⟩ | (⟨connection, present, rfl⟩ |
    ⟨connection, present, rfl⟩) | ⟨connection, present, rfl⟩
  · rcases addressed sending present with above | ⟨healthy, idle⟩
    · exact .new above
    · exact .idle place pool there healthy idle
  · exact newcomer connection present
  · exact customer connection present
  · exact customer connection (losing connection present)

theorem reach_of_happens {moment : Moment} (due : Due before.tenures moment operation)
    (happens : Happens before operation after seen) :
    ∀ occurrence ∈ seen, before.InReach occurrence.connection := by
  cases happens with
  | nothing | marked | kept | closed | spoiled =>
    intro occurrence member
    cases member
  | took purpose place whole pool connection taken left gained shut sent there provision =>
    apply reach_of_witnessed there provision.newcomers
    · intro sending member
      exact .inl (provision.first sending member).1
    · simpa using provision.handing
    · simp
  | upkept _ place pool _ left gained shut sent handed lost there upkeep =>
    apply reach_of_witnessed there upkeep.newcomers
    · intro sending member
      rcases upkeep.addressed sending member with ⟨above, -⟩ | idle
      · exact .inl above
      · exact .inr idle
    · exact upkeep.handing
    · intro connection member
      exact (upkeep.losing connection member).2.2
  | answered number tenure =>
    obtain ⟨enrolled, lasting, -⟩ := due.enrolled_of_run
    intro occurrence member
    rw [List.mem_singleton.mp member]
    exact .held number tenure enrolled lasting rfl
  | raised number tenure statement _ _ _ _ _ sent lost _ handed =>
    obtain ⟨enrolled, lasting, -⟩ := due.enrolled_of_run
    have mine : before.InReach tenure.connection := .held number tenure enrolled lasting rfl
    intro occurrence member
    rcases mem_of_raised member with ⟨sending, present, rfl⟩ | rfl | ⟨_, rfl⟩
    · rcases handed with none | ⟨_, _, _, one⟩
      · simp [none] at present
      · rw [one] at present
        rw [List.mem_singleton.mp present]
        exact mine
    · exact mine
    · exact mine
  | borrowed number tenure =>
    cases due with
    | borrow _ _ _ _ enrolled writes purpose stage =>
      intro occurrence member
      rw [List.mem_singleton.mp member]
      exact .held number tenure enrolled (by simp [stage]) rfl

/-- Who gives a connection back that is to be closed gives it up for good. -/
theorem retired_of_giveBack {moment : Moment} {number : Nat} {tenure mine : Tenure}
    {discarded : Bool} (sound : before.IsSound)
    (due : Due before.tenures moment (.giveBack number mine discarded))
    (happens : Happens before (.giveBack number mine discarded) after seen)
    (enrolled : before.tenures[number]? = some tenure)
    (past : after.tenures[number]? = some { tenure with stage := .past })
    (closes : discarded = true ∨
      ∃ pool, before.router.pool? tenure.place = some pool ∧ pool.healthy = false) :
    after.Retired tenure.connection ∧ tenure.connection ∈ after.world.closed := by
  obtain ⟨same, lasting⟩ := due.enrolled_of_giveBack
  rw [enrolled] at same
  cases same
  cases happens with
  | nothing | upkept =>
    have clash : before.tenures[number]? = _ := past
    rw [enrolled] at clash
    exact absurd (congrArg Tenure.stage (Option.some.inj clash)) lasting
  | kept _ _ pool there healthy =>
    rcases closes with closing | ⟨other, found, marked⟩
    · cases closing
    · rw [there] at found
      cases found
      rw [healthy] at marked
      cases marked
  | closed _ _ _ pool left there _ passage =>
    have balances : Balances before (.giveBack number tenure discarded)
        ((before.put tenure.place pool left).settle number .past) [] []
        [(tenure.place, tenure.connection)] :=
      balances_of_closed enrolled lasting there passage
    constructor
    · exact balances.shifts.retired_of_shut sound (List.mem_singleton.mpr rfl)
    · show tenure.connection ∈ left.closed
      exact passage.closed_of_mem (List.mem_singleton.mpr rfl)

end Reach

namespace Traffic

variable {traffic : Traffic σ}

theorem InReach.new_or_owned {connection : Nat} (reach : traffic.InReach connection) :
    traffic.world.targets.length < connection ∨ ∃ place, (place, connection) ∈ traffic.owned := by
  cases reach with
  | new above => exact .inl above
  | held number tenure enrolled lasting same =>
    have member := mem_held enrolled lasting rfl same
    exact .inr ⟨tenure.place, List.mem_append_right _ member⟩
  | idle place pool there healthy member =>
    have inside : connection ∈ traffic.router.idleAt place := by
      rwa [Router.idleAt_of_pool? there]
    exact .inr ⟨place, List.mem_append_left _ (Router.mem_idle.mpr inside)⟩

theorem InReach.passedOn {router : Router} {connection : Nat}
    (same : traffic.router.SamePools router)
    (reach : (traffic.passedOn router).InReach connection) : traffic.InReach connection := by
  cases reach with
  | new above => exact .new above
  | held number tenure enrolled lasting mine => exact .held number tenure enrolled lasting mine
  | idle place pool there healthy member =>
    exact .idle place pool ((same.pool? place).symm.trans there) healthy member

/-- Whatever is seen of a moment concerns a connection in reach. -/
theorem moment_reach (engine : Engine σ) (moment : Moment) (traffic : Traffic σ) :
    ∀ occurrence ∈ moment.occurrences engine traffic, traffic.InReach occurrence.connection := by
  obtain ⟨operation, router, same, due, happens⟩ := moment.course engine traffic
  intro occurrence member
  exact (reach_of_happens due happens occurrence member).passedOn same

/-- Nothing is seen any more of a connection that nobody owns. -/
theorem Retired.unseen (engine : Engine σ) {connection : Nat} (retired : traffic.Retired connection)
    (moments : List Moment) :
    ∀ occurrence ∈ occurrences engine moments traffic, occurrence.connection ≠ connection := by
  induction moments generalizing traffic with
  | nil => simp [occurrences]
  | cons moment rest ih =>
    obtain ⟨gained, shut, shifts, -⟩ := moment_shifts engine moment traffic
    intro occurrence member
    rcases List.mem_append.mp member with now | later
    · intro same
      have reach := moment_reach engine moment traffic occurrence now
      rw [same] at reach
      rcases reach.new_or_owned with above | ⟨place, owned⟩
      · exact Nat.not_lt.mpr retired.known above
      · exact retired.unowned place owned
    · exact ih (shifts.retired retired) occurrence later

end Traffic

/-- A pool while a connection is idle, or a tenure that is not over. -/
inductive Owner where
  | pool
  | tenure (number : Nat)

namespace Traffic

def Owns (owner : Owner) (place : Place) (connection : Nat) (traffic : Traffic σ) : Prop :=
  match owner with
  | .pool => connection ∈ traffic.router.idleAt place
  | .tenure number => ∃ tenure, traffic.tenures[number]? = some tenure ∧
      tenure.stage ≠ .past ∧ tenure.place = place ∧ tenure.connection = connection

variable {traffic : Traffic σ} {owner other : Owner} {place elsewhere : Place} {connection : Nat}

theorem owned_of_owns (owns : traffic.Owns owner place connection) :
    (place, connection) ∈ traffic.owned := by
  cases owner with
  | pool => exact List.mem_append_left _ (Router.mem_idle.mpr owns)
  | tenure number =>
    obtain ⟨tenure, enrolled, lasting, placed, same⟩ := owns
    exact List.mem_append_right _ (mem_held enrolled lasting placed same)

theorem owns_of_owned (member : (place, connection) ∈ traffic.owned) :
    ∃ owner, traffic.Owns owner place connection := by
  rcases List.mem_append.mp member with idle | held
  · exact ⟨.pool, Router.mem_idle.mp idle⟩
  · obtain ⟨tenure, present, holding⟩ := List.mem_flatMap.mp held
    obtain ⟨number, enrolled⟩ := List.mem_iff_getElem?.mp present
    unfold Tenure.holding at holding
    split at holding
    · cases holding
    · rename_i lasting
      have same := List.mem_singleton.mp holding
      exact ⟨.tenure number, tenure, enrolled, lasting, (congrArg Prod.fst same).symm,
        (congrArg Prod.snd same).symm⟩

theorem IsSound.idleAt_nodup (sound : traffic.IsSound) (place : Place) :
    (traffic.router.idleAt place).Nodup := by
  have distinct := sound.exclusive
  rw [owned, List.map_append] at distinct
  have idle := List.Nodup.of_map _ distinct.of_append_left
  cases there : traffic.router.pool? place with
  | none => simp [Router.idleAt, there]
  | some pool =>
    have each := (List.nodup_flatMap.mp idle).1 place (Router.mem_places there)
    exact List.Nodup.of_map _ each

theorem IsSound.one_tenure (sound : traffic.IsSound)  {number further : Nat}
    (mine : traffic.Owns (.tenure number) place connection)
    (yours : traffic.Owns (.tenure further) elsewhere connection) : number = further := by
  have distinct := sound.exclusive
  rw [owned, List.map_append] at distinct
  have held := distinct.of_append_right
  rw [Traffic.held, List.map_flatMap] at held
  have apart := List.pairwise_iff_getElem.mp (List.nodup_flatMap.mp held).2
  have shared {number : Nat} {place : Place}
      (owns : traffic.Owns (.tenure number) place connection) :
      ∃ inside : number < traffic.tenures.length,
        connection ∈ (traffic.tenures[number]).holding.map Prod.snd := by
    obtain ⟨tenure, enrolled, lasting, placed, same⟩ := owns
    obtain ⟨inside, found⟩ := List.getElem?_eq_some_iff.mp enrolled
    refine ⟨inside, ?_⟩
    rw [found, Tenure.holding_of_ne lasting, same]
    exact List.mem_singleton.mpr rfl
  obtain ⟨inside, here⟩ := shared mine
  obtain ⟨within, there⟩ := shared yours
  rcases Nat.lt_trichotomy number further with less | same | more
  · exact absurd there (apart number further inside within less here)
  · exact same
  · exact absurd here (apart further number within inside more there)

theorem IsSound.one_owner (sound : traffic.IsSound)
    (mine : traffic.Owns owner place connection)
    (yours : traffic.Owns other elsewhere connection) : owner = other ∧ place = elsewhere := by
  have same := sound.same_place (owned_of_owns mine) (owned_of_owns yours)
  refine ⟨?_, same⟩
  have distinct := sound.exclusive
  rw [owned, List.map_append] at distinct
  have apart {number : Nat} {place elsewhere : Place}
      (idle : traffic.Owns .pool place connection)
      (held : traffic.Owns (.tenure number) elsewhere connection) : False := by
    obtain ⟨tenure, enrolled, lasting, placed, same⟩ := held
    exact List.disjoint_of_nodup_append distinct
      (List.mem_map.mpr ⟨_, Router.mem_idle.mpr idle, rfl⟩)
      (List.mem_map.mpr ⟨_, mem_held enrolled lasting placed same, rfl⟩)
  cases owner with
  | pool =>
    cases other with
    | pool => rfl
    | tenure number => exact (apart mine yours).elim
  | tenure number =>
    cases other with
    | pool => exact (apart yours mine).elim
    | tenure further => rw [sound.one_tenure mine yours]

end Traffic

/-- From a router without idle connections, at every moment of every run in which nobody closes a
connection that was lent: each connection has one owner at most, one that is closed has none and is
not seen again, and one that a dialect has given is owned at its place or closed. -/
theorem connections_owned (engine : Engine σ) (router : Router) (world : World σ)
    (moments : List Moment) (empty : ∀ place, router.idleAt place = [])
    (existing : ∀ connection ∈ world.closed, connection ≤ world.targets.length)
    (honest : ∀ moment ∈ moments, ¬ moment.Spoils) :
    let traffic := Traffic.run engine moments ⟨router, world, []⟩
    (∀ place, (traffic.router.idleAt place).Nodup) ∧
      (∀ connection owner other place elsewhere, traffic.Owns owner place connection →
        traffic.Owns other elsewhere connection → owner = other ∧ place = elsewhere) ∧
      (∀ connection ∈ traffic.world.closed,
        (∀ owner place, ¬ traffic.Owns owner place connection) ∧
          ∀ later, ∀ occurrence ∈ Traffic.occurrences engine later traffic,
            occurrence.connection ≠ connection) ∧
      ∀ place connection, .opened place connection ∈
          Traffic.occurrences engine moments ⟨router, world, []⟩ →
        (∃ owner, traffic.Owns owner place connection) ∨ connection ∈ traffic.world.closed := by
  intro traffic
  have start := Traffic.start_sound world empty
  obtain ⟨gained, shut, shifts, closings, opened⟩ :=
    Traffic.run_shifts engine moments ⟨router, world, []⟩
  have sound : traffic.IsSound := shifts.sound start
  have closings := closings honest
  have nothing := Traffic.owned_start world empty
  refine ⟨sound.idleAt_nodup, ?_, ?_, ?_⟩
  · intro connection owner other place elsewhere mine yours
    exact sound.one_owner mine yours
  · intro connection closed
    have retired : traffic.Retired connection := by
      rcases List.mem_append.mp (closings.mem_iff.mp closed) with now | before
      · obtain ⟨⟨place, _⟩, member, rfl⟩ := List.mem_map.mp now
        exact shifts.retired_of_shut start member
      · -- Closed before the run, so it was never owned in it.
        apply shifts.retired
        exact ⟨existing connection before, by simp [nothing]⟩
    constructor
    · intro owner place owns
      exact retired.unowned place (Traffic.owned_of_owns owns)
    · intro later
      exact retired.unseen engine later
  · intro place connection seen
    have member : (place, connection) ∈ gained := by
      rw [← opened]
      exact List.mem_filterMap.mpr ⟨_, seen, rfl⟩
    have balance := shifts.owned.mem_iff (a := (place, connection))
    rw [nothing, List.nil_append, List.mem_append] at balance
    rcases balance.mpr member with owned | closed
    · exact .inl (Traffic.owns_of_owned owned)
    · refine .inr (closings.mem_iff.mpr (List.mem_append_left _ ?_))
      exact List.mem_map.mpr ⟨_, closed, rfl⟩

/-- A rehearsed database behind one address, before anybody has called. -/
def Rehearsal.traffic (url : String) (dialect : Dialect) (rehearsal : Rehearsal) :
    Traffic Rehearsal :=
  { router :=
      { configuration := { primaries := [.fixed url] }
        primaries := [{ source := .fixed url, url := url, dialect := dialect }] }
    world := { outside := rehearsal } }

theorem Rehearsal.traffic_empty (url : String) (dialect : Dialect) (rehearsal : Rehearsal)
    (place : Place) : (traffic url dialect rehearsal).router.idleAt place = [] := by
  obtain ⟨side, index⟩ := place
  cases side with
  | replica => rfl
  | primary =>
    cases index with
    | zero => rfl
    | succ index => rfl

/-- A database that refuses to commit. -/
def Rehearsal.uncommitting : Traffic Rehearsal :=
  traffic "sqlite:///a.db" .sqlite
    { rules := [{ part := "COMMIT", outcome := .error ⟨.sqliteOperational, []⟩ }] }

/-- A commit while a statement of somebody else is under way. -/
def attemptedCommit : List Moment :=
  [.turn (.ping ⟨.primary, 0⟩), .turn (.start .transaction), .turn (.advance 0),
    .turn (.start (.single (.text "SELECT 2") (.tuple []))), .turn (.finish 0 .commit),
    .turn (.advance 1), .turn (.advance 0), .turn (.advance 1)]

def Rehearsal.uncommitted : Traffic Rehearsal :=
  Traffic.run engine attemptedCommit ⟨uncommitting.router, uncommitting.world, []⟩

open Rehearsal in
theorem failedCommit_owned :
    (∀ place, uncommitting.router.idleAt place = []) ∧
      (∀ connection ∈ uncommitting.world.closed,
        connection ≤ uncommitting.world.targets.length) ∧
      (∀ moment ∈ attemptedCommit, ¬ moment.Spoils) ∧
      uncommitted.router.idleAt ⟨.primary, 0⟩ = [2] ∧ uncommitted.world.closed = [1] ∧
      ∀ owner place, ¬ uncommitted.Owns owner place 1 := by
  have empty : ∀ place, uncommitting.router.idleAt place = [] :=
    traffic_empty "sqlite:///a.db" .sqlite _
  have existing : ∀ connection ∈ uncommitting.world.closed,
      connection ≤ uncommitting.world.targets.length := by
    simp [uncommitting, traffic]
  have honest : ∀ moment ∈ attemptedCommit, ¬ moment.Spoils := by
    simp [attemptedCommit, Moment.Spoils]
  have idle : uncommitted.router.idleAt ⟨.primary, 0⟩ = [2] := by cbv
  have closed : uncommitted.world.closed = [1] := by cbv
  have member : 1 ∈ uncommitted.world.closed := by
    rw [closed]
    exact List.mem_singleton.mpr rfl
  obtain ⟨-, -, retired, -⟩ := connections_owned Rehearsal.engine uncommitting.router
    uncommitting.world attemptedCommit empty existing honest
  exact ⟨empty, existing, honest, idle, closed, (retired 1 member).1⟩

end Querywright
