import Querywright.Proofs.ConnectionOwnership
import Mathlib

/-! When the pool at a place opens a connection: in takings and pings, one at most, and only where
none is idle, be it that the idle list was found empty or that all that was on it has been closed.
So what is owned at a place behind an opening is what was held, and the new connection. Open
connections are those that dialects have given; one whose first statement fails is given to no
pool. -/
namespace Querywright

variable {σ : Type}

namespace Pool

variable {engine : Engine σ} {place : Place} {whole : Bool} {pool : Pool} {world : World σ}

theorem openings_takings : openings (pool.takings engine place whole world) =
    (pool.newcomer? engine whole world).toList.map (Prod.mk place) := by
  unfold takings
  rw [openings_append]
  have first : openings ((pool.newcomer? engine whole world).toList.map (.opened place)) =
      (pool.newcomer? engine whole world).toList.map (Prod.mk place) := by
    simp [openings, List.filterMap_map, Function.comp_def, Occurrence.opening?]
  rw [first]
  split <;> simp [openings, Occurrence.opening?]

/-- Who gets the pool to open a connection gets it. -/
theorem handedOut_of_newcomer (place : Place) {connection : Nat}
    (newcomer : pool.newcomer? engine whole world = some connection) :
    ∃ given, .handedOut place given ∈ pool.takings engine place whole world := by
  have providing := provide_provided engine whole pool world
  unfold takings
  generalize pool.provide engine whole world = outcome at providing
  cases providing with
  | popped rest given healthy idle nobody => exact ⟨given, by simp⟩
  | opened => exact ⟨world.targets.length + 1, by simp⟩
  | refused reason url kept dropped left made sent idle emptied nobody =>
    rw [nobody] at newcomer
    cases newcomer

theorem openings_pingLosses : openings (pool.pingLosses engine place world) = [] := by
  unfold pingLosses losses
  split
  · rfl
  · dsimp only
    split <;> rfl

/-- A whole taking leads to a new connection only if the pool is marked or has nothing idle. -/
theorem idle_of_newcomer {connection : Nat}
    (newcomer : pool.newcomer? engine true world = some connection) :
    pool.healthy = false ∨ pool.idle = [] := by
  unfold newcomer? at newcomer
  by_cases marked : pool.healthy = false
  · exact .inl marked
  · rw [if_neg (by simp), if_neg (by simpa using marked)] at newcomer
    split at newcomer
    · rename_i none
      exact .inr (List.isEmpty_iff.mp none)
    · cases newcomer

end Pool

namespace Operation

variable {engine : Engine σ} {operation : Operation} {before : Traffic σ}

/-- The one connection that an operation may have opened, for whom, and where. -/
structure Opens (engine : Engine σ) (operation : Operation) (before : Traffic σ) (place : Place)
    (connection : Nat) : Prop where
  gained : openings (operation.occurrences engine before) = [(place, connection)]
  handed : ∃ given, .handedOut place given ∈ operation.occurrences engine before
  asked : (∃ purpose whole, operation = .take purpose place whole) ∨ operation = .ping place
  idle : operation.isWhole = true →
    ∃ pool, before.router.pool? place = some pool ∧ (pool.healthy = false ∨ pool.idle = [])

theorem openings_sentBetween (issuer : Option Nat) (early late : World σ) :
    openings (sentBetween issuer early late) = [] :=
  openings_sent issuer _

/-- What is seen of an operation without a pool, or of one whose pool takes nothing. -/
theorem openings_silent (silent : ∀ pool, operation.place?.bind before.router.pool? = some pool →
    openings (operation.noticed engine pool before.world) = []) :
    openings (operation.occurrences engine before) = [] := by
  unfold occurrences
  rw [openings_append, openings_sentBetween]
  split
  · rfl
  · rename_i pool there
    exact silent pool there

theorem opens_of_takings {place : Place} {whole : Bool} (others : Pool → List Occurrence)
    (placed : operation.place? = some place)
    (noticed : ∀ pool, operation.noticed engine pool before.world =
      pool.takings engine place whole before.world ++ others pool)
    (unopened : ∀ pool, openings (others pool) = [])
    (asked : (∃ purpose, operation = .take purpose place whole) ∨
      operation = .ping place ∧ whole = true) :
    openings (operation.occurrences engine before) = [] ∨
      ∃ place connection, operation.Opens engine before place connection := by
  cases there : before.router.pool? place with
  | none =>
    refine .inl (openings_silent fun pool found => ?_)
    rw [placed] at found
    exact absurd (there.symm.trans found) nofun
  | some pool =>
    have seen : operation.occurrences engine before =
        sentBetween operation.issuer? before.world (operation.perform engine before).2.world ++
          (pool.takings engine place whole before.world ++ others pool) := by
      unfold occurrences
      rw [placed, Option.bind_some, there, ← noticed]
    have gained : openings (operation.occurrences engine before) =
        (pool.newcomer? engine whole before.world).toList.map (Prod.mk place) := by
      rw [seen, openings_append, openings_append, openings_sentBetween, unopened,
        Pool.openings_takings, List.nil_append, List.append_nil]
    cases newcomer : pool.newcomer? engine whole before.world with
    | none => exact .inl (by rw [gained, newcomer]; rfl)
    | some connection =>
      refine .inr ⟨place, connection, by rw [gained, newcomer]; rfl, ?_, ?_, ?_⟩
      · obtain ⟨given, member⟩ := Pool.handedOut_of_newcomer place newcomer
        refine ⟨given, ?_⟩
        rw [seen]
        exact List.mem_append_right _ (List.mem_append_left _ member)
      · rcases asked with ⟨purpose, own⟩ | ⟨own, -⟩
        · exact .inl ⟨purpose, whole, own⟩
        · exact .inr own
      · intro isWhole
        have entire : whole = true := by
          rcases asked with ⟨purpose, own⟩ | ⟨-, entire⟩
          · rwa [own] at isWhole
          · exact entire
        rw [entire] at newcomer
        exact ⟨pool, there, Pool.idle_of_newcomer newcomer⟩

/-- Only takings and pings open connections, one at most. -/
theorem opens_cases (engine : Engine σ) (operation : Operation) (before : Traffic σ) :
    openings (operation.occurrences engine before) = [] ∨
      ∃ place connection, operation.Opens engine before place connection := by
  cases operation with
  | nothing | borrow | spoil | giveBack | close | mark =>
    exact .inl (openings_silent fun _ _ => rfl)
  | run number tenure statement parameters answered failed =>
    refine .inl (openings_silent fun pool _ => ?_)
    unfold noticed Pool.losses
    dsimp only
    rw [openings_append]
    split <;> split <;> rfl
  | take purpose place whole =>
    exact opens_of_takings (fun _ => []) rfl (fun pool => (List.append_nil _).symm) (fun _ => rfl)
      (.inl ⟨purpose, rfl⟩)
  | ping place =>
    exact opens_of_takings (fun pool => pool.pingLosses engine place before.world) rfl
      (fun _ => rfl) (fun _ => Pool.openings_pingLosses) (.inr ⟨rfl, rfl⟩)

end Operation

section Counts

variable {α : Type} {place : Place}

def countAt (place : Place) (entries : List (Place × α)) : Nat :=
  entries.countP fun entry => entry.1 = place

theorem countAt_append (entries others : List (Place × α)) :
    countAt place (entries ++ others) = countAt place entries + countAt place others :=
  List.countP_append

theorem countAt_perm (place : Place) {entries others : List (Place × α)}
    (same : entries.Perm others) :
    countAt place entries = countAt place others :=
  same.countP_eq _

theorem countAt_located (other : Place) (items : List α) :
    countAt place (items.map (Prod.mk other)) = if other = place then items.length else 0 := by
  unfold countAt
  rw [List.countP_map]
  by_cases same : other = place
  · simp [same, Function.comp_def]
  · simp [same, Function.comp_def]

theorem countAt_flatMap {places : List Place} (distinct : places.Nodup) (share : Place → List α) :
    countAt place (places.flatMap fun other => (share other).map (Prod.mk other)) =
      if place ∈ places then (share place).length else 0 := by
  induction places with
  | nil => rfl
  | cons first rest ih =>
    obtain ⟨absent, distinctRest⟩ := List.nodup_cons.mp distinct
    rw [List.flatMap_cons, countAt_append, countAt_located, ih distinctRest]
    by_cases same : first = place
    · subst same
      simp [absent]
    · simp [same, Ne.symm same]

theorem Router.countAt_idle (router : Router) (place : Place) :
    countAt place router.idle = (router.idleAt place).length := by
  rw [Router.idle, countAt_flatMap router.places_nodup]
  split
  · rfl
  · rename_i absent
    have missing : router.pool? place = none := by
      cases there : router.pool? place with
      | none => rfl
      | some pool => exact absurd (Router.mem_places there) absent
    rw [Router.idleAt, missing]
    rfl

end Counts

namespace Traffic

variable {before after traffic : Traffic σ} {gained shut : List (Place × Nat)} {place : Place}

/-- How many connections of a place are checked out. -/
def heldAt (place : Place) (traffic : Traffic σ) : Nat :=
  countAt place traffic.held

theorem countAt_owned (place : Place) (traffic : Traffic σ) :
    countAt place traffic.owned = (traffic.router.idleAt place).length + traffic.heldAt place := by
  rw [owned, countAt_append, Router.countAt_idle]
  rfl

theorem Shifts.countAt (shifts : before.Shifts after gained shut) (place : Place) :
    countAt place after.owned + Querywright.countAt place shut =
      Querywright.countAt place before.owned + Querywright.countAt place gained := by
  rw [← countAt_append, ← countAt_append]
  exact countAt_perm _ shifts.owned

/-- Nothing that was idle at a place is left there: it has been closed. -/
def Emptied (place : Place) (before after : Traffic σ) : Prop :=
  ∀ connection ∈ before.router.idleAt place,
    connection ∉ after.router.idleAt place ∧ connection ∈ after.world.closed

end Traffic

section Steps

variable {before after : Traffic σ} {operation : Operation} {seen : List Occurrence}
  {place : Place} {connection : Nat}

/-- Where a connection is opened, what was idle at a marked pool is closed. -/
theorem shut_of_opening (happens : Happens before operation after seen)
    (opened : .opened place connection ∈ seen) (whole : operation.isWhole = true)
    {pool : Pool} (there : before.router.pool? place = some pool) :
    ∃ gained shut, Balances before operation after seen gained shut ∧
      (pool.healthy = false → ∀ idle ∈ pool.idle, (place, idle) ∈ shut) := by
  cases happens with
  | nothing | marked | kept | closed | spoiled => cases opened
  | answered | borrowed => cases List.mem_singleton.mp opened
  | raised =>
    rcases mem_of_raised opened with ⟨_, _, clash⟩ | clash | ⟨_, clash⟩ <;> cases clash
  | took purpose elsewhere isWhole old given taken left gained shut sent found provision =>
    obtain ⟨rfl, -⟩ := Pool.opened_mem_witnessed.mp opened
    rw [there] at found
    cases found
    refine ⟨_, _, balances_of_took there provision, fun marked idle member => ?_⟩
    rw [provision.stale whole marked]
    exact List.mem_map.mpr ⟨idle, member, rfl⟩
  | upkept _ elsewhere old kept left gained shut sent handed lost found upkeep stale =>
    obtain ⟨rfl, -⟩ := Pool.opened_mem_witnessed.mp opened
    rw [there] at found
    cases found
    refine ⟨_, _, balances_of_upkept there upkeep, fun marked idle member => ?_⟩
    exact List.mem_map.mpr ⟨idle, stale whole marked idle member, rfl⟩

theorem idle_shut {shut : List (Place × Nat)} (sound : before.IsSound)
    (closing : ∀ idle ∈ before.router.idleAt place, (place, idle) ∈ shut) :
    (before.router.idleAt place).length ≤ countAt place shut := by
  have distinct : ((before.router.idleAt place).map (Prod.mk place)).Nodup :=
    (sound.idleAt_nodup place).map fun _ _ same => congrArg Prod.snd same
  have inside : (before.router.idleAt place).map (Prod.mk place) ⊆
      shut.filter fun entry => entry.1 = place := by
    intro entry member
    obtain ⟨idle, present, rfl⟩ := List.mem_map.mp member
    exact List.mem_filter.mpr ⟨closing idle present, by simp⟩
  have size := (distinct.subperm inside).length_le
  rwa [List.length_map, ← List.countP_eq_length_filter] at size

/-- Closing what is idle leaves only what is held. -/
theorem emptied_of_shut {gained shut : List (Place × Nat)} (sound : before.IsSound)
    (balances : Balances before operation after seen gained shut)
    (honest : ∀ tenure, operation ≠ .spoil tenure)
    (closing : ∀ idle ∈ before.router.idleAt place, (place, idle) ∈ shut) :
    before.Emptied place after ∧
      countAt place after.owned ≤ before.heldAt place + countAt place gained := by
  constructor
  · intro idle member
    have shutNow := closing idle member
    constructor
    · intro still
      have retired := balances.shifts.retired_of_shut sound shutNow
      exact retired.unowned place (List.mem_append_left _ (Router.mem_idle.mpr still))
    · apply (balances.closings honest).mem_iff.mpr
      exact List.mem_append_left _ (List.mem_map.mpr ⟨_, shutNow, rfl⟩)
  · have count := balances.shifts.countAt place
    have few := idle_shut sound closing
    rw [before.countAt_owned place] at count
    omega

theorem mem_openings {seen : List Occurrence} :
    (place, connection) ∈ openings seen ↔ .opened place connection ∈ seen := by
  unfold openings
  rw [List.mem_filterMap]
  constructor
  · rintro ⟨occurrence, member, same⟩
    cases occurrence with
    | opened =>
      cases same
      exact member
    | handedOut | sent | raised | lost => cases same
  · intro member
    exact ⟨_, member, rfl⟩

theorem Operation.opens_of_mem {engine : Engine σ}
    (opened : .opened place connection ∈ operation.occurrences engine before) :
    operation.Opens engine before place connection := by
  have member := mem_openings.mpr opened
  rcases operation.opens_cases engine before with silent | ⟨elsewhere, other, opens⟩
  · exact absurd (silent ▸ member) List.not_mem_nil
  · have here : (place, connection) = (elsewhere, other) :=
      List.mem_singleton.mp (opens.gained ▸ member)
    cases here
    exact opens

/-- A taking opens a connection where it takes it. -/
theorem Operation.Opens.place_of_take {engine : Engine σ} {purpose : Purpose} {taken : Place}
    {whole : Bool} (opens : (take purpose taken whole).Opens engine before place connection) :
    place = taken := by
  rcases opens.asked with ⟨_, _, same⟩ | clash
  · cases same
    rfl
  · cases clash

theorem Operation.Opens.emptied {engine : Engine σ} (sound : before.IsSound)
    (opens : operation.Opens engine before place connection)
    (whole : operation.isWhole = true) :
    before.Emptied place (operation.perform engine before).2 ∧
      countAt place (operation.perform engine before).2.owned ≤ before.heldAt place + 1 := by
  have opened : .opened place connection ∈ operation.occurrences engine before := by
    rw [← mem_openings, opens.gained]
    exact List.mem_singleton.mpr rfl
  have honest (tenure : Tenure) : operation ≠ .spoil tenure := by
    rintro rfl
    rcases opens.asked with ⟨_, _, clash⟩ | clash <;> cases clash
  obtain ⟨pool, there, emptiable⟩ := opens.idle whole
  obtain ⟨gained, shut, balances, closing⟩ :=
    shut_of_opening (Operation.perform_happens engine operation before) opened whole there
  have one : countAt place gained = 1 := by
    rw [← balances.opened, opens.gained]
    simp [countAt]
  rw [← one]
  refine emptied_of_shut sound balances honest ?_
  rw [Router.idleAt_of_pool? there]
  rcases emptiable with marked | none
  · exact closing marked
  · simp [none]

theorem Due.whole_of_opens {engine : Engine σ} {moment : Moment}
    (due : Due before.tenures moment operation)
    (opens : operation.Opens engine before place connection)
    (prompt : ∀ purpose, moment ≠ .take purpose place false) : operation.isWhole = true := by
  rcases opens.asked with ⟨purpose, whole, rfl⟩ | rfl
  · cases due with
    | start => rfl
    | take =>
      cases whole with
      | true => rfl
      | false => exact absurd rfl (prompt purpose)
  · rfl

/-- An operation that is whole leaves no more than there was, or what is held now and one that it
handed out. -/
theorem Operation.grown (engine : Engine σ) {moment : Moment} (sound : before.IsSound)
    (due : Due before.tenures moment operation) (place : Place)
    (prompt : ∀ purpose, moment ≠ .take purpose place false) :
    countAt place (operation.perform engine before).2.owned ≤ countAt place before.owned ∨
      (∃ given, .handedOut place given ∈ operation.occurrences engine before) ∧
        countAt place (operation.perform engine before).2.owned ≤ before.heldAt place + 1 := by
  have happens := Operation.perform_happens engine operation before
  obtain ⟨gained, shut, balances⟩ := balances_of_happens due happens
  have count := balances.shifts.countAt place
  rw [← balances.opened] at count
  rcases operation.opens_cases engine before with silent | ⟨elsewhere, connection, opens⟩
  · have none : countAt place (openings (operation.occurrences engine before)) = 0 := by
      rw [silent]
      rfl
    exact .inl (by omega)
  · by_cases same : elsewhere = place
    · subst same
      exact .inr ⟨opens.handed, (opens.emptied sound (due.whole_of_opens opens prompt)).2⟩
    · have none : countAt place (openings (operation.occurrences engine before)) = 0 := by
        rw [opens.gained]
        simp [countAt, same]
      exact .inl (by omega)

theorem Operation.grown_late (engine : Engine σ) (purpose : Purpose) (elsewhere : Place)
    (before : Traffic σ) (place : Place) :
    countAt place ((Operation.take purpose elsewhere false).perform engine before).2.owned ≤
      countAt place before.owned + countAt place [(elsewhere, purpose)] := by
  have happens := Operation.perform_happens engine (.take purpose elsewhere false) before
  have due : Due before.tenures (.take purpose elsewhere false) (.take purpose elsewhere false) :=
    .take purpose elsewhere false
  obtain ⟨gained, shut, balances⟩ := balances_of_happens due happens
  have count := balances.shifts.countAt place
  rw [← balances.opened] at count
  rcases (Operation.take purpose elsewhere false).opens_cases engine before with
    silent | ⟨there, connection, opens⟩
  · rw [silent] at count
    have none : countAt place ([] : List (Place × Nat)) = 0 := rfl
    omega
  · rw [opens.gained, opens.place_of_take] at count
    have alike : countAt place [(elsewhere, connection)] =
        countAt place [(elsewhere, purpose)] := by
      simp [countAt]
    omega

end Steps

namespace Traffic

variable {traffic : Traffic σ} {place : Place} {moment : Moment}

theorem moment_grown (engine : Engine σ) (sound : traffic.IsSound) (place : Place)
    (prompt : ∀ purpose, moment ≠ .take purpose place false) :
    countAt place (moment.perform engine traffic).2.owned ≤ countAt place traffic.owned ∨
      (∃ given, .handedOut place given ∈ moment.occurrences engine traffic) ∧
        countAt place (moment.perform engine traffic).2.owned ≤ traffic.heldAt place + 1 := by
  obtain ⟨same, due⟩ := moment.operation_due traffic
  have grown := Operation.grown engine (sound.passedOn same) due place prompt
  rwa [samePools_owned traffic same] at grown

@[simp] theorem run_single (engine : Engine σ) (moment : Moment) (traffic : Traffic σ) :
    run engine [moment] traffic = (moment.perform engine traffic).2 :=
  rfl

@[simp] theorem occurrences_single (engine : Engine σ) (moment : Moment) (traffic : Traffic σ) :
    occurrences engine [moment] traffic = moment.occurrences engine traffic :=
  List.append_nil _

/-- Where a moment opens a connection nothing is idle any more of what was. -/
theorem moment_emptied {engine : Engine σ} (sound : traffic.IsSound) {connection : Nat}
    (opened : .opened place connection ∈ moment.occurrences engine traffic)
    (prompt : ∀ purpose, moment ≠ .take purpose place false) :
    traffic.Emptied place (moment.perform engine traffic).2 := by
  obtain ⟨same, due⟩ := moment.operation_due traffic
  have passed : Due (traffic.passedOn (moment.operation traffic).2).tenures moment
      (moment.operation traffic).1 := due
  have opens := Operation.opens_of_mem opened
  have emptied := (opens.emptied (sound.passedOn same) (passed.whole_of_opens opens prompt)).1
  intro idle present
  rw [← same.idleAt] at present
  exact emptied idle present

theorem close_emptied (engine : Engine σ) (place : Place) (traffic : Traffic σ) :
    ((Moment.turn (.close place)).perform engine traffic).2.router.idleAt place = [] := by
  show ((Operation.close place).perform engine traffic).2.router.idleAt place = []
  cases there : traffic.router.pool? place with
  | none =>
    rw [Operation.perform_of_none rfl there]
    dsimp only
    rw [Router.idleAt, there]
    rfl
  | some pool =>
    rw [Operation.perform_of_pool? rfl there]
    exact (Router.idleAt_replace _ there place).trans (if_pos rfl)

theorem close_held (engine : Engine σ) (place : Place) (traffic : Traffic σ) :
    ((Moment.turn (.close place)).perform engine traffic).2.held = traffic.held := by
  show ((Operation.close place).perform engine traffic).2.held = traffic.held
  cases there : traffic.router.pool? place with
  | none => rw [Operation.perform_of_none rfl there]
  | some pool =>
    rw [Operation.perform_of_pool? rfl there]
    rfl

end Traffic

namespace Traffic

variable {traffic : Traffic σ}

theorem run_append (engine : Engine σ) (moments others : List Moment) (traffic : Traffic σ) :
    run engine (moments ++ others) traffic = run engine others (run engine moments traffic) := by
  induction moments generalizing traffic with
  | nil => rfl
  | cons moment rest ih => exact ih _

theorem occurrences_append (engine : Engine σ) (moments others : List Moment)
    (traffic : Traffic σ) :
    occurrences engine (moments ++ others) traffic =
      occurrences engine moments traffic ++
        occurrences engine others (run engine moments traffic) := by
  induction moments generalizing traffic with
  | nil => rfl
  | cons moment rest ih =>
    rw [List.cons_append, occurrences, occurrences, run, ih, List.append_assoc]

end Traffic

/-- The balance of a part of a run with every connection closed that lost its owner in it, also
where callers close what was lent to them. -/
structure Accounts (before after : Traffic σ) (gained shut : List (Place × Nat)) : Prop where
  shifts : before.Shifts after gained shut
  closing : ∀ entry ∈ shut, entry.2 ∈ after.world.closed
  closed : ∀ connection ∈ before.world.closed, connection ∈ after.world.closed

theorem Accounts.trans {before between after : Traffic σ}
    {gained shut more others : List (Place × Nat)}
    (first : Accounts before between gained shut) (second : Accounts between after more others) :
    Accounts before after (gained ++ more) (shut ++ others) := by
  refine ⟨first.shifts.trans second.shifts, ?_, fun connection member =>
    second.closed connection (first.closed connection member)⟩
  intro entry member
  rcases List.mem_append.mp member with early | late
  · exact second.closed _ (first.closing entry early)
  · exact second.closing entry late

theorem Balances.accounts {before after : Traffic σ} {operation : Operation}
    {seen : List Occurrence} {gained shut : List (Place × Nat)}
    (balances : Balances before operation after seen gained shut)
    (honest : ∀ tenure, operation ≠ .spoil tenure) : Accounts before after gained shut := by
  have closings := balances.closings honest
  refine ⟨balances.shifts, fun entry member => ?_, fun connection member => ?_⟩
  · exact closings.mem_iff.mpr (List.mem_append_left _ (List.mem_map.mpr ⟨entry, member, rfl⟩))
  · exact closings.mem_iff.mpr (List.mem_append_right _ member)

theorem accounts_of_happens {before after : Traffic σ} {operation : Operation}
    {seen : List Occurrence} {moment : Moment} (due : Due before.tenures moment operation)
    (happens : Happens before operation after seen) :
    ∃ shut, Accounts before after (openings seen) shut := by
  by_cases honest : ∀ tenure, operation ≠ .spoil tenure
  · obtain ⟨gained, shut, balances⟩ := balances_of_happens due happens
    rw [balances.opened]
    exact ⟨shut, balances.accounts honest⟩
  · obtain ⟨tenure, rfl⟩ := not_forall_not.mp honest
    cases happens with
    | nothing =>
      exact ⟨[], .of_owned (Nat.le_refl _) (.refl _), by simp, fun _ member => member⟩
    | upkept _ place pool after left gained shut sent handed lost there upkeep =>
      have balances : Balances before (.close place) _ _ _ _ := balances_of_upkept there upkeep
      rw [balances.opened]
      exact ⟨_, balances.accounts nofun⟩
    | spoiled _ left passage =>
      exact ⟨[], .of_owned passage.growth (.refl _), by simp,
        fun _ member => passage.still_closed member⟩

namespace Traffic

theorem run_accounts (engine : Engine σ) (moments : List Moment) (traffic : Traffic σ) :
    ∃ shut, Accounts traffic (run engine moments traffic)
      (openings (occurrences engine moments traffic)) shut := by
  induction moments generalizing traffic with
  | nil => exact ⟨[], .of_owned (Nat.le_refl _) (.refl _), by simp, fun _ member => member⟩
  | cons moment rest ih =>
    obtain ⟨operation, router, same, due, happens⟩ := moment.course engine traffic
    obtain ⟨shut, first⟩ := accounts_of_happens due happens
    obtain ⟨others, second⟩ := ih (moment.perform engine traffic).2
    have passed : Accounts traffic (traffic.passedOn router) [] [] :=
      ⟨.of_owned (Nat.le_refl _) (by rw [samePools_owned traffic same]), by simp,
        fun _ member => member⟩
    have whole := (passed.trans first).trans second
    rw [occurrences, openings_append]
    exact ⟨_, whole⟩

end Traffic

/-- The connections of a place that were opened in a run and have not been closed. -/
def openAt (place : Place) (seen : List Occurrence) (world : World σ) : List Nat :=
  ((openings seen).filter fun entry => entry.1 = place ∧ entry.2 ∉ world.closed).map Prod.snd

theorem openAt_owned {before after : Traffic σ} {seen : List Occurrence}
    {shut : List (Place × Nat)} (accounts : Accounts before after (openings seen) shut)
    (place : Place) :
    (openAt place seen after.world).length ≤ countAt place after.owned := by
  have distinct : (openings seen).Nodup := accounts.shifts.distinct.of_map
  have inside : ((openings seen).filter fun entry =>
      entry.1 = place ∧ entry.2 ∉ after.world.closed) ⊆
        after.owned.filter fun entry => entry.1 = place := by
    intro entry member
    obtain ⟨opened, here⟩ := List.mem_filter.mp member
    obtain ⟨placed, still⟩ : entry.1 = place ∧ entry.2 ∉ after.world.closed := by simpa using here
    have balanced := accounts.shifts.owned.mem_iff.mpr (List.mem_append_right _ opened)
    rcases List.mem_append.mp balanced with owned | gone
    · exact List.mem_filter.mpr ⟨owned, by simpa using placed⟩
    · exact absurd (accounts.closing entry gone) still
  have size := ((distinct.filter _).subperm inside).length_le
  rw [openAt, List.length_map]
  rwa [← List.countP_eq_length_filter (l := after.owned)] at size

end Querywright
