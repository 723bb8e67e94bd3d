import Querywright.Proofs.TrafficSteps
import Mathlib.Data.List.Nodup
import Mathlib.Data.List.Range

/-! Who owns which connection: a pool, while it is idle, or a tenure, until it is over. Owned
connections and those that chainsql has closed make up a balance: moments move entries from one
owner to another or to the closed ones, and only new connections are added. -/
namespace Querywright

section Lists

variable {α β : Type}

/-- One item changes its share of a list made of the shares of all. -/
theorem flatMap_modify_perm (items : List α) (number : Nat) (change : α → α) {item : α}
    (found : items[number]? = some item) (share : α → List β) :
    ((items.modify number change).flatMap share ++ share item).Perm
      (items.flatMap share ++ share (change item)) := by
  induction items generalizing number with
  | nil => simp at found
  | cons first rest ih =>
    cases number with
    | zero =>
      cases found
      rw [List.modify_zero_cons, List.flatMap_cons, List.flatMap_cons]
      refine List.perm_append_comm.trans ?_
      rw [List.append_assoc]
      exact List.perm_append_comm.append_left _
    | succ number =>
      rw [List.modify_succ_cons, List.flatMap_cons, List.flatMap_cons, List.append_assoc,
        List.append_assoc]
      exact (ih number found).append_left (share first)

theorem flatMap_update_perm {items : List α} {item : α} (distinct : items.Nodup)
    (member : item ∈ items) (before after : α → List β)
    (elsewhere : ∀ other, other ≠ item → after other = before other) :
    (items.flatMap after ++ before item).Perm (items.flatMap before ++ after item) := by
  induction items with
  | nil => cases member
  | cons first rest ih =>
    obtain ⟨absent, distinctRest⟩ := List.nodup_cons.mp distinct
    rw [List.flatMap_cons, List.flatMap_cons]
    rcases List.mem_cons.mp member with same | inside
    · subst same
      have others : rest.flatMap after = rest.flatMap before := by
        apply List.flatMap_congr
        intro other present
        exact elsewhere other (ne_of_mem_of_not_mem present absent)
      rw [others]
      refine List.perm_append_comm.trans ?_
      rw [List.append_assoc]
      exact List.perm_append_comm.append_left _
    · have different : first ≠ item := (ne_of_mem_of_not_mem inside absent).symm
      rw [elsewhere first different, List.append_assoc, List.append_assoc]
      exact (ih distinctRest inside).append_left (before first)

end Lists

namespace Router

def idleAt (place : Place) (router : Router) : List Nat :=
  ((router.pool? place).map Pool.idle).getD []

/-- All idle connections, each with the place of its pool. -/
def idle (router : Router) : List (Place × Nat) :=
  router.places.flatMap fun place => (router.idleAt place).map (Prod.mk place)

variable {before after router : Router} {place : Place} {pool : Pool}

theorem idleAt_of_pool? (there : router.pool? place = some pool) :
    router.idleAt place = pool.idle := by
  rw [idleAt, there]
  rfl

theorem places_nodup (router : Router) : router.places.Nodup := by
  have distinct (side : Side) (size : Nat) : ((List.range size).map (Place.mk side)).Nodup := by
    refine List.Nodup.map ?_ List.nodup_range
    intro index other same
    exact congrArg Place.index same
  refine (distinct .primary _).append (distinct .replica _) ?_
  intro place primary replica
  obtain ⟨_, _, rfl⟩ := List.mem_map.mp primary
  obtain ⟨_, _, impossible⟩ := List.mem_map.mp replica
  cases impossible

theorem mem_places (there : router.pool? place = some pool) : place ∈ router.places := by
  have inside := (List.getElem?_eq_some_iff.mp there).1
  obtain ⟨side, index⟩ := place
  apply List.mem_append.mpr
  cases side with
  | primary => exact .inl (List.mem_map.mpr ⟨index, List.mem_range.mpr inside, rfl⟩)
  | replica => exact .inr (List.mem_map.mpr ⟨index, List.mem_range.mpr inside, rfl⟩)

theorem mem_idle {connection : Nat} :
    (place, connection) ∈ router.idle ↔ connection ∈ router.idleAt place := by
  unfold idle
  constructor
  · intro member
    obtain ⟨other, _, inside⟩ := List.mem_flatMap.mp member
    obtain ⟨_, present, same⟩ := List.mem_map.mp inside
    cases same
    exact present
  · intro member
    cases there : router.pool? place with
    | none => simp [idleAt, there] at member
    | some pool =>
      exact List.mem_flatMap.mpr ⟨place, mem_places there, List.mem_map.mpr ⟨_, member, rfl⟩⟩

theorem SamePools.idleAt (same : SamePools before after) (place : Place) :
    after.idleAt place = before.idleAt place := by
  unfold Router.idleAt
  rw [same.pool?]

theorem SamePools.idle (same : SamePools before after) : after.idle = before.idle := by
  unfold Router.idle
  rw [same.places]
  apply List.flatMap_congr
  intro place _
  rw [same.idleAt]

theorem idleAt_replace {old : Pool} (pool : Pool) (there : router.pool? place = some old)
    (other : Place) :
    (router.replace place pool).idleAt other =
      if other = place then pool.idle else router.idleAt other := by
  unfold idleAt
  rw [pool?_replace pool there]
  split <;> rfl

theorem idle_replace_perm {old : Pool} (pool : Pool) (there : router.pool? place = some old) :
    ((router.replace place pool).idle ++ old.idle.map (Prod.mk place)).Perm
      (router.idle ++ pool.idle.map (Prod.mk place)) := by
  have changed := flatMap_update_perm router.places_nodup (mem_places there)
    (fun other => (router.idleAt other).map (Prod.mk other))
    (fun other => ((router.replace place pool).idleAt other).map (Prod.mk other))
    (by
      intro other different
      rw [idleAt_replace pool there, if_neg different])
  rw [idleAt_replace pool there, if_pos rfl, idleAt_of_pool? there] at changed
  unfold idle
  rw [places_replace]
  exact changed

end Router

/-- The connection of a tenure that is not over, with its place. -/
def Tenure.holding (tenure : Tenure) : List (Place × Nat) :=
  if tenure.stage = .past then [] else [(tenure.place, tenure.connection)]

theorem Tenure.holding_of_ne {tenure : Tenure} (lasting : tenure.stage ≠ .past) :
    tenure.holding = [(tenure.place, tenure.connection)] :=
  if_neg lasting

variable {σ : Type}

namespace Traffic

def held (traffic : Traffic σ) : List (Place × Nat) :=
  traffic.tenures.flatMap Tenure.holding

def owned (traffic : Traffic σ) : List (Place × Nat) :=
  traffic.router.idle ++ traffic.held

variable {traffic before between after : Traffic σ}

theorem mem_held {place : Place} {connection number : Nat} {tenure : Tenure}
    (enrolled : traffic.tenures[number]? = some tenure) (lasting : tenure.stage ≠ .past)
    (placed : tenure.place = place) (same : tenure.connection = connection) :
    (place, connection) ∈ traffic.held := by
  refine List.mem_flatMap.mpr ⟨tenure, List.mem_of_getElem? enrolled, ?_⟩
  rw [Tenure.holding_of_ne lasting, placed, same]
  exact List.mem_singleton.mpr rfl

theorem held_settle_perm {number : Nat} {tenure : Tenure} (stage : Stage) (traffic : Traffic σ)
    (enrolled : traffic.tenures[number]? = some tenure) :
    ((traffic.settle number stage).held ++ tenure.holding).Perm
      (traffic.held ++ { tenure with stage := stage : Tenure }.holding) :=
  flatMap_modify_perm traffic.tenures number _ enrolled Tenure.holding

theorem held_join (tenure : Tenure) (traffic : Traffic σ) :
    (traffic.join tenure).held = traffic.held ++ tenure.holding := by
  simp [held]

/-- The balance of a part of a run: new connections that owners got, and connections closed. -/
structure Shifts (before after : Traffic σ) (gained shut : List (Place × Nat)) : Prop where
  growth : before.world.targets.length ≤ after.world.targets.length
  owned : (after.owned ++ shut).Perm (before.owned ++ gained)
  fresh : ∀ entry ∈ gained,
    before.world.targets.length < entry.2 ∧ entry.2 ≤ after.world.targets.length
  distinct : (gained.map Prod.snd).Nodup

theorem Shifts.of_owned (growth : before.world.targets.length ≤ after.world.targets.length)
    (same : after.owned.Perm before.owned) : Shifts before after [] [] :=
  ⟨growth, by simpa using same, by simp, by simp⟩

theorem Shifts.trans {gained shut more others : List (Place × Nat)}
    (first : Shifts before between gained shut) (second : Shifts between after more others) :
    Shifts before after (gained ++ more) (shut ++ others) := by
  constructor
  case growth => exact first.growth.trans second.growth
  case owned =>
    rw [List.perm_iff_count]
    intro entry
    have early := first.owned.count_eq entry
    have late := second.owned.count_eq entry
    simp only [List.count_append] at early late ⊢
    omega
  case fresh =>
    intro entry member
    have growth := first.growth
    have later := second.growth
    rcases List.mem_append.mp member with old | new
    · have bounds := first.fresh entry old
      omega
    · have bounds := second.fresh entry new
      omega
  case distinct =>
    rw [List.map_append]
    refine first.distinct.append second.distinct ?_
    intro connection old new
    obtain ⟨early, earlyMember, rfl⟩ := List.mem_map.mp old
    obtain ⟨late, lateMember, same⟩ := List.mem_map.mp new
    have below := first.fresh early earlyMember
    have above := second.fresh late lateMember
    omega

theorem put_owned_perm {place : Place} {old : Pool} (pool : Pool) (world : World σ)
    (there : traffic.router.pool? place = some old) :
    ((traffic.put place pool world).owned ++ old.idle.map (Prod.mk place)).Perm
      (traffic.owned ++ pool.idle.map (Prod.mk place)) := by
  rw [List.perm_iff_count]
  intro entry
  have moved := (Router.idle_replace_perm pool there).count_eq entry
  simp only [owned, held, put_router, put_tenures, List.count_append] at moved ⊢
  omega

theorem put_owned_of_same {place : Place} {old : Pool} (pool : Pool) (world : World σ)
    (there : traffic.router.pool? place = some old) (same : pool.idle = old.idle) :
    (traffic.put place pool world).owned.Perm traffic.owned := by
  have moved := put_owned_perm pool world there
  rw [same] at moved
  exact (List.perm_append_right_iff _).mp moved

theorem settle_owned_perm {number : Nat} {tenure : Tenure} (stage : Stage) (traffic : Traffic σ)
    (enrolled : traffic.tenures[number]? = some tenure) :
    ((traffic.settle number stage).owned ++ tenure.holding).Perm
      (traffic.owned ++ { tenure with stage := stage : Tenure }.holding) := by
  unfold owned
  rw [settle_router, List.append_assoc, List.append_assoc]
  exact (held_settle_perm stage traffic enrolled).append_left _

theorem settle_owned_of_lasting {number : Nat} {tenure : Tenure} {stage : Stage}
    (traffic : Traffic σ) (enrolled : traffic.tenures[number]? = some tenure)
    (lasting : tenure.stage ≠ .past) (still : stage ≠ .past) :
    (traffic.settle number stage).owned.Perm traffic.owned := by
  have moved := settle_owned_perm stage traffic enrolled
  rw [Tenure.holding_of_ne lasting, Tenure.holding_of_ne still] at moved
  exact (List.perm_append_right_iff _).mp moved

theorem settle_owned_of_over {number : Nat} {tenure : Tenure} (traffic : Traffic σ)
    (enrolled : traffic.tenures[number]? = some tenure) (lasting : tenure.stage ≠ .past) :
    ((traffic.settle number .past).owned ++ [(tenure.place, tenure.connection)]).Perm
      traffic.owned := by
  have moved := settle_owned_perm .past traffic enrolled
  rw [Tenure.holding_of_ne lasting] at moved
  simpa [Tenure.holding] using moved

theorem join_owned (tenure : Tenure) (traffic : Traffic σ) :
    (traffic.join tenure).owned = traffic.owned ++ tenure.holding := by
  unfold owned
  rw [join_router, held_join, List.append_assoc]

end Traffic

def Occurrence.opening? : Occurrence → Option (Place × Nat)
  | .opened place connection => some (place, connection)
  | _ => none

/-- The new connections that dialects have given, each with the place of its pool. -/
def openings (seen : List Occurrence) : List (Place × Nat) :=
  seen.filterMap Occurrence.opening?

theorem openings_append (seen others : List Occurrence) :
    openings (seen ++ others) = openings seen ++ openings others :=
  List.filterMap_append

theorem openings_sent (issuer : Option Nat) (sent : List (Nat × Value)) :
    openings (sent.map (Occurrence.sending issuer)) = [] := by
  apply List.filterMap_eq_nil_iff.mpr
  intro occurrence member
  obtain ⟨_, _, rfl⟩ := List.mem_map.mp member
  rfl

theorem openings_witnessed (place : Place) (gained : List Nat) (sent : List (Nat × Value))
    (handed lost : List Nat) :
    openings (Pool.witnessed place gained sent handed lost) = gained.map (Prod.mk place) := by
  have opened : openings (gained.map (.opened place)) = gained.map (Prod.mk place) := by
    simp [openings, List.filterMap_map, Function.comp_def, Occurrence.opening?]
  have unopened (event : Nat → Occurrence)
      (nothing : ∀ connection, (event connection).opening? = none) (connections : List Nat) :
      openings (connections.map event) = [] := by
    simp [openings, List.filterMap_map, nothing]
  unfold Pool.witnessed
  rw [openings_append, openings_append, openings_append, openings_sent, opened,
    unopened (.handedOut place) (fun _ => rfl), unopened (.lost place) (fun _ => rfl)]
  simp

/-- What an operation moves, which connections are closed by it, and which are seen to be opened. A
caller who closes a connection that was lent is the exception. -/
structure Balances (before : Traffic σ) (operation : Operation) (after : Traffic σ)
    (seen : List Occurrence) (gained shut : List (Place × Nat)) : Prop where
  shifts : before.Shifts after gained shut
  closings : (∀ tenure, operation ≠ .spoil tenure) →
    after.world.closed.Perm (shut.map Prod.snd ++ before.world.closed)
  opened : openings seen = gained

theorem World.Passes.closings_perm {before after : World σ} {opened : Nat} {closed : List Nat}
    {sent : List (Nat × Value)} (passage : before.Passes after opened closed sent) :
    after.closed.Perm (closed ++ before.closed) := by
  rw [passage.closings]
  exact (List.reverse_perm closed).append_right before.closed

theorem World.Passes.growth {before after : World σ} {opened : Nat} {closed : List Nat}
    {sent : List (Nat × Value)} (passage : before.Passes after opened closed sent) :
    before.targets.length ≤ after.targets.length := by
  rw [passage.targets]
  exact Nat.le_add_right _ _

variable {before after : Traffic σ} {operation : Operation} {seen : List Occurrence}

/-- Nothing but statements, on connections that stay where they are. -/
theorem balances_of_owned {opened : Nat} {sent : List (Nat × Value)}
    (passage : before.world.Passes after.world opened [] sent)
    (owned : after.owned.Perm before.owned) (unopened : openings seen = []) :
    Balances before operation after seen [] [] :=
  ⟨.of_owned passage.growth owned, fun _ => passage.closings_perm, unopened⟩

theorem newcomers_fresh {world left : World σ} {gained : List Nat} {made : Nat}
    (place : Place) (newcomers : gained = [] ∨ gained = [world.targets.length + 1])
    (enough : gained.length ≤ made) (targets : left.targets.length = world.targets.length + made) :
    (∀ entry ∈ gained.map (Prod.mk place),
      world.targets.length < entry.2 ∧ entry.2 ≤ left.targets.length) ∧
      ((gained.map (Prod.mk place)).map Prod.snd).Nodup := by
  rcases newcomers with none | one
  · subst none
    simp
  · subst one
    have size : 1 ≤ made := enough
    constructor
    · intro entry member
      obtain rfl := List.mem_singleton.mp member
      dsimp only
      omega
    · exact List.nodup_singleton _

theorem snd_located (place : Place) (connections : List Nat) :
    (connections.map (Prod.mk place)).map Prod.snd = connections := by
  rw [List.map_map]
  exact List.map_id connections

theorem balances_of_took {purpose : Purpose} {place : Place} {whole : Bool} {pool taken : Pool}
    {connection : Nat} {left : World σ} {gained shut : List Nat} {sent : List (Nat × Value)}
    (there : before.router.pool? place = some pool)
    (provision : Pool.Provision whole pool before.world connection taken left gained shut sent) :
    Balances before (.take purpose place whole)
      ((before.put place taken left).join ⟨purpose, place, connection, .taken⟩)
      (Pool.witnessed place gained sent [connection] []) (gained.map (Prod.mk place))
      (shut.map (Prod.mk place)) := by
  have fresh := newcomers_fresh place provision.newcomers (Nat.le_refl _)
    provision.passage.targets
  constructor
  case shifts =>
    constructor
    case growth => exact provision.passage.growth
    case owned =>
      rw [Traffic.join_owned, Tenure.holding_of_ne (by simp), List.perm_iff_count]
      intro entry
      have moved := (Traffic.put_owned_perm taken left there).count_eq entry
      have balance := (provision.balance.map (Prod.mk place)).count_eq entry
      simp only [List.map_append, List.map_cons, List.count_append, List.count_cons,
        List.count_nil] at moved balance ⊢
      omega
    case fresh => exact fresh.1
    case distinct => exact fresh.2
  case closings =>
    intro _
    rw [snd_located]
    exact provision.passage.closings_perm
  case opened => exact openings_witnessed place gained sent [connection] []

theorem balances_of_upkept {place : Place} {pool kept : Pool} {left : World σ}
    {gained shut : List Nat} {sent : List (Nat × Value)} {handed lost : List Nat}
    (there : before.router.pool? place = some pool)
    (upkeep : Pool.Upkeep pool before.world kept left gained shut sent handed lost) :
    Balances before operation (before.put place kept left)
      (Pool.witnessed place gained sent handed lost) (gained.map (Prod.mk place))
      (shut.map (Prod.mk place)) := by
  obtain ⟨made, enough, passage⟩ := upkeep.passage
  have fresh := newcomers_fresh place upkeep.newcomers enough passage.targets
  constructor
  case shifts =>
    constructor
    case growth => exact passage.growth
    case owned =>
      rw [List.perm_iff_count]
      intro entry
      have moved := (Traffic.put_owned_perm kept left there).count_eq entry
      have balance := (upkeep.balance.map (Prod.mk place)).count_eq entry
      simp only [List.map_append, List.count_append] at moved balance ⊢
      omega
    case fresh => exact fresh.1
    case distinct => exact fresh.2
  case closings =>
    intro _
    rw [snd_located]
    exact passage.closings_perm
  case opened => exact openings_witnessed place gained sent handed lost

theorem balances_of_closed {number : Nat} {tenure : Tenure} {pool : Pool} {left : World σ}
    (enrolled : before.tenures[number]? = some tenure) (lasting : tenure.stage ≠ .past)
    (there : before.router.pool? tenure.place = some pool)
    (passage : before.world.Passes left 0 [tenure.connection] []) :
    Balances before operation ((before.put tenure.place pool left).settle number .past) [] []
      [(tenure.place, tenure.connection)] := by
  constructor
  case shifts =>
    constructor
    case growth => exact passage.growth
    case owned =>
      have settled := Traffic.settle_owned_of_over (before.put tenure.place pool left) enrolled
        lasting
      simpa using settled.trans (Traffic.put_owned_of_same pool left there rfl)
    case fresh => simp
    case distinct => simp
  case closings =>
    intro _
    exact passage.closings_perm
  case opened => rfl

theorem balances_of_kept {number : Nat} {tenure : Tenure} {pool : Pool}
    (enrolled : before.tenures[number]? = some tenure) (lasting : tenure.stage ≠ .past)
    (there : before.router.pool? tenure.place = some pool) :
    Balances before operation
      ((before.put tenure.place { pool with idle := pool.idle ++ [tenure.connection] }
        before.world).settle number .past) [] [] [] := by
  refine balances_of_owned (World.Passes.refl before.world) ?_ rfl
  rw [List.perm_iff_count]
  intro entry
  have settled := (Traffic.settle_owned_of_over (before.put tenure.place
    { pool with idle := pool.idle ++ [tenure.connection] } before.world) enrolled
      lasting).count_eq entry
  have moved := (Traffic.put_owned_perm { pool with idle := pool.idle ++ [tenure.connection] }
    before.world there).count_eq entry
  simp only [List.map_append, List.map_cons, List.map_nil, List.count_append] at settled moved
  omega

theorem balances_of_happens {moment : Moment} (due : Due before.tenures moment operation)
    (happens : Happens before operation after seen) :
    ∃ gained shut, Balances before operation after seen gained shut := by
  cases happens with
  | nothing =>
    exact ⟨[], [], balances_of_owned (World.Passes.refl before.world) (.refl _) rfl⟩
  | took purpose place whole pool connection taken left gained shut sent there provision =>
    exact ⟨_, _, balances_of_took there provision⟩
  | upkept _ place pool after left gained shut sent handed lost there upkeep =>
    exact ⟨_, _, balances_of_upkept there upkeep⟩
  | marked place healthy pool there =>
    exact ⟨[], [], balances_of_owned (World.Passes.refl before.world)
      (Traffic.put_owned_of_same _ _ there rfl) rfl⟩
  | answered number tenure _ _ _ _ pool left sent _ there _ passage =>
    obtain ⟨enrolled, lasting, still, _⟩ := due.enrolled_of_run
    have settled := Traffic.settle_owned_of_lasting (before.put tenure.place pool left) enrolled
      lasting still
    have put := Traffic.put_owned_of_same pool left there rfl
    exact ⟨[], [], balances_of_owned passage (settled.trans put) rfl⟩
  | raised number tenure statement _ _ _ pool left sent lost there _ passage =>
    obtain ⟨enrolled, lasting, _, still⟩ := due.enrolled_of_run
    have settled := Traffic.settle_owned_of_lasting (before.put tenure.place
      { pool with healthy := pool.healthy && !lost } left) enrolled lasting still
    have put := Traffic.put_owned_of_same { pool with healthy := pool.healthy && !lost } left there
      rfl
    refine ⟨[], [], balances_of_owned passage (settled.trans put) ?_⟩
    rw [openings_append, openings_sent]
    cases lost <;> rfl
  | kept number tenure pool there =>
    obtain ⟨enrolled, lasting⟩ := due.enrolled_of_giveBack
    exact ⟨[], [], balances_of_kept enrolled lasting there⟩
  | closed number tenure discarded pool left there _ passage =>
    obtain ⟨enrolled, lasting⟩ := due.enrolled_of_giveBack
    exact ⟨[], _, balances_of_closed enrolled lasting there passage⟩
  | borrowed _ _ _ _ left passage =>
    exact ⟨[], [], balances_of_owned passage (.refl _) rfl⟩
  | spoiled tenure left passage =>
    exact ⟨[], [], .of_owned passage.growth (.refl _), fun honest => absurd rfl (honest tenure),
      rfl⟩

/-- A caller who closes the connection that was lent. -/
def Moment.Spoils (moment : Moment) : Prop :=
  ∃ number, moment = .turn (.spoil number)

theorem Due.honest {tenures : List Tenure} {moment : Moment} (due : Due tenures moment operation)
    (honest : ¬ moment.Spoils) (tenure : Tenure) : operation ≠ .spoil tenure := by
  rintro rfl
  cases due with
  | spoil number => exact honest ⟨number, rfl⟩

namespace Traffic

theorem samePools_owned {router : Router} (traffic : Traffic σ)
    (same : traffic.router.SamePools router) :
    (traffic.passedOn router).owned = traffic.owned := by
  unfold owned
  rw [passedOn_router, same.idle]
  rfl

/-- The balance of one moment. -/
theorem moment_shifts (engine : Engine σ) (moment : Moment) (traffic : Traffic σ) :
    ∃ gained shut, traffic.Shifts (moment.perform engine traffic).2 gained shut ∧
      (¬ moment.Spoils → (moment.perform engine traffic).2.world.closed.Perm
        (shut.map Prod.snd ++ traffic.world.closed)) ∧
      openings (moment.occurrences engine traffic) = gained := by
  obtain ⟨operation, router, same, due, happens⟩ := moment.course engine traffic
  obtain ⟨gained, shut, balances⟩ := balances_of_happens due happens
  have passed : traffic.Shifts (traffic.passedOn router) [] [] :=
    .of_owned (Nat.le_refl _) (by rw [samePools_owned traffic same])
  have shifts := passed.trans balances.shifts
  rw [List.nil_append, List.nil_append] at shifts
  exact ⟨gained, shut, shifts, fun honest => balances.closings (due.honest honest),
    balances.opened⟩

/-- The balance of a run. -/
theorem run_shifts (engine : Engine σ) (moments : List Moment) (traffic : Traffic σ) :
    ∃ gained shut, traffic.Shifts (run engine moments traffic) gained shut ∧
      ((∀ moment ∈ moments, ¬ moment.Spoils) → (run engine moments traffic).world.closed.Perm
        (shut.map Prod.snd ++ traffic.world.closed)) ∧
      openings (occurrences engine moments traffic) = gained := by
  induction moments generalizing traffic with
  | nil => exact ⟨[], [], .of_owned (Nat.le_refl _) (.refl _), fun _ => .refl _, rfl⟩
  | cons moment rest ih =>
    obtain ⟨gained, shut, first, closing, opened⟩ := moment_shifts engine moment traffic
    obtain ⟨more, others, second, closings, further⟩ := ih (moment.perform engine traffic).2
    refine ⟨gained ++ more, shut ++ others, first.trans second, ?_, ?_⟩
    · intro honest
      have early := closing (honest moment List.mem_cons_self)
      have late := closings fun other member => honest other (List.mem_cons_of_mem _ member)
      rw [List.perm_iff_count] at early late ⊢
      intro connection
      have now := early connection
      have later := late connection
      simp only [run, List.map_append, List.count_append] at now later ⊢
      omega
    · rw [occurrences, openings_append, opened, further]

end Traffic
end Querywright
