import Querywright.Proofs.PoolUpkeep

/-! One moment of the traffic, read backwards: which operation was due, what it did to the pool at its
place, to the world and to the tenures, and what was seen of it. -/
namespace Querywright

variable {σ : Type}

namespace Router

/-- Two states of a router that differ in whose turn it is at most. -/
def SamePools (before after : Router) : Prop :=
  after.primaries = before.primaries ∧ after.replicas = before.replicas

variable {before after router : Router}

theorem SamePools.refl (router : Router) : SamePools router router :=
  ⟨rfl, rfl⟩

theorem SamePools.pools (same : SamePools before after) (side : Side) :
    after.pools side = before.pools side := by
  cases side with
  | primary => exact same.1
  | replica => exact same.2

theorem SamePools.pool? (same : SamePools before after) (place : Place) :
    after.pool? place = before.pool? place := by
  unfold Router.pool?
  rw [same.pools]

theorem SamePools.places (same : SamePools before after) : after.places = before.places := by
  unfold Router.places
  rw [same.1, same.2]

theorem dispatch_samePools (side : Side) (router : Router) :
    SamePools router (router.dispatch side).2 := by
  cases side <;> exact ⟨rfl, rfl⟩

theorem select_samePools (statement : Value) (router : Router) :
    SamePools router (router.select statement).2 := by
  unfold select
  split
  · exact .refl router
  · exact dispatch_samePools _ router

theorem pools_replace (place : Place) (pool : Pool) (router : Router) (side : Side) :
    (router.replace place pool).pools side =
      if side = place.side then (router.pools side).set place.index pool
      else router.pools side := by
  obtain ⟨there, index⟩ := place
  cases there <;> cases side <;> rfl

theorem pool?_replace {place : Place} {old : Pool} (pool : Pool)
    (there : router.pool? place = some old) (other : Place) :
    (router.replace place pool).pool? other =
      if other = place then some pool else router.pool? other := by
  unfold Router.pool? at there ⊢
  rw [pools_replace]
  obtain ⟨side, index⟩ := place
  obtain ⟨otherSide, otherIndex⟩ := other
  have inside := (List.getElem?_eq_some_iff.mp there).1
  dsimp only at there inside ⊢
  by_cases sameSide : otherSide = side
  · subst sameSide
    rw [if_pos rfl, List.getElem?_set]
    by_cases sameIndex : index = otherIndex
    · subst sameIndex
      rw [if_pos rfl, if_pos inside, if_pos rfl]
    · rw [if_neg sameIndex, if_neg (by simp [Ne.symm sameIndex])]
  · rw [if_neg sameSide, if_neg (by simp [sameSide])]

theorem places_replace (place : Place) (pool : Pool) (router : Router) :
    (router.replace place pool).places = router.places := by
  have primaries := congrArg List.length (pools_replace place pool router .primary)
  have replicas := congrArg List.length (pools_replace place pool router .replica)
  have lengths (side : Side) : (if side = place.side then (router.pools side).set place.index pool
      else router.pools side).length = (router.pools side).length := by
    split
    · exact List.length_set
    · rfl
  rw [lengths] at primaries replicas
  unfold Router.places
  rw [show (router.replace place pool).primaries.length = _ from primaries,
    show (router.replace place pool).replicas.length = _ from replicas]
  rfl

end Router

theorem Purpose.place_samePools (purpose : Purpose) (router : Router) :
    router.SamePools (purpose.place router).2 := by
  cases purpose with
  | single statement parameters =>
    have same := Router.select_samePools statement router
    unfold place
    dsimp only
    split
    · rename_i selected
      rwa [selected] at same
    · rename_i selected
      rwa [selected] at same
  | probe place => exact .refl router
  | loan writes => exact Router.dispatch_samePools _ router
  | transaction => exact Router.dispatch_samePools (router.sideFor true) router

/-- The statement of a call that sends one of its own. -/
def Purpose.question? : Purpose → Option (Value × Value)
  | .single statement parameters => some (statement, parameters)
  | .probe _ => some (Pool.probe, .tuple [])
  | _ => none

/-- The operations that a moment can come to, with what holds of the tenure that is concerned. -/
inductive Due (tenures : List Tenure) : Moment → Operation → Prop where
  | nothing (moment : Moment) (reply : Except Error Unit) : Due tenures moment (.nothing reply)
  | start (purpose : Purpose) (place : Place) :
      Due tenures (.turn (.start purpose)) (.take purpose place true)
  | take (purpose : Purpose) (place : Place) (whole : Bool) :
      Due tenures (.take purpose place whole) (.take purpose place whole)
  | single (number : Nat) (tenure : Tenure) (statement parameters : Value)
      (enrolled : tenures[number]? = some tenure)
      (purpose : tenure.purpose.question? = some (statement, parameters))
      (stage : tenure.stage = .taken) :
      Due tenures (.turn (.advance number))
        (.run number tenure statement parameters (.done false) (.done false))
  | begin (number : Nat) (tenure : Tenure) (enrolled : tenures[number]? = some tenure)
      (purpose : tenure.purpose = .transaction) (stage : tenure.stage = .taken) :
      Due tenures (.turn (.advance number))
        (.run number tenure (.text "BEGIN") (.tuple []) .inside (.done true))
  | within (number : Nat) (tenure : Tenure) (statement parameters : Value)
      (enrolled : tenures[number]? = some tenure)
      (purpose : tenure.purpose = .transaction) (stage : tenure.stage = .inside) :
      Due tenures (.turn (.within number statement parameters))
        (.run number tenure statement parameters .inside .inside)
  | finish (number : Nat) (tenure : Tenure) (ending : Ending)
      (enrolled : tenures[number]? = some tenure)
      (purpose : tenure.purpose = .transaction) (stage : tenure.stage = .inside) :
      Due tenures (.turn (.finish number ending))
        (.run number tenure (.text ending.statement) (.tuple []) (.done false) (.done true))
  | giveBack (number : Nat) (tenure : Tenure) (discarded : Bool)
      (enrolled : tenures[number]? = some tenure)
      (stage : tenure.stage = .done discarded ∨
        discarded = false ∧ tenure.stage = .taken ∧ ∃ writes, tenure.purpose = .loan writes) :
      Due tenures (.turn (.advance number)) (.giveBack number tenure discarded)
  | borrow (number : Nat) (tenure : Tenure) (statement : Value) (arguments : List Value)
      (enrolled : tenures[number]? = some tenure) (writes : Bool)
      (purpose : tenure.purpose = .loan writes) (stage : tenure.stage = .taken) :
      Due tenures (.turn (.borrow number statement arguments))
        (.borrow number tenure statement arguments)
  | spoil (number : Nat) (tenure : Tenure) (enrolled : tenures[number]? = some tenure)
      (stage : tenure.stage = .taken) : Due tenures (.turn (.spoil number)) (.spoil tenure)
  | ping (place : Place) : Due tenures (.turn (.ping place)) (.ping place)
  | close (place : Place) : Due tenures (.turn (.close place)) (.close place)
  | mark (place : Place) (healthy : Bool) : Due tenures (.mark place healthy) (.mark place healthy)

namespace Due

variable {tenures : List Tenure}

theorem advance (number : Nat) (tenure : Tenure)
    (enrolled : tenures[number]? = some tenure) :
    Due tenures (.turn (.advance number)) (tenure.advance number) := by
  unfold Tenure.advance
  cases purpose : tenure.purpose <;> cases stage : tenure.stage <;> dsimp only
  case single.taken => exact .single number tenure _ _ enrolled (by rw [purpose]; rfl) stage
  case probe.taken => exact .single number tenure _ _ enrolled (by rw [purpose]; rfl) stage
  case loan.taken =>
    exact .giveBack number tenure false enrolled (.inr ⟨rfl, stage, _, purpose⟩)
  case transaction.taken => exact .begin number tenure enrolled purpose stage
  case single.done | probe.done | loan.done | transaction.done =>
    exact .giveBack number tenure _ enrolled (.inl stage)
  all_goals exact .nothing _ _

theorem inTransaction {moment : Moment} {operation : Operation} (tenure : Tenure)
    (inside : tenure.purpose = .transaction → tenure.stage = .inside →
      Due tenures moment operation) : Due tenures moment (tenure.inTransaction operation) := by
  unfold Tenure.inTransaction
  split
  · rename_i purpose stage
    exact inside purpose stage
  all_goals exact .nothing _ _

theorem ifLent {moment : Moment} {operation : Operation} (tenure : Tenure)
    (lent : ∀ writes, tenure.purpose = .loan writes → tenure.stage = .taken →
      Due tenures moment operation) : Due tenures moment (tenure.ifLent operation) := by
  unfold Tenure.ifLent
  split
  · rename_i writes purpose stage
    exact lent writes purpose stage
  · exact .nothing _ _

theorem operationOn {traffic : Traffic σ} {moment : Moment} {operation : Tenure → Operation}
    (number : Nat) (enrolled : ∀ tenure, traffic.tenures[number]? = some tenure →
      Due traffic.tenures moment (operation tenure)) :
    Due traffic.tenures moment (traffic.operationOn number operation) := by
  unfold Traffic.operationOn
  split
  · rename_i tenure found
    exact enrolled tenure found
  · exact .nothing _ _

/-- Only a tenure that holds its connection runs statements, and it goes on holding it. -/
theorem enrolled_of_run {moment : Moment} {number : Nat} {tenure : Tenure}
    {statement parameters : Value} {answered failed : Stage}
    (due : Due tenures moment (.run number tenure statement parameters answered failed)) :
    tenures[number]? = some tenure ∧ tenure.stage ≠ .past ∧ answered ≠ .past ∧
      failed ≠ .past := by
  cases due with
  | single _ _ _ _ enrolled purpose stage | begin _ _ enrolled purpose stage
  | within _ _ _ _ enrolled purpose stage | finish _ _ ending enrolled purpose stage =>
    exact ⟨enrolled, by simp [stage], by simp, by simp⟩

/-- Statements are run by tenures that have not come to their end. -/
theorem ready_of_run {moment : Moment} {number : Nat} {tenure : Tenure}
    {statement parameters : Value} {answered failed : Stage}
    (due : Due tenures moment (.run number tenure statement parameters answered failed)) :
    tenure.stage = .taken ∨ tenure.stage = .inside := by
  cases due with
  | single _ _ _ _ enrolled purpose stage | begin _ _ enrolled purpose stage => exact .inl stage
  | within _ _ _ _ enrolled purpose stage | finish _ _ ending enrolled purpose stage =>
    exact .inr stage

/-- Read from the tenure: its statement is the one that is run. -/
theorem ready_of_own {moment : Moment} {operation : Operation} {number : Nat}
    {tenure mine : Tenure} {statement parameters : Value} {answered failed : Stage}
    (due : Due tenures moment operation) (enrolled : tenures[number]? = some tenure)
    (own : operation = .run number mine statement parameters answered failed) :
    tenure.stage = .taken ∨ tenure.stage = .inside := by
  subst own
  have same := due.enrolled_of_run.1
  rw [enrolled] at same
  cases same
  exact due.ready_of_run

theorem enrolled_of_giveBack {moment : Moment} {number : Nat} {tenure : Tenure}
    {discarded : Bool} (due : Due tenures moment (.giveBack number tenure discarded)) :
    tenures[number]? = some tenure ∧ tenure.stage ≠ .past := by
  cases due with
  | giveBack _ _ _ enrolled stage =>
    refine ⟨enrolled, ?_⟩
    rcases stage with done | ⟨_, lent, _⟩
    · simp [done]
    · simp [lent]

end Due

theorem Moment.operation_due (moment : Moment) (traffic : Traffic σ) :
    traffic.router.SamePools (moment.operation traffic).2 ∧
      Due traffic.tenures moment (moment.operation traffic).1 := by
  cases moment with
  | take purpose place whole => exact ⟨.refl _, .take purpose place whole⟩
  | mark place healthy => exact ⟨.refl _, .mark place healthy⟩
  | turn next =>
    unfold operation
    dsimp only
    cases next with
    | start purpose =>
      have same := purpose.place_samePools traffic.router
      unfold Turn.operation
      dsimp only
      split
      · rename_i placed
        rw [placed] at same
        exact ⟨same, .nothing _ _⟩
      · rename_i place router placed
        rw [placed] at same
        exact ⟨same, .start purpose place⟩
    | advance number => exact ⟨.refl _, .operationOn number fun tenure => .advance number tenure⟩
    | within number statement parameters =>
      refine ⟨.refl _, .operationOn number fun tenure enrolled => ?_⟩
      refine .inTransaction tenure fun purpose stage => ?_
      split
      · exact .nothing _ _
      · exact .within number tenure statement parameters enrolled purpose stage
    | finish number ending =>
      refine ⟨.refl _, .operationOn number fun tenure enrolled => ?_⟩
      exact .inTransaction tenure fun purpose stage =>
        .finish number tenure ending enrolled purpose stage
    | borrow number statement arguments =>
      refine ⟨.refl _, .operationOn number fun tenure enrolled => ?_⟩
      exact .ifLent tenure fun writes purpose stage =>
        .borrow number tenure statement arguments enrolled writes purpose stage
    | spoil number =>
      refine ⟨.refl _, .operationOn number fun tenure enrolled => ?_⟩
      exact .ifLent tenure fun writes purpose stage => .spoil number tenure enrolled stage
    | ping place => exact ⟨.refl _, .ping place⟩
    | close place => exact ⟨.refl _, .close place⟩

/-- Late parts of an operation are no operation of their own. -/
def Operation.isWhole : Operation → Bool
  | .take _ _ whole => whole
  | .mark .. => false
  | _ => true

/-- What an operation does and what is seen of it. -/
inductive Happens (before : Traffic σ) : Operation → Traffic σ → List Occurrence → Prop where
  | nothing (operation : Operation) : Happens before operation before []
  | took (purpose : Purpose) (place : Place) (whole : Bool) (pool : Pool) (connection : Nat)
      (taken : Pool) (left : World σ) (gained shut : List Nat) (sent : List (Nat × Value))
      (there : before.router.pool? place = some pool)
      (provision :
        Pool.Provision whole pool before.world connection taken left gained shut sent) :
      Happens before (.take purpose place whole)
        ((before.put place taken left).join ⟨purpose, place, connection, .taken⟩)
        (Pool.witnessed place gained sent [connection] [])
  | upkept (operation : Operation) (place : Place) (pool after : Pool) (left : World σ)
      (gained shut : List Nat) (sent : List (Nat × Value)) (handed lost : List Nat)
      (there : before.router.pool? place = some pool)
      (upkeep : Pool.Upkeep pool before.world after left gained shut sent handed lost)
      (stale : operation.isWhole = true → pool.healthy = false →
        ∀ connection ∈ pool.idle, connection ∈ shut) :
      Happens before operation (before.put place after left)
        (Pool.witnessed place gained sent handed lost)
  | marked (place : Place) (healthy : Bool) (pool : Pool)
      (there : before.router.pool? place = some pool) :
      Happens before (.mark place healthy)
        (before.put place { pool with healthy := healthy } before.world) []
  | answered (number : Nat) (tenure : Tenure) (statement parameters : Value)
      (answered failed : Stage) (pool : Pool) (left : World σ) (sent : Value)
      (values : List Value) (there : before.router.pool? tenure.place = some pool)
      (handed : pool.dialect.handedOver statement parameters = .ok (sent, values))
      (passage : before.world.Passes left 0 [] [(tenure.connection, sent)]) :
      Happens before (.run number tenure statement parameters answered failed)
        ((before.put tenure.place pool left).settle number answered)
        [.sent (some number) tenure.connection sent]
  | raised (number : Nat) (tenure : Tenure) (statement parameters : Value)
      (answered failed : Stage) (pool : Pool) (left : World σ) (sent : List (Nat × Value))
      (lost : Bool) (there : before.router.pool? tenure.place = some pool)
      (handed : sent = [] ∨ ∃ statementSent values,
        pool.dialect.handedOver statement parameters = .ok (statementSent, values) ∧
          sent = [(tenure.connection, statementSent)])
      (passage : before.world.Passes left 0 [] sent) :
      Happens before (.run number tenure statement parameters answered failed)
        ((before.put tenure.place { pool with healthy := pool.healthy && !lost } left).settle
          number failed)
        (sent.map (Occurrence.sending (some number)) ++
          .raised number tenure.connection statement ::
            if lost then [.lost tenure.place tenure.connection] else [])
  | kept (number : Nat) (tenure : Tenure) (pool : Pool)
      (there : before.router.pool? tenure.place = some pool) (healthy : pool.healthy = true) :
      Happens before (.giveBack number tenure false)
        ((before.put tenure.place { pool with idle := pool.idle ++ [tenure.connection] }
          before.world).settle number .past) []
  | closed (number : Nat) (tenure : Tenure) (discarded : Bool) (pool : Pool) (left : World σ)
      (there : before.router.pool? tenure.place = some pool)
      (closes : discarded = true ∨ pool.healthy = false)
      (passage : before.world.Passes left 0 [tenure.connection] []) :
      Happens before (.giveBack number tenure discarded)
        ((before.put tenure.place pool left).settle number .past) []
  | borrowed (number : Nat) (tenure : Tenure) (statement : Value) (arguments : List Value)
      (left : World σ) (passage : before.world.Passes left 0 [] [(tenure.connection, statement)]) :
      Happens before (.borrow number tenure statement arguments) { before with world := left }
        [.sent (some number) tenure.connection statement]
  | spoiled (tenure : Tenure) (left : World σ)
      (passage : before.world.Passes left 0 [tenure.connection] []) :
      Happens before (.spoil tenure) { before with world := left } []

/-- What is seen of a statement that failed. -/
theorem mem_of_raised {number connection : Nat} {statement : Value} {place : Place}
    {sent : List (Nat × Value)} {lost : Bool} {occurrence : Occurrence}
    (member : occurrence ∈ sent.map (Occurrence.sending (some number)) ++
      .raised number connection statement :: if lost then [.lost place connection] else []) :
    (∃ sending ∈ sent, occurrence = .sending (some number) sending) ∨
      occurrence = .raised number connection statement ∨
        lost = true ∧ occurrence = .lost place connection := by
  rcases List.mem_append.mp member with early | late
  · obtain ⟨sending, present, rfl⟩ := List.mem_map.mp early
    exact .inl ⟨sending, present, rfl⟩
  · rcases List.mem_cons.mp late with same | last
    · exact .inr (.inl same)
    · cases lost with
      | false => cases last
      | true => exact .inr (.inr ⟨rfl, List.mem_singleton.mp last⟩)

namespace Operation

theorem sentBetween_eq {before after : World σ} {opened : Nat} {closed : List Nat}
    {sent : List (Nat × Value)} (issuer : Option Nat)
    (passage : before.Passes after opened closed sent) :
    sentBetween issuer before after = sent.map (Occurrence.sending issuer) := by
  unfold sentBetween
  rw [passage.sendings, List.drop_left]

variable {engine : Engine σ} {before : Traffic σ} {pool : Pool}

theorem take_happens (purpose : Purpose) (place : Place) (whole : Bool)
    (there : before.router.pool? place = some pool) :
    Happens before (.take purpose place whole)
      ((take purpose place whole).onPool engine pool before).2
      (sentBetween none before.world
        ((take purpose place whole).onPool engine pool before).2.world ++
          pool.takings engine place whole before.world) := by
  have providing := Pool.provide_provided engine whole pool before.world
  unfold onPool
  dsimp only
  generalize taking : pool.provide engine whole before.world = outcome at providing
  obtain ⟨result, taken, left⟩ := outcome
  cases result with
  | error reason =>
    obtain ⟨shut, sent, upkeep, nobody, dropped⟩ := providing.upkeep
    obtain ⟨made, _, passage⟩ := upkeep.passage
    rw [Pool.takings_of_error taking nobody]
    dsimp only
    rw [Traffic.put_world, sentBetween_eq none passage]
    exact .upkept _ place pool taken left [] shut sent [] [] there upkeep
      fun whole _ => by simp [dropped whole]
  | ok connection =>
    obtain ⟨gained, shut, sent, provision, newcomer⟩ := providing.provision
    rw [Pool.takings_of_ok taking newcomer provision.few]
    dsimp only
    rw [Traffic.join_world, Traffic.put_world, sentBetween_eq none provision.passage]
    have seen : sent.map (Occurrence.sending none) ++
        (gained.map (Occurrence.opened place) ++ [Occurrence.handedOut place connection]) =
          Pool.witnessed place gained sent [connection] [] := by
      simp [Pool.witnessed]
    rw [seen]
    exact .took purpose place whole pool connection taken left gained shut sent there provision

theorem run_happens (number : Nat) (tenure : Tenure) (statement parameters : Value)
    (answered failed : Stage) (there : before.router.pool? tenure.place = some pool) :
    Happens before (.run number tenure statement parameters answered failed)
      ((run number tenure statement parameters answered failed).onPool engine pool before).2
      (sentBetween (some number) before.world
        ((run number tenure statement parameters answered failed).onPool engine pool
          before).2.world ++
          (run number tenure statement parameters answered failed).noticed engine pool
            before.world) := by
  have ran := Pool.run_ran engine tenure.connection statement parameters pool before.world
  unfold onPool noticed
  dsimp only
  generalize running :
    pool.run engine tenure.connection statement parameters before.world = outcome at ran
  obtain ⟨report, after, left⟩ := outcome
  have marking := ran.marking
  have sending := ran.sending
  rw [Pool.losses_of_run running]
  dsimp only at marking sending ⊢
  cases report with
  | error reason =>
    obtain ⟨sent, handed, passage⟩ : ∃ sent : List (Nat × Value),
        (sent = [] ∨ ∃ statementSent values,
          pool.dialect.handedOver statement parameters = .ok (statementSent, values) ∧
            sent = [(tenure.connection, statementSent)]) ∧
          before.world.Passes left 0 [] sent := by
      rcases sending with ⟨silent, _⟩ | ⟨sent, values, handed, passage⟩
      · exact ⟨[], .inl rfl, silent⟩
      · exact ⟨_, .inr ⟨sent, values, handed, rfl⟩, passage⟩
    rw [Traffic.settle_world, Traffic.put_world, sentBetween_eq (some number) passage, marking]
    exact .raised number tenure statement parameters answered failed pool left sent _ there handed
      passage
  | ok report =>
    rcases sending with ⟨silent, reason, impossible⟩ | ⟨sent, values, handed, passage⟩
    · cases impossible
    · have same : after = pool := by simpa [Pool.isLoss] using marking
      dsimp only
      rw [Traffic.settle_world, Traffic.put_world, sentBetween_eq (some number) passage, same]
      exact .answered number tenure statement parameters answered failed pool left sent values
        there handed passage

theorem giveBack_happens (number : Nat) (tenure : Tenure) (discarded : Bool)
    (there : before.router.pool? tenure.place = some pool) :
    Happens before (.giveBack number tenure discarded)
      ((giveBack number tenure discarded).onPool engine pool before).2
      (sentBetween none before.world
        ((giveBack number tenure discarded).onPool engine pool before).2.world) := by
  unfold onPool
  dsimp only
  rw [Traffic.settle_world, Traffic.put_world]
  by_cases closes : discarded = true ∨ pool.healthy = false
  · have passage := World.discard_passes engine [tenure.connection] before.world
    rw [Pool.checkin_closed engine tenure.connection discarded pool before.world closes,
      sentBetween_eq none passage]
    exact .closed number tenure discarded pool _ there closes passage
  · obtain ⟨kept, healthy⟩ : discarded = false ∧ pool.healthy = true := by simpa using closes
    subst kept
    rw [Pool.checkin_kept engine tenure.connection pool before.world healthy,
      sentBetween_eq none (World.Passes.refl before.world)]
    exact .kept number tenure pool there healthy

/-- What happens to the pool at the place of an operation. -/
theorem onPool_happens (operation : Operation) {place : Place}
    (placed : operation.place? = some place) (there : before.router.pool? place = some pool) :
    Happens before operation (operation.onPool engine pool before).2
      (sentBetween operation.issuer? before.world (operation.onPool engine pool before).2.world ++
        operation.noticed engine pool before.world) := by
  cases operation with
  | nothing | borrow | spoil => cases placed
  | take purpose there' whole =>
    cases placed
    exact take_happens purpose place whole there
  | run number tenure statement parameters answered failed =>
    cases placed
    exact run_happens number tenure statement parameters answered failed there
  | giveBack number tenure discarded =>
    cases placed
    simpa [noticed, issuer?] using giveBack_happens number tenure discarded there
  | ping there' =>
    cases placed
    obtain ⟨gained, shut, sent, handed, lost, upkeep, seen, stale⟩ :=
      Pool.ping_upkeep engine place pool before.world
    obtain ⟨made, _, passage⟩ := upkeep.passage
    unfold onPool noticed
    dsimp only
    rw [Traffic.put_world, sentBetween_eq _ passage, seen]
    exact .upkept _ place pool _ _ gained shut sent handed lost there upkeep fun _ => stale
  | close there' =>
    cases placed
    have upkeep := Pool.close_upkeep engine pool before.world
    obtain ⟨made, _, passage⟩ := upkeep.passage
    unfold onPool noticed
    dsimp only
    rw [Traffic.put_world, sentBetween_eq _ passage]
    exact .upkept _ place pool _ _ [] pool.idle [] [] [] there upkeep fun _ _ _ member => member
  | mark there' healthy =>
    cases placed
    unfold onPool noticed
    dsimp only
    rw [Traffic.put_world, sentBetween_eq _ (World.Passes.refl before.world)]
    exact .marked place healthy pool there

theorem perform_of_pool? {operation : Operation} (placed : operation.place? = some place)
    (there : before.router.pool? place = some pool) :
    operation.perform engine before = operation.onPool engine pool before := by
  cases operation with
  | nothing | borrow | spoil => cases placed
  | take | run | giveBack | ping | close | mark =>
    cases placed
    unfold perform
    dsimp only [place?]
    rw [Option.bind_some, there]

theorem perform_of_none {operation : Operation} (placed : operation.place? = some place)
    (missing : before.router.pool? place = none) :
    operation.perform engine before = (.error (.misuse .rowTooShort), before) := by
  cases operation with
  | nothing | borrow | spoil => cases placed
  | take | run | giveBack | ping | close | mark =>
    cases placed
    unfold perform
    dsimp only [place?]
    rw [Option.bind_some, missing]

theorem perform_happens (engine : Engine σ) (operation : Operation) (before : Traffic σ) :
    Happens before operation (operation.perform engine before).2
      (operation.occurrences engine before) := by
  have onItsPool {place : Place} (placed : operation.place? = some place) :
      Happens before operation (operation.perform engine before).2
        (operation.occurrences engine before) := by
    unfold occurrences
    rw [placed, Option.bind_some]
    cases there : before.router.pool? place with
    | none =>
      rw [perform_of_none placed there]
      dsimp only
      rw [sentBetween_eq _ (World.Passes.refl before.world)]
      exact .nothing operation
    | some pool =>
      rw [perform_of_pool? placed there]
      exact onPool_happens operation placed there
  cases operation with
  | nothing reply =>
    unfold occurrences perform
    rw [sentBetween_eq _ (World.Passes.refl before.world)]
    exact .nothing _
  | borrow number tenure statement arguments =>
    unfold occurrences perform
    dsimp only [place?, issuer?]
    split
    · rw [sentBetween_eq _ (World.Passes.refl before.world)]
      exact .nothing _
    · have passage := World.execute_passes engine tenure.connection statement arguments before.world
      dsimp only
      rw [sentBetween_eq _ passage]
      exact .borrowed number tenure statement arguments _ passage
  | spoil tenure =>
    have passage := World.close_passes engine tenure.connection before.world
    unfold occurrences perform
    dsimp only
    rw [sentBetween_eq _ passage]
    exact .spoiled tenure _ passage
  | take | run | giveBack | ping | close | mark => exact onItsPool rfl

end Operation

/-- A moment is an operation that was due, behind which a side may have passed on its turn. -/
theorem Moment.course (engine : Engine σ) (moment : Moment) (traffic : Traffic σ) :
    ∃ operation router, traffic.router.SamePools router ∧
      Due (traffic.passedOn router).tenures moment operation ∧
      Happens (traffic.passedOn router) operation (moment.perform engine traffic).2
        (moment.occurrences engine traffic) := by
  obtain ⟨same, due⟩ := moment.operation_due traffic
  exact ⟨_, _, same, due, Operation.perform_happens engine _ _⟩

section Frames

variable {before after : Traffic σ} {operation : Operation} {seen : List Occurrence}

theorem Traffic.settle_getElem? (traffic : Traffic σ) (number other : Nat) (stage : Stage) :
    (traffic.settle number stage).tenures[other]? =
      if other = number then
        traffic.tenures[other]?.map fun tenure => { tenure with stage := stage }
      else traffic.tenures[other]? := by
  unfold settle
  dsimp only
  rw [List.getElem?_modify]
  by_cases same : other = number
  · simp [same]
  · simp [same, Ne.symm same]

/-- What becomes of a tenure: nothing, unless the operation is its own. -/
inductive Outlives (number : Nat) (tenure : Tenure) (operation : Operation) :
    Option Tenure → Prop where
  | same : Outlives number tenure operation (some tenure)
  | answered (mine : Tenure) (statement parameters : Value) (answered failed : Stage)
      (own : operation = .run number mine statement parameters answered failed) :
      Outlives number tenure operation (some { tenure with stage := answered })
  | failed (mine : Tenure) (statement parameters : Value) (answered failed : Stage)
      (own : operation = .run number mine statement parameters answered failed) :
      Outlives number tenure operation (some { tenure with stage := failed })
  | past (mine : Tenure) (discarded : Bool)
      (own : operation = .giveBack number mine discarded) :
      Outlives number tenure operation (some { tenure with stage := .past })

theorem tenure_of_happens (happens : Happens before operation after seen) {number : Nat}
    {tenure : Tenure} (enrolled : before.tenures[number]? = some tenure) :
    Outlives number tenure operation after.tenures[number]? := by
  cases happens with
  | nothing | borrowed | spoiled =>
    show Outlives number tenure _ before.tenures[number]?
    rw [enrolled]
    exact .same
  | upkept | marked =>
    rw [Traffic.put_tenures, enrolled]
    exact .same
  | took purpose place whole pool connection taken left =>
    rw [Traffic.join_tenures, Traffic.put_tenures,
      List.getElem?_append_left (List.getElem?_eq_some_iff.mp enrolled).1, enrolled]
    exact .same
  | answered other mine statement parameters answered failed =>
    rw [Traffic.settle_getElem?, Traffic.put_tenures, enrolled]
    split
    · rename_i own
      subst own
      exact .answered mine statement parameters answered failed rfl
    · exact .same
  | raised other mine statement parameters answered failed =>
    rw [Traffic.settle_getElem?, Traffic.put_tenures, enrolled]
    split
    · rename_i own
      subst own
      exact .failed mine statement parameters answered failed rfl
    · exact .same
  | kept other mine | closed other mine =>
    rw [Traffic.settle_getElem?, Traffic.put_tenures, enrolled]
    split
    · rename_i own
      subst own
      exact .past mine _ rfl
    · exact .same

/-- Only a taking adds a tenure. -/
theorem joined_of_happens (happens : Happens before operation after seen) {number : Nat}
    {tenure : Tenure} (enrolled : after.tenures[number]? = some tenure)
    (absent : before.tenures[number]? = none) :
    ∃ purpose place whole connection pool, operation = .take purpose place whole ∧
      tenure = ⟨purpose, place, connection, .taken⟩ ∧
      before.router.pool? place = some pool := by
  cases happens with
  | nothing | borrowed | spoiled =>
    have clash : before.tenures[number]? = some tenure := enrolled
    rw [absent] at clash
    cases clash
  | upkept | marked =>
    rw [Traffic.put_tenures, absent] at enrolled
    cases enrolled
  | answered | raised | kept | closed =>
    rw [Traffic.settle_getElem?, Traffic.put_tenures, absent] at enrolled
    split at enrolled <;> cases enrolled
  | took purpose place whole pool connection taken left gained shut sent there =>
    rw [Traffic.join_tenures, Traffic.put_tenures,
      List.getElem?_append_right (List.getElem?_eq_none_iff.mp absent)] at enrolled
    have new := List.mem_singleton.mp (List.mem_of_getElem? enrolled)
    exact ⟨purpose, place, whole, connection, pool, rfl, new, there⟩

/-- Pools do not go away. -/
theorem pool_of_happens (happens : Happens before operation after seen) {place : Place}
    {pool : Pool} (there : before.router.pool? place = some pool) :
    ∃ pool, after.router.pool? place = some pool := by
  have put (elsewhere : Place) (old new : Pool) (found : before.router.pool? elsewhere = some old) :
      ∃ pool, (before.router.replace elsewhere new).pool? place = some pool := by
    rw [Router.pool?_replace new found]
    split
    · exact ⟨new, rfl⟩
    · exact ⟨pool, there⟩
  cases happens with
  | nothing | borrowed | spoiled => exact ⟨pool, there⟩
  | took _ _ _ _ _ _ _ _ _ _ found | upkept _ _ _ _ _ _ _ _ _ _ found | marked _ _ _ found
  | answered _ _ _ _ _ _ _ _ _ _ found | raised _ _ _ _ _ _ _ _ _ _ found
  | kept _ _ _ found | closed _ _ _ _ _ found => exact put _ _ _ found

end Frames
end Querywright
