import Querywright.Proofs.TransactionSteps

/-! Transactions in a run. The log of every connection consists of single statements and of blocks that
one transaction sent each; behind a control statement that failed nothing is sent on its
connection; and a transaction whose end was tried answers nothing any more. -/
namespace Querywright

variable {σ : Type}

section Steps

variable {before after : Traffic σ} {operation : Operation} {more : List Occurrence}
  {moment : Moment} {connection : Nat}

/-- Statements are sent on new connections and on those of which something is expected. -/
theorem sender_of_happens (due : Due before.tenures moment operation)
    (happens : Happens before operation after more) {issuer : Option Nat} {statement : Value}
    (member : .sent issuer connection statement ∈ more) :
    before.world.targets.length < connection ∨ ∃ state, before.Expects connection state := by
  have runner {number : Nat} {tenure : Tenure} {statement parameters : Value}
      {answered failed : Stage}
      (due : Due before.tenures moment
        (.run number tenure statement parameters answered failed)) :
      ∃ state, before.Expects tenure.connection state := by
    rcases due.ready_of_run with taken | inside
    · exact ⟨none, .tenure number tenure none due.enrolled_of_run.1 rfl (by rw [taken]; rfl)⟩
    · exact ⟨some number, .tenure number tenure _ due.enrolled_of_run.1 rfl (by rw [inside]; rfl)⟩
  cases happens with
  | nothing | marked | kept | closed | spoiled => cases member
  | took _ _ _ _ _ _ _ _ _ _ _ provision =>
    exact .inl (provision.first _ (Pool.sent_mem_witnessed member)).1
  | upkept _ place pool _ _ _ _ _ _ _ there upkeep =>
    rcases upkeep.addressed _ (Pool.sent_mem_witnessed member) with ⟨above, _⟩ | ⟨_, idle⟩
    · exact .inl above
    · refine .inr ⟨none, .idle place ?_⟩
      rwa [Router.idleAt_of_pool? there]
  | answered =>
    cases List.mem_singleton.mp member
    exact .inr (runner due)
  | raised number tenure statement _ _ _ _ _ sent lost _ handed =>
    rcases mem_of_raised member with ⟨sending, present, same⟩ | same | ⟨_, same⟩
    · rcases handed with none | ⟨_, _, _, one⟩
      · simp [none] at present
      · rw [one] at present
        rw [List.mem_singleton.mp present] at same
        cases same
        exact .inr (runner due)
    · cases same
    · cases same
  | borrowed number tenure =>
    cases List.mem_singleton.mp member
    cases due with
    | borrow _ _ _ _ enrolled writes purpose stage =>
      exact .inr ⟨none, .tenure number tenure none enrolled rfl (by rw [stage]; rfl)⟩

/-- A connection that is going to be closed, or that nobody owns any more. -/
inductive Traffic.Doomed (traffic : Traffic σ) (connection : Nat) : Prop where
  | retired (retired : traffic.Retired connection)
  | discarded (number : Nat) (tenure : Tenure)
      (enrolled : traffic.tenures[number]? = some tenure) (mine : tenure.connection = connection)
      (stage : tenure.stage = .done true)

theorem Traffic.Doomed.unexpected {traffic : Traffic σ} (doomed : traffic.Doomed connection)
    (sound : traffic.IsSound) : connection ≤ traffic.world.targets.length ∧
      ∀ state, ¬ traffic.Expects connection state := by
  cases doomed with
  | retired retired =>
    refine ⟨retired.known, ?_⟩
    intro state expects
    obtain ⟨owner, place, owns⟩ := expects.owner
    exact retired.unowned place (Traffic.owned_of_owns owns)
  | discarded number tenure enrolled mine stage =>
    have owns : traffic.Owns (.tenure number) tenure.place connection :=
      ⟨tenure, enrolled, by simp [stage], rfl, mine⟩
    refine ⟨sound.numbered _ (Traffic.owned_of_owns owns), ?_⟩
    intro state expects
    cases expects with
    | idle place member =>
      have idle : traffic.Owns .pool place connection := member
      cases (sound.one_owner idle owns).1
    | tenure further another _ present same knows =>
      have yours : traffic.Owns (.tenure further) another.place connection :=
        ⟨another, present, Traffic.Expects.lasting knows, rfl, same⟩
      have one := sound.one_tenure owns yours
      subst one
      rw [enrolled] at present
      cases present
      rw [stage] at knows
      cases knows

theorem doomed_of_happens (sound : before.IsSound) (due : Due before.tenures moment operation)
    (happens : Happens before operation after more) (doomed : before.Doomed connection) :
    after.Doomed connection := by
  obtain ⟨gained, shut, balances⟩ := balances_of_happens due happens
  cases doomed with
  | retired retired => exact .retired (balances.shifts.retired retired)
  | discarded number tenure enrolled mine stage =>
    have outlives := tenure_of_happens happens enrolled
    have unready {mine : Tenure} {statement parameters : Value} {answered failed : Stage}
        (own : operation = .run number mine statement parameters answered failed) : False := by
      rcases due.ready_of_own enrolled own with taken | inside
      · rw [stage] at taken
        cases taken
      · rw [stage] at inside
        cases inside
    generalize found : after.tenures[number]? = outcome at outlives
    cases outlives with
    | same => exact .discarded number tenure found mine stage
    | answered _ _ _ _ _ own => exact (unready own).elim
    | failed _ _ _ _ _ own => exact (unready own).elim
    | past another discarded own =>
      subst own
      have same := due.enrolled_of_giveBack.1
      rw [enrolled] at same
      cases same
      have closing : discarded = true := by
        cases due with
        | giveBack _ _ _ _ known =>
          rcases known with done | ⟨_, taken, _⟩
          · rw [stage] at done
            cases done
            rfl
          · rw [stage] at taken
            cases taken
      rw [← mine]
      exact .retired (retired_of_giveBack sound due happens enrolled found (.inl closing)).1

/-- Behind a control statement that failed, its connection is going to be closed. -/
theorem doomed_of_raised (due : Due before.tenures moment operation)
    (happens : Happens before operation after more) (ordinary : moment.IsOrdinary)
    (purposes : ∀ tenure ∈ before.tenures, tenure.purpose.IsOrdinary) {number : Nat}
    {statement : Value} (control : IsControl statement)
    (raised : .raised number connection statement ∈ more) : after.Doomed connection := by
  cases happens with
  | nothing | marked | kept | closed | spoiled => cases raised
  | took | upkept => exact (Pool.raised_mem_witnessed raised).elim
  | answered | borrowed => cases List.mem_singleton.mp raised
  | raised further tenure own parameters answered failed pool left sent lost there =>
    obtain ⟨same, mine⟩ : statement = own ∧ tenure.connection = connection := by
      rcases mem_of_raised raised with ⟨_, _, clash⟩ | same | ⟨_, clash⟩
      · cases clash
      · cases same
        exact ⟨rfl, rfl⟩
      · cases clash
    subst same
    have enrolled := due.enrolled_of_run.1
    have ended (stage : failed = .done true) : ((before.put tenure.place
        { pool with healthy := pool.healthy && !lost } left).settle further failed).Doomed
          connection := by
      refine .discarded further { tenure with stage := failed } ?_ mine stage
      rw [Traffic.settle_getElem?, if_pos rfl, Traffic.put_tenures, enrolled]
      rfl
    cases due with
    | single _ _ _ _ _ purpose =>
      have harmless := (purposes tenure (List.mem_of_getElem? enrolled)).question purpose
      exact (harmless.not_control control).elim
    | within => exact (IsOrdinary.not_control ordinary control).elim
    | begin | finish => exact ended rfl

/-- Every tenure has its pool. -/
def Traffic.IsSeated (traffic : Traffic σ) : Prop :=
  ∀ (number : Nat) (tenure : Tenure), traffic.tenures[number]? = some tenure →
    ∃ pool, traffic.router.pool? tenure.place = some pool

theorem seated_of_happens (happens : Happens before operation after more)
    (seated : before.IsSeated) : after.IsSeated := by
  intro number tenure enrolled
  cases old : before.tenures[number]? with
  | some earlier =>
    obtain ⟨pool, there⟩ := seated number earlier old
    have outlives := tenure_of_happens happens old
    rw [enrolled] at outlives
    generalize found : some tenure = outcome at outlives
    cases outlives <;> cases found <;> exact pool_of_happens happens there
  | none =>
    obtain ⟨purpose, place, whole, connection, pool, -, new, there⟩ :=
      joined_of_happens happens enrolled old
    rw [new]
    exact pool_of_happens happens there

/-- A transaction of which the end was tried, or of which the beginning failed. -/
def Traffic.HasEnded (traffic : Traffic σ) (number : Nat) : Prop :=
  ∃ tenure, traffic.tenures[number]? = some tenure ∧ tenure.purpose = .transaction ∧
    tenure.stage ≠ .taken ∧ tenure.stage ≠ .inside

theorem ended_of_happens (due : Due before.tenures moment operation)
    (happens : Happens before operation after more) {number : Nat}
    (ended : before.HasEnded number) : after.HasEnded number := by
  obtain ⟨tenure, enrolled, purpose, begun, outside⟩ := ended
  have outlives := tenure_of_happens happens enrolled
  have unready {mine : Tenure} {statement parameters : Value} {answered failed : Stage}
      (own : operation = .run number mine statement parameters answered failed) : False := by
    rcases due.ready_of_own enrolled own with taken | inside
    · exact begun taken
    · exact outside inside
  unfold Traffic.HasEnded
  generalize after.tenures[number]? = outcome at outlives ⊢
  cases outlives with
  | same => exact ⟨tenure, rfl, purpose, begun, outside⟩
  | answered _ _ _ _ _ own => exact (unready own).elim
  | failed _ _ _ _ _ own => exact (unready own).elim
  | past => exact ⟨_, rfl, purpose, by simp, by simp⟩

end Steps

namespace Traffic

variable {traffic : Traffic σ} {seen : List Occurrence}

theorem Expects.passedOn {router : Router} (same : traffic.router.SamePools router)
    {connection : Nat} {state : Option Nat}
    (expects : (traffic.passedOn router).Expects connection state) :
    traffic.Expects connection state := by
  cases expects with
  | idle place member =>
    rw [passedOn_router, same.idleAt] at member
    exact .idle place member
  | tenure number tenure _ enrolled mine knows =>
    exact .tenure number tenure state enrolled mine knows

theorem Orderly.passedOn {router : Router} (orderly : traffic.Orderly seen)
    (same : traffic.router.SamePools router) : (traffic.passedOn router).Orderly seen := by
  refine ⟨orderly.unsent, ?_, orderly.bracketed, orderly.ordinary⟩
  intro connection state expects
  exact orderly.expected connection state (expects.passedOn same)

theorem Doomed.passedOn {router : Router} {connection : Nat} (doomed : traffic.Doomed connection)
    (same : traffic.router.SamePools router) : (traffic.passedOn router).Doomed connection := by
  cases doomed with
  | retired retired => exact .retired (retired.passedOn same)
  | discarded number tenure enrolled mine stage =>
    exact .discarded number tenure enrolled mine stage

/-- One moment keeps the logs in order. -/
theorem moment_orderly (engine : Engine σ) (moment : Moment) (ordinary : moment.IsOrdinary)
    (sound : traffic.IsSound) (orderly : traffic.Orderly seen) :
    (moment.perform engine traffic).2.Orderly (seen ++ moment.occurrences engine traffic) := by
  obtain ⟨operation, router, same, due, happens⟩ := moment.course engine traffic
  exact orderly_of_happens (sound.passedOn same) (orderly.passedOn same) due ordinary happens

theorem run_orderly (engine : Engine σ) (moments : List Moment)
    (ordinary : ∀ moment ∈ moments, moment.IsOrdinary) (sound : traffic.IsSound)
    (orderly : traffic.Orderly seen) :
    (run engine moments traffic).Orderly (seen ++ occurrences engine moments traffic) := by
  induction moments generalizing traffic seen with
  | nil =>
    rw [occurrences, List.append_nil]
    exact orderly
  | cons moment rest ih =>
    have first := moment_orderly engine moment (ordinary moment List.mem_cons_self) sound orderly
    have later := ih (fun other member => ordinary other (List.mem_cons_of_mem _ member))
      (moment_sound engine moment sound) first
    rw [occurrences, ← List.append_assoc]
    exact later

theorem start_orderly {router : Router} (world : World σ)
    (empty : ∀ place, router.idleAt place = []) : Orderly ⟨router, world, []⟩ [] := by
  constructor
  case unsent => exact fun _ _ => rfl
  case expected =>
    intro connection state expects
    cases expects with
    | idle place member =>
      have absent : connection ∈ router.idleAt place := member
      rw [empty place] at absent
      cases absent
    | tenure number tenure _ enrolled => cases enrolled
  case bracketed => exact fun _ => ⟨none, .empty⟩
  case ordinary =>
    intro tenure member
    cases member

/-- Nothing is sent any more on a connection that is going to be closed. -/
theorem Doomed.silent (engine : Engine σ) {connection : Nat} (doomed : traffic.Doomed connection)
    (sound : traffic.IsSound) (moments : List Moment) (issuer : Option Nat) (statement : Value) :
    .sent issuer connection statement ∉ occurrences engine moments traffic := by
  induction moments generalizing traffic with
  | nil => exact List.not_mem_nil
  | cons moment rest ih =>
    obtain ⟨operation, router, same, due, happens⟩ := moment.course engine traffic
    have passed := doomed.passedOn same
    intro member
    rcases List.mem_append.mp member with now | later
    · obtain ⟨known, unexpected⟩ := passed.unexpected (sound.passedOn same)
      rcases sender_of_happens due happens now with above | ⟨state, expects⟩
      · exact Nat.not_lt.mpr known above
      · exact unexpected state expects
    · exact ih (doomed_of_happens (sound.passedOn same) due happens passed)
        (moment_sound engine moment sound) later

theorem run_seated (engine : Engine σ) (moments : List Moment) (seated : traffic.IsSeated) :
    (run engine moments traffic).IsSeated := by
  induction moments generalizing traffic with
  | nil => exact seated
  | cons moment rest ih =>
    obtain ⟨operation, router, same, due, happens⟩ := moment.course engine traffic
    refine ih (seated_of_happens happens ?_)
    intro number tenure enrolled
    obtain ⟨pool, there⟩ := seated number tenure enrolled
    exact ⟨pool, (same.pool? tenure.place).trans there⟩

theorem run_ended (engine : Engine σ) (moments : List Moment) {number : Nat}
    (ended : traffic.HasEnded number) : (run engine moments traffic).HasEnded number := by
  induction moments generalizing traffic with
  | nil => exact ended
  | cons moment rest ih =>
    obtain ⟨operation, router, same, due, happens⟩ := moment.course engine traffic
    exact ih (ended_of_happens due happens ended)

/-- A transaction that has been begun. -/
def HasBegun (traffic : Traffic σ) (number : Nat) : Prop :=
  ∃ tenure, traffic.tenures[number]? = some tenure ∧ tenure.purpose = .transaction ∧
    tenure.stage ≠ .taken

theorem settle_ended {number : Nat} {tenure : Tenure} (traffic : Traffic σ)
    (enrolled : traffic.tenures[number]? = some tenure) (purpose : tenure.purpose = .transaction)
    (discarded : Bool) : (traffic.settle number (.done discarded)).HasEnded number := by
  refine ⟨{ tenure with stage := .done discarded }, ?_, purpose, by simp, by simp⟩
  rw [settle_getElem?, if_pos rfl, enrolled]
  rfl

/-- Trying the end of a transaction ends it, whatever comes of the statement. -/
theorem HasBegun.finish (engine : Engine σ) {number : Nat} (begun : traffic.HasBegun number)
    (seated : traffic.IsSeated) (ending : Ending) :
    ((Moment.turn (.finish number ending)).perform engine traffic).2.HasEnded number := by
  obtain ⟨tenure, enrolled, purpose, begun⟩ := begun
  have operation : (Moment.turn (.finish number ending)).operation traffic =
      (tenure.finish number ending, traffic.router) := by
    show (traffic.operationOn number (Tenure.finish number ending), traffic.router) = _
    rw [operationOn, enrolled]
  unfold Moment.perform
  rw [operation]
  by_cases inside : tenure.stage = .inside
  · obtain ⟨pool, there⟩ := seated number tenure enrolled
    have running : tenure.finish number ending =
        .run number tenure (.text ending.statement) (.tuple []) (.done false) (.done true) := by
      rw [Tenure.finish, Tenure.inTransaction, purpose, inside]
    rw [running]
    dsimp only
    unfold Operation.perform
    dsimp only [Operation.place?]
    rw [Option.bind_some, passedOn_router, there]
    unfold Operation.onPool
    dsimp only
    split
    · exact settle_ended _ enrolled purpose true
    · exact settle_ended _ enrolled purpose false
  · have nothing : ∃ reply, tenure.finish number ending = .nothing reply := by
      unfold Tenure.finish Tenure.inTransaction
      rw [purpose]
      cases stage : tenure.stage with
      | taken => exact (begun stage).elim
      | inside => exact (inside stage).elim
      | done | past => exact ⟨_, rfl⟩
    obtain ⟨reply, nothing⟩ := nothing
    rw [nothing]
    exact ⟨tenure, enrolled, purpose, begun, inside⟩

end Traffic

/-- A statement inside a transaction, or the end of it. -/
def Moment.Tries (number : Nat) (moment : Moment) : Prop :=
  (∃ statement parameters, moment = .turn (.within number statement parameters)) ∨
    ∃ ending, moment = .turn (.finish number ending)

/-- A transaction that has ended answers that it has, and does nothing. -/
theorem Traffic.HasEnded.refuses {traffic : Traffic σ} {number : Nat} (engine : Engine σ)
    (ended : traffic.HasEnded number) {moment : Moment} (tries : moment.Tries number) :
    moment.perform engine traffic = (.error .transactionOver, traffic) ∧
      moment.occurrences engine traffic = [] := by
  obtain ⟨tenure, enrolled, purpose, begun, outside⟩ := ended
  have past (operation : Operation) :
      tenure.inTransaction operation = .nothing (.error .transactionOver) := by
    unfold Tenure.inTransaction
    rw [purpose]
    cases stage : tenure.stage with
    | taken => exact (begun stage).elim
    | inside => exact (outside stage).elim
    | done | past => rfl
  have refused : moment.operation traffic =
      (.nothing (.error .transactionOver), traffic.router) := by
    rcases tries with ⟨statement, parameters, rfl⟩ | ⟨ending, rfl⟩
    · show (traffic.operationOn number (Tenure.within number statement parameters),
        traffic.router) = _
      rw [Traffic.operationOn, enrolled]
      exact congrArg (fun operation => (operation, traffic.router)) (past _)
    · show (traffic.operationOn number (Tenure.finish number ending), traffic.router) = _
      rw [Traffic.operationOn, enrolled]
      exact congrArg (fun operation => (operation, traffic.router)) (past _)
  constructor
  · unfold Moment.perform
    rw [refused]
    rfl
  · unfold Moment.occurrences
    rw [refused]
    dsimp only
    unfold Operation.occurrences Operation.perform
    rw [Operation.sentBetween_eq _ (World.Passes.refl _)]
    rfl

/-- From a router without idle connections, in every run in which callers leave the control of
transactions to transactions: each log is a list of single statements and of blocks, each of one
transaction, only the last of which may be unfinished; behind a control statement that failed
nothing is sent on its connection; and once the end of a transaction was tried, every further try
is refused and does nothing. -/
theorem transactions_bracketed (engine : Engine σ) (router : Router) (world : World σ)
    (moments : List Moment) (empty : ∀ place, router.idleAt place = [])
    (ordinary : ∀ moment ∈ moments, moment.IsOrdinary) :
    let traffic := Traffic.run engine moments ⟨router, world, []⟩
    (∀ connection, ∃ segments : List Segment,
      logOf connection (Traffic.occurrences engine moments ⟨router, world, []⟩) =
        segments.flatMap Segment.sendings ∧
      (∀ segment ∈ segments.dropLast, segment.IsFinished) ∧
      ∀ segment ∈ segments, segment.IsProper traffic.Transacts) ∧
    (∀ moment : Moment, moment.IsOrdinary → ∀ number connection statement,
      IsControl statement → .raised number connection statement ∈ moment.occurrences engine traffic →
      ∀ later issuer other, .sent issuer connection other ∉
        Traffic.occurrences engine later (moment.perform engine traffic).2) ∧
    ∀ number ending, traffic.HasBegun number → ∀ (later : List Moment) (moment : Moment),
      moment.Tries number →
      let ended := Traffic.run engine later
        ((Moment.turn (.finish number ending)).perform engine traffic).2
      moment.perform engine ended = (.error .transactionOver, ended) ∧
        moment.occurrences engine ended = [] := by
  intro traffic
  have sound : traffic.IsSound := Traffic.run_sound engine moments (Traffic.start_sound world empty)
  have orderly := Traffic.run_orderly engine moments ordinary (Traffic.start_sound world empty)
    (Traffic.start_orderly world empty)
  rw [List.nil_append] at orderly
  refine ⟨?_, ?_, ?_⟩
  · intro connection
    obtain ⟨state, bracketed⟩ := orderly.bracketed connection
    obtain ⟨finished, inner, shape, ended, proper⟩ := bracketed.segments
    refine ⟨_, shape, ?_, proper⟩
    intro segment member
    apply ended
    cases state with
    | none =>
      rw [Bracketed.pending, Option.toList_none, List.map_nil, List.append_nil] at member
      exact List.dropLast_subset finished member
    | some number =>
      rw [Bracketed.pending, Option.toList_some, List.map_singleton, List.dropLast_concat]
        at member
      exact member
  · intro moment plain number connection statement control raised later issuer other
    obtain ⟨operation, router, same, due, happens⟩ := moment.course engine traffic
    have doomed := doomed_of_raised due happens plain orderly.ordinary control raised
    exact doomed.silent engine (Traffic.moment_sound engine moment sound) later issuer other
  · intro number ending begun later moment tries
    have seated : traffic.IsSeated := by
      refine Traffic.run_seated engine moments ?_
      intro number tenure enrolled
      cases enrolled
    have ended := Traffic.run_ended engine later (begun.finish engine seated ending)
    exact ended.refuses engine tries

open Rehearsal in
theorem attemptedCommit_bracketed :
    (∀ place, uncommitting.router.idleAt place = []) ∧
      (∀ moment ∈ attemptedCommit, moment.IsOrdinary) ∧
      (logOf 1 (Traffic.occurrences engine attemptedCommit
        ⟨uncommitting.router, uncommitting.world, []⟩)).map Prod.fst =
          [none, none, some 0, some 0] ∧
      ∃ segments : List Segment,
        logOf 1 (Traffic.occurrences engine attemptedCommit
          ⟨uncommitting.router, uncommitting.world, []⟩) = segments.flatMap Segment.sendings ∧
        (∀ segment ∈ segments.dropLast, segment.IsFinished) ∧
        ∀ segment ∈ segments, segment.IsProper uncommitted.Transacts := by
  have empty : ∀ place, uncommitting.router.idleAt place = [] :=
    traffic_empty "sqlite:///a.db" .sqlite _
  have question : IsOrdinary (.text "SELECT 2") := by
    apply ordinary_of_unstyled
    · intro style
      cases style <;> rfl
    · rintro (same | ⟨ending, same⟩)
      · simp at same
      · cases ending <;> simp [Ending.statement] at same
  have ordinary : ∀ moment ∈ attemptedCommit, moment.IsOrdinary := by
    simpa [attemptedCommit, Moment.IsOrdinary, Purpose.IsOrdinary] using question
  obtain ⟨bracketed, -, -⟩ := transactions_bracketed engine uncommitting.router
    uncommitting.world attemptedCommit empty ordinary
  exact ⟨empty, ordinary, by cbv, bracketed 1⟩

end Querywright
