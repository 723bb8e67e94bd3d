import Querywright.Proofs.TransactionBlocks

/-! Each moment keeps the logs in order. An idle connection, and one of a tenure that is not inside a
transaction, has nothing unfinished in its log; the connection of an active transaction has its
block open. A connection that is to be discarded is expected to be anything. -/
namespace Querywright

variable {σ : Type}

def Purpose.IsOrdinary : Purpose → Prop
  | .single statement _ => Querywright.IsOrdinary statement
  | _ => True

/-- Callers leave the control of transactions to transactions. -/
def Moment.IsOrdinary : Moment → Prop
  | .turn (.start purpose) => purpose.IsOrdinary
  | .take purpose _ _ => purpose.IsOrdinary
  | .turn (.within _ statement _) => Querywright.IsOrdinary statement
  | .turn (.borrow _ statement _) => ¬ IsControl statement
  | _ => True

theorem IsHousekeeping.not_control {statement : Value} (housekeeping : IsHousekeeping statement) :
    ¬ IsControl statement := by
  rintro (rfl | ⟨ending, rfl⟩)
  · simp [IsHousekeeping, Dialect.foreignKeys, Pool.probe] at housekeeping
  · cases ending <;>
      simp [IsHousekeeping, Dialect.foreignKeys, Pool.probe, Ending.statement] at housekeeping

/-- A statement without placeholders is sent as it is. -/
theorem ordinary_of_unstyled {statement : Value}
    (same : ∀ style, Placeholder.statementInStyle style statement = .ok statement)
    (harmless : ¬ IsControl statement) : IsOrdinary statement := by
  intro style sent handed
  rw [same style] at handed
  cases handed
  exact harmless

theorem probe_ordinary : IsOrdinary Pool.probe := by
  apply ordinary_of_unstyled
  · intro style
    cases style <;> rfl
  · exact IsHousekeeping.not_control (.inr rfl)

/-- Control statements are the same in every style. -/
theorem control_inStyle {statement : Value} (control : IsControl statement)
    (style : PlaceholderStyle) :
    Placeholder.statementInStyle style statement = .ok statement := by
  rcases control with rfl | ⟨ending, rfl⟩
  · cases style <;> rfl
  · cases ending <;> cases style <;> rfl

theorem IsOrdinary.not_control {statement : Value} (ordinary : IsOrdinary statement) :
    ¬ IsControl statement := by
  intro control
  exact ordinary .questionMark statement (control_inStyle control .questionMark) control

theorem Dialect.inStyle_of_handedOver {dialect : Dialect} {statement parameters sent : Value}
    {values : List Value} (handed : dialect.handedOver statement parameters = .ok (sent, values)) :
    Placeholder.statementInStyle dialect.style statement = .ok sent := by
  unfold handedOver at handed
  cases styled : Placeholder.statementInStyle dialect.style statement with
  | error reason =>
    rw [styled] at handed
    cases handed
  | ok translated =>
    rw [styled] at handed
    cases given : parameters.items with
    | error reason =>
      rw [given] at handed
      cases handed
    | ok items =>
      rw [given] at handed
      cases handed
      rfl

theorem Purpose.IsOrdinary.question {purpose : Purpose} (ordinary : purpose.IsOrdinary)
    {statement parameters : Value} (asks : purpose.question? = some (statement, parameters)) :
    Querywright.IsOrdinary statement := by
  cases purpose with
  | single => cases asks; exact ordinary
  | probe => cases asks; exact probe_ordinary
  | loan | transaction => cases asks

/-- What the log of its connection has come to, as far as a tenure at this stage knows. -/
def Stage.expects (number : Nat) : Stage → Option (Option Nat)
  | .taken | .done false => some none
  | .inside => some (some number)
  | .done true | .past => none

namespace Traffic

def Transacts (traffic : Traffic σ) (number : Nat) : Prop :=
  ∃ tenure, traffic.tenures[number]? = some tenure ∧ tenure.purpose = .transaction

inductive Expects (traffic : Traffic σ) (connection : Nat) : Option Nat → Prop where
  | idle (place : Place) (member : connection ∈ traffic.router.idleAt place) :
      Expects traffic connection none
  | tenure (number : Nat) (tenure : Tenure) (state : Option Nat)
      (enrolled : traffic.tenures[number]? = some tenure) (mine : tenure.connection = connection)
      (expects : tenure.stage.expects number = some state) : Expects traffic connection state

/-- The logs of a run: nothing is sent on connections that are not there, and the others have come to
what is expected of them. -/
structure Orderly (traffic : Traffic σ) (seen : List Occurrence) : Prop where
  unsent : ∀ connection, traffic.world.targets.length < connection → logOf connection seen = []
  expected : ∀ connection state, traffic.Expects connection state →
    Bracketed traffic.Transacts state (logOf connection seen)
  bracketed : ∀ connection, ∃ state, Bracketed traffic.Transacts state (logOf connection seen)
  ordinary : ∀ tenure ∈ traffic.tenures, tenure.purpose.IsOrdinary

variable {traffic before after : Traffic σ} {connection : Nat} {state other : Option Nat}

theorem Expects.lasting {number : Nat} {tenure : Tenure}
    (expects : tenure.stage.expects number = some state) : tenure.stage ≠ .past := by
  intro past
  rw [past] at expects
  cases expects

theorem Expects.owner (expects : traffic.Expects connection state) :
    ∃ owner place, traffic.Owns owner place connection := by
  cases expects with
  | idle place member => exact ⟨.pool, place, member⟩
  | tenure number tenure _ enrolled mine expects =>
    exact ⟨.tenure number, tenure.place, tenure, enrolled, Expects.lasting expects, rfl, mine⟩

theorem Expects.known (sound : traffic.IsSound) (expects : traffic.Expects connection state) :
    connection ≤ traffic.world.targets.length := by
  obtain ⟨owner, place, owns⟩ := expects.owner
  exact sound.numbered _ (owned_of_owns owns)

theorem Expects.unique (sound : traffic.IsSound) (first : traffic.Expects connection state)
    (second : traffic.Expects connection other) : state = other := by
  cases first with
  | idle place member =>
    have idle : traffic.Owns .pool place connection := member
    cases second with
    | idle elsewhere present => rfl
    | tenure number tenure _ enrolled mine expects =>
      have owns : traffic.Owns (.tenure number) tenure.place connection :=
        ⟨tenure, enrolled, Expects.lasting expects, rfl, mine⟩
      cases (sound.one_owner idle owns).1
  | tenure number tenure _ enrolled mine expects =>
    have owns : traffic.Owns (.tenure number) tenure.place connection :=
      ⟨tenure, enrolled, Expects.lasting expects, rfl, mine⟩
    cases second with
    | idle place member =>
      have idle : traffic.Owns .pool place connection := member
      cases (sound.one_owner idle owns).1
    | tenure further another _ present same knows =>
      have number := sound.one_tenure owns
        ⟨another, present, Expects.lasting knows, rfl, same⟩
      subst number
      rw [enrolled] at present
      cases present
      rw [expects] at knows
      exact Option.some.inj knows

end Traffic

theorem logOf_append (connection : Nat) (seen more : List Occurrence) :
    logOf connection (seen ++ more) = logOf connection seen ++ logOf connection more :=
  List.filterMap_append

theorem mem_logOf {connection : Nat} {entry : Option Nat × Value} {seen : List Occurrence} :
    entry ∈ logOf connection seen ↔ .sent entry.1 connection entry.2 ∈ seen := by
  unfold logOf
  rw [List.mem_filterMap]
  constructor
  · rintro ⟨occurrence, member, found⟩
    cases occurrence with
    | sent issuer other statement =>
      unfold Occurrence.sentOn? at found
      dsimp only at found
      split at found
      · rename_i same
        cases found
        rwa [same] at member
      · cases found
    | opened | handedOut | raised | lost => cases found
  · intro member
    exact ⟨_, member, if_pos rfl⟩

namespace Traffic

variable {before after : Traffic σ} {seen more : List Occurrence}

/-- Statements that control no transaction, on new connections and on those with nothing unfinished,
keep the logs in order. -/
theorem Orderly.of_quiet (orderly : before.Orderly seen) (sound : before.IsSound)
    (growth : before.world.targets.length ≤ after.world.targets.length)
    (transacts : ∀ number, before.Transacts number → after.Transacts number)
    (ordinary : ∀ tenure ∈ after.tenures, tenure.purpose.IsOrdinary)
    (quiet : ∀ issuer connection statement, .sent issuer connection statement ∈ more →
      ¬ IsControl statement ∧ (before.world.targets.length < connection ∧
        connection ≤ after.world.targets.length ∨ before.Expects connection none))
    (expected : ∀ connection state, after.Expects connection state →
      before.Expects connection state ∨
        state = none ∧ before.world.targets.length < connection) :
    after.Orderly (seen ++ more) := by
  have enlarged (connection : Nat) (bracketed : Bracketed before.Transacts none
      (logOf connection seen)) :
      Bracketed after.Transacts none (logOf connection (seen ++ more)) := by
    rw [logOf_append]
    refine (bracketed.mono transacts).extend _ ?_
    intro entry member
    exact (quiet entry.1 connection entry.2 (mem_logOf.mp member)).1
  have new (connection : Nat) (above : before.world.targets.length < connection) :
      Bracketed after.Transacts none (logOf connection (seen ++ more)) := by
    apply enlarged
    rw [orderly.unsent connection above]
    exact .empty
  have silent (connection : Nat) (log : logOf connection more = []) {state : Option Nat}
      (bracketed : Bracketed before.Transacts state (logOf connection seen)) :
      Bracketed after.Transacts state (logOf connection (seen ++ more)) := by
    rw [logOf_append, log, List.append_nil]
    exact bracketed.mono transacts
  -- Whatever is sent on a connection tells that it is new or has nothing unfinished.
  have spoken (connection : Nat) (log : logOf connection more ≠ []) :
      before.world.targets.length < connection ∧ connection ≤ after.world.targets.length ∨
        before.Expects connection none := by
    obtain ⟨entry, member⟩ := List.exists_mem_of_ne_nil _ log
    exact (quiet entry.1 connection entry.2 (mem_logOf.mp member)).2
  constructor
  case unsent =>
    intro connection above
    have below := growth.trans_lt above
    rw [logOf_append, orderly.unsent connection below, List.nil_append]
    by_contra log
    rcases spoken connection log with ⟨_, bound⟩ | idle
    · omega
    · have known := idle.known sound
      omega
  case expected =>
    intro connection state expects
    rcases expected connection state expects with old | ⟨rfl, above⟩
    · by_cases log : logOf connection more = []
      · exact silent connection log (orderly.expected connection state old)
      · rcases spoken connection log with ⟨above, _⟩ | idle
        · have known := old.known sound
          omega
        · obtain rfl := old.unique sound idle
          exact enlarged connection (orderly.expected connection none idle)
    · exact new connection above
  case bracketed =>
    intro connection
    by_cases log : logOf connection more = []
    · obtain ⟨state, bracketed⟩ := orderly.bracketed connection
      exact ⟨state, silent connection log bracketed⟩
    · rcases spoken connection log with ⟨above, _⟩ | idle
      · exact ⟨none, new connection above⟩
      · exact ⟨none, enlarged connection (orderly.expected connection none idle)⟩
  case ordinary => exact ordinary

/-- What becomes of expectations when one tenure comes to another stage. -/
theorem Expects.settled (sound : before.IsSound) {place : Place} {pool other : Pool}
    {left : World σ} {number connection : Nat} {tenure : Tenure} {stage : Stage}
    {state : Option Nat} (there : before.router.pool? place = some pool)
    (same : other.idle = pool.idle) (enrolled : before.tenures[number]? = some tenure)
    (lasting : tenure.stage ≠ .past)
    (expects : ((before.put place other left).settle number stage).Expects connection state) :
    connection = tenure.connection ∧ stage.expects number = some state ∨
      connection ≠ tenure.connection ∧ before.Expects connection state := by
  have owns : before.Owns (.tenure number) tenure.place tenure.connection :=
    ⟨tenure, enrolled, lasting, rfl, rfl⟩
  cases expects with
  | idle elsewhere member =>
    have present : connection ∈ before.router.idleAt elsewhere := by
      rw [settle_router, put_router, Router.idleAt_replace other there] at member
      split at member
      · rename_i here
        rwa [here, Router.idleAt_of_pool? there, ← same]
      · exact member
    refine .inr ⟨?_, .idle elsewhere present⟩
    rintro rfl
    have idle : before.Owns .pool elsewhere tenure.connection := present
    cases (sound.one_owner idle owns).1
  | tenure further another _ present mine knows =>
    rw [settle_getElem?, put_tenures] at present
    split at present
    · rename_i own
      subst own
      rw [enrolled] at present
      cases present
      exact .inl ⟨mine.symm, knows⟩
    · rename_i different
      refine .inr ⟨?_, .tenure further another state present mine knows⟩
      intro clash
      exact different (sound.one_tenure
        ⟨another, present, Expects.lasting knows, rfl, mine.trans clash⟩ owns)

/-- One tenure sends one statement at most, and comes to another stage. -/
theorem Orderly.of_run (orderly : before.Orderly seen) (sound : before.IsSound) {place : Place}
    {pool other : Pool} {left : World σ} {number : Nat} {tenure : Tenure} {stage : Stage}
    (there : before.router.pool? place = some pool) (same : other.idle = pool.idle)
    (enrolled : before.tenures[number]? = some tenure) (lasting : tenure.stage ≠ .past)
    (growth : before.world.targets.length ≤ left.targets.length)
    (transacts : ∀ further, before.Transacts further →
      ((before.put place other left).settle number stage).Transacts further)
    (ordinary : ∀ tenure ∈ ((before.put place other left).settle number stage).tenures,
      tenure.purpose.IsOrdinary)
    (elsewhere : ∀ connection, connection ≠ tenure.connection → logOf connection more = [])
    (reached : ∃ state, Bracketed before.Transacts state (logOf tenure.connection seen ++
      logOf tenure.connection more) ∧
        ∀ expectation, stage.expects number = some expectation → expectation = state) :
    ((before.put place other left).settle number stage).Orderly (seen ++ more) := by
  have owns : before.Owns (.tenure number) tenure.place tenure.connection :=
    ⟨tenure, enrolled, lasting, rfl, rfl⟩
  have known : tenure.connection ≤ before.world.targets.length :=
    sound.numbered _ (owned_of_owns owns)
  have others (connection : Nat) (different : connection ≠ tenure.connection) :
      logOf connection (seen ++ more) = logOf connection seen := by
    rw [logOf_append, elsewhere connection different, List.append_nil]
  obtain ⟨state, bracketed, knows⟩ := reached
  have bracketed := bracketed.mono transacts
  rw [← logOf_append] at bracketed
  constructor
  case unsent =>
    intro connection above
    have higher : before.world.targets.length < connection := growth.trans_lt above
    rw [others connection (by omega)]
    exact orderly.unsent connection higher
  case expected =>
    intro connection expectation expects
    rcases expects.settled sound there same enrolled lasting with ⟨rfl, mine⟩ | ⟨different, old⟩
    · rw [knows expectation mine]
      exact bracketed
    · rw [others connection different]
      exact (orderly.expected connection expectation old).mono transacts
  case bracketed =>
    intro connection
    by_cases same : connection = tenure.connection
    · subst same
      exact ⟨state, bracketed⟩
    · rw [others connection same]
      obtain ⟨old, bracketed⟩ := orderly.bracketed connection
      exact ⟨old, bracketed.mono transacts⟩
  case ordinary => exact ordinary

end Traffic

/-- What a run does to the log of its connection, whether its statement is sent or not. -/
theorem run_brackets {transacts : Nat → Prop} {log : Log} {tenures : List Tenure} {moment : Moment}
    {number : Nat} {tenure : Tenure} {statement parameters : Value} {answered failed : Stage}
    (due : Due tenures moment (.run number tenure statement parameters answered failed))
    (ordinary : moment.IsOrdinary) (purposes : ∀ tenure ∈ tenures, tenure.purpose.IsOrdinary)
    (enlisted : tenure.purpose = .transaction → transacts number)
    (expected : ∀ state, tenure.stage.expects number = some state →
      Bracketed transacts state log) :
    (∃ state, Bracketed transacts state log ∧
      ∀ expectation, failed.expects number = some expectation → expectation = state) ∧
    ∀ style sent, Placeholder.statementInStyle style statement = .ok sent →
      ∃ state, Bracketed transacts state (log ++ [(some number, sent)]) ∧
        (∀ expectation, answered.expects number = some expectation → expectation = state) ∧
        ∀ expectation, failed.expects number = some expectation → expectation = state := by
  cases due with
  | single _ _ _ _ enrolled purpose stage =>
    rw [stage] at expected
    have before := expected none rfl
    have harmless := (purposes tenure (List.mem_of_getElem? enrolled)).question purpose
    refine ⟨⟨none, before, by simp [Stage.expects]⟩, ?_⟩
    intro style sent handed
    refine ⟨none, .single log _ sent before (harmless style sent handed), ?_⟩
    simp [Stage.expects]
  | begin _ _ enrolled purpose stage =>
    rw [stage] at expected
    have before := expected none rfl
    refine ⟨⟨none, before, by simp [Stage.expects]⟩, ?_⟩
    intro style sent handed
    rw [control_inStyle (.inl rfl) style] at handed
    cases handed
    refine ⟨some number, .begun log number before (enlisted purpose), ?_⟩
    simp [Stage.expects]
  | within _ _ _ _ enrolled purpose stage =>
    rw [stage] at expected
    have before := expected (some number) rfl
    refine ⟨⟨some number, before, by simp [Stage.expects]⟩, ?_⟩
    intro style sent handed
    refine ⟨some number, .within log number sent before (ordinary style sent handed), ?_⟩
    simp [Stage.expects]
  | finish _ _ ending enrolled purpose stage =>
    rw [stage] at expected
    have before := expected (some number) rfl
    refine ⟨⟨some number, before, by simp [Stage.expects]⟩, ?_⟩
    intro style sent handed
    rw [control_inStyle (.inr ⟨ending, rfl⟩) style] at handed
    cases handed
    refine ⟨none, .ended log number ending before, ?_⟩
    simp [Stage.expects]

section Steps

variable {before after : Traffic σ} {operation : Operation} {seen more : List Occurrence}
  {moment : Moment}

theorem transacts_of_happens (happens : Happens before operation after more) {number : Nat}
    (transacts : before.Transacts number) : after.Transacts number := by
  obtain ⟨tenure, enrolled, purpose⟩ := transacts
  have outlives := tenure_of_happens happens enrolled
  unfold Traffic.Transacts
  generalize after.tenures[number]? = found at outlives ⊢
  cases outlives <;> exact ⟨_, rfl, purpose⟩

theorem ordinary_of_happens (due : Due before.tenures moment operation)
    (happens : Happens before operation after more) (ordinary : moment.IsOrdinary)
    (purposes : ∀ tenure ∈ before.tenures, tenure.purpose.IsOrdinary) :
    ∀ tenure ∈ after.tenures, tenure.purpose.IsOrdinary := by
  intro tenure member
  obtain ⟨number, enrolled⟩ := List.mem_iff_getElem?.mp member
  cases old : before.tenures[number]? with
  | some earlier =>
    have purpose := purposes earlier (List.mem_of_getElem? old)
    have outlives := tenure_of_happens happens old
    rw [enrolled] at outlives
    generalize found : some tenure = outcome at outlives
    cases outlives <;> cases found <;> exact purpose
  | none =>
    obtain ⟨purpose, place, whole, connection, pool, taking, new, -⟩ :=
      joined_of_happens happens enrolled old
    subst taking
    rw [new]
    cases due with
    | start | take => exact ordinary

theorem logOf_run {number connection : Nat} {tenure : Tenure} {sent : Value} :
    logOf connection [.sent (some number) tenure.connection sent] =
      if tenure.connection = connection then [(some number, sent)] else [] := by
  unfold logOf
  by_cases same : tenure.connection = connection
  · simp [Occurrence.sentOn?, same]
  · simp [Occurrence.sentOn?, same]

theorem orderly_of_took (sound : before.IsSound) (orderly : before.Orderly seen)
    {purpose : Purpose} {place : Place} {whole : Bool} {pool taken : Pool} {connection : Nat}
    {left : World σ} {gained shut : List Nat} {sent : List (Nat × Value)}
    (there : before.router.pool? place = some pool)
    (provision : Pool.Provision whole pool before.world connection taken left gained shut sent)
    (transacts : ∀ number, before.Transacts number →
      ((before.put place taken left).join ⟨purpose, place, connection, .taken⟩).Transacts number)
    (ordinary : ∀ tenure ∈
      ((before.put place taken left).join ⟨purpose, place, connection, .taken⟩).tenures,
        tenure.purpose.IsOrdinary) :
    ((before.put place taken left).join ⟨purpose, place, connection, .taken⟩).Orderly
      (seen ++ Pool.witnessed place gained sent [connection] []) := by
  apply orderly.of_quiet sound provision.passage.growth transacts ordinary
  · intro issuer other statement member
    have first := provision.first _ (Pool.sent_mem_witnessed member)
    have own := provision.first.housekeeping _ (Pool.sent_mem_witnessed member)
    exact ⟨own.not_control, .inl ⟨first.1, first.2.1⟩⟩
  · intro other state expects
    cases expects with
    | idle elsewhere member =>
      rw [Traffic.join_router, Traffic.put_router, Router.idleAt_replace taken there] at member
      refine .inl (.idle elsewhere ?_)
      split at member
      · rename_i here
        rw [here, Router.idleAt_of_pool? there]
        exact provision.kept.subset member
      · exact member
    | tenure number tenure _ enrolled mine expects =>
      rw [Traffic.join_tenures, Traffic.put_tenures, List.getElem?_append] at enrolled
      split at enrolled
      · exact .inl (.tenure number tenure state enrolled mine expects)
      · have new := List.mem_singleton.mp (List.mem_of_getElem? enrolled)
        subst new
        dsimp only at mine
        subst mine
        cases expects
        rcases provision.handing with fresh | ⟨healthy, idle⟩
        · have above := newcomers_fresh place provision.newcomers (Nat.le_refl _)
            provision.passage.targets
          exact .inr ⟨rfl, (above.1 (place, _) (List.mem_map.mpr ⟨_, fresh, rfl⟩)).1⟩
        · refine .inl (.idle place ?_)
          rwa [Router.idleAt_of_pool? there]

theorem orderly_of_upkept (sound : before.IsSound) (orderly : before.Orderly seen)
    {place : Place} {pool kept : Pool} {left : World σ} {gained shut : List Nat}
    {sent : List (Nat × Value)} {handed lost : List Nat}
    (there : before.router.pool? place = some pool)
    (upkeep : Pool.Upkeep pool before.world kept left gained shut sent handed lost) :
    (before.put place kept left).Orderly (seen ++ Pool.witnessed place gained sent handed lost) := by
  obtain ⟨made, enough, passage⟩ := upkeep.passage
  have idle (connection : Nat) (member : connection ∈ pool.idle) :
      before.Expects connection none := by
    refine .idle place ?_
    rwa [Router.idleAt_of_pool? there]
  refine orderly.of_quiet sound passage.growth (fun _ transacts => transacts) orderly.ordinary
    ?_ ?_
  · intro issuer connection statement member
    have present := Pool.sent_mem_witnessed member
    refine ⟨(upkeep.housekeeping _ present).not_control, ?_⟩
    rcases upkeep.addressed _ present with fresh | ⟨_, old⟩
    · exact .inl fresh
    · exact .inr (idle connection old)
  · intro connection state expects
    cases expects with
    | tenure number tenure _ enrolled mine expects =>
      exact .inl (.tenure number tenure state enrolled mine expects)
    | idle elsewhere member =>
      rw [Traffic.put_router, Router.idleAt_replace kept there] at member
      split at member
      · have origin := upkeep.balance.mem_iff.mp (List.mem_append_left shut member)
        rcases List.mem_append.mp origin with old | new
        · exact .inl (idle connection old)
        · have fresh := newcomers_fresh place upkeep.newcomers enough passage.targets
          exact .inr ⟨rfl, (fresh.1 (place, _) (List.mem_map.mpr ⟨_, new, rfl⟩)).1⟩
      · exact .inl (.idle elsewhere member)

/-- The log of a connection behind a run that may have failed before its statement was sent. -/
theorem logOf_raised {number connection : Nat} {tenure : Tenure} {statement : Value}
    {sent : List (Nat × Value)} {lost : Bool} :
    logOf connection (sent.map (Occurrence.sending (some number)) ++
      .raised number tenure.connection statement ::
        if lost then [.lost tenure.place tenure.connection] else []) =
      logOf connection (sent.map (Occurrence.sending (some number))) := by
  rw [logOf_append]
  cases lost <;> simp [logOf, Occurrence.sentOn?]

theorem orderly_of_silent (sound : before.IsSound) (orderly : before.Orderly seen)
    (growth : before.world.targets.length ≤ after.world.targets.length)
    (transacts : ∀ number, before.Transacts number → after.Transacts number)
    (purposes : ∀ tenure ∈ after.tenures, tenure.purpose.IsOrdinary)
    (expected : ∀ connection state, after.Expects connection state →
      before.Expects connection state) : after.Orderly (seen ++ []) := by
  apply orderly.of_quiet sound growth transacts purposes
  · intro issuer connection statement member
    cases member
  · intro connection state expects
    exact .inl (expected connection state expects)

/-- A connection given back to its pool has nothing unfinished. -/
theorem expects_of_kept {number : Nat} {tenure : Tenure} {pool : Pool}
    (due : Due before.tenures moment (.giveBack number tenure false))
    (there : before.router.pool? tenure.place = some pool) {connection : Nat}
    {state : Option Nat}
    (expects : ((before.put tenure.place { pool with idle := pool.idle ++ [tenure.connection] }
      before.world).settle number .past).Expects connection state) :
    before.Expects connection state := by
  have settled : tenure.stage.expects number = some none := by
    cases due with
    | giveBack _ _ _ enrolled stage =>
      rcases stage with done | ⟨_, lent, _⟩
      · rw [done]
        rfl
      · rw [lent]
        rfl
  have enrolled := due.enrolled_of_giveBack.1
  cases expects with
  | idle elsewhere member =>
    rw [Traffic.settle_router, Traffic.put_router, Router.idleAt_replace _ there] at member
    split at member
    · rename_i here
      rcases List.mem_append.mp member with old | new
      · refine .idle tenure.place ?_
        rwa [Router.idleAt_of_pool? there]
      · rw [List.mem_singleton.mp new]
        exact .tenure number tenure none enrolled rfl settled
    · exact .idle elsewhere member
  | tenure further another _ present mine knows =>
    rw [Traffic.settle_getElem?, Traffic.put_tenures] at present
    split at present
    · obtain ⟨_, _, rfl⟩ := Option.map_eq_some_iff.mp present
      cases knows
    · exact .tenure further another state present mine knows

/-- Each operation that is due keeps the logs in order. -/
theorem orderly_of_happens (sound : before.IsSound) (orderly : before.Orderly seen)
    (due : Due before.tenures moment operation) (ordinary : moment.IsOrdinary)
    (happens : Happens before operation after more) : after.Orderly (seen ++ more) := by
  have purposes := ordinary_of_happens due happens ordinary orderly.ordinary
  have transacts (number : Nat) (old : before.Transacts number) := transacts_of_happens happens old
  have brackets {number : Nat} {tenure : Tenure} {statement parameters : Value}
      {answered failed : Stage}
      (due : Due before.tenures moment
        (.run number tenure statement parameters answered failed)) :=
    run_brackets due ordinary orderly.ordinary
      (fun purpose => ⟨tenure, due.enrolled_of_run.1, purpose⟩)
      fun state expects => orderly.expected tenure.connection state
        (.tenure number tenure state due.enrolled_of_run.1 rfl expects)
  cases happens with
  | nothing =>
    rw [List.append_nil]
    exact orderly
  | took purpose place whole pool connection taken left gained shut sent there provision =>
    exact orderly_of_took sound orderly there provision transacts purposes
  | upkept _ place pool after left gained shut sent handed lost there upkeep =>
    exact orderly_of_upkept sound orderly there upkeep
  | marked place healthy pool there =>
    refine orderly_of_silent sound orderly (Nat.le_refl _) transacts purposes ?_
    intro connection state expects
    cases expects with
    | idle elsewhere member =>
      rw [Traffic.put_router, Router.idleAt_replace _ there] at member
      refine .idle elsewhere ?_
      split at member
      · rename_i here
        rwa [here, Router.idleAt_of_pool? there]
      · exact member
    | tenure number tenure _ enrolled mine knows =>
      exact .tenure number tenure state enrolled mine knows
  | answered number tenure statement parameters answered failed pool left sent values there handed
      passage =>
    obtain ⟨enrolled, lasting, -⟩ := due.enrolled_of_run
    obtain ⟨state, bracketed, reached, -⟩ :=
      (brackets due).2 _ sent (Dialect.inStyle_of_handedOver handed)
    refine orderly.of_run sound there rfl enrolled lasting passage.growth transacts purposes ?_ ?_
    · intro connection different
      rw [logOf_run, if_neg (Ne.symm different)]
    · refine ⟨state, ?_, reached⟩
      rw [logOf_run, if_pos rfl]
      exact bracketed
  | raised number tenure statement parameters answered failed pool left sent lost there handed
      passage =>
    obtain ⟨enrolled, lasting, -⟩ := due.enrolled_of_run
    refine orderly.of_run sound there rfl enrolled lasting passage.growth transacts purposes ?_ ?_
    · intro connection different
      rw [logOf_raised]
      rcases handed with none | ⟨_, _, _, one⟩
      · rw [none]
        rfl
      · rw [one]
        exact logOf_run.trans (if_neg (Ne.symm different))
    · rw [logOf_raised]
      rcases handed with none | ⟨statementSent, values, given, one⟩
      · rw [none]
        simpa [logOf] using (brackets due).1
      · obtain ⟨state, bracketed, -, reached⟩ :=
          (brackets due).2 _ statementSent (Dialect.inStyle_of_handedOver given)
        refine ⟨state, ?_, reached⟩
        rw [one]
        have log : logOf tenure.connection [Occurrence.sending (some number)
            (tenure.connection, statementSent)] = [(some number, statementSent)] :=
          logOf_run.trans (if_pos rfl)
        rw [List.map_singleton, log]
        exact bracketed
  | kept number tenure pool there healthy =>
    exact orderly_of_silent sound orderly (Nat.le_refl _) transacts purposes
      fun connection state expects => expects_of_kept due there expects
  | closed number tenure discarded pool left there closes passage =>
    obtain ⟨enrolled, lasting⟩ := due.enrolled_of_giveBack
    refine orderly_of_silent sound orderly passage.growth transacts purposes ?_
    intro connection state expects
    rcases expects.settled sound there rfl enrolled lasting with ⟨_, past⟩ | ⟨_, old⟩
    · cases past
    · exact old
  | borrowed number tenure statement arguments left passage =>
    cases due with
    | borrow _ _ _ _ enrolled writes purpose stage =>
      have lent : before.Expects tenure.connection none :=
        .tenure number tenure none enrolled rfl (by rw [stage]; rfl)
      apply orderly.of_quiet sound passage.growth transacts purposes
      · intro issuer connection sent member
        cases List.mem_singleton.mp member
        exact ⟨ordinary, .inr lent⟩
      · intro connection state expects
        cases expects with
        | idle place member => exact .inl (.idle place member)
        | tenure further another _ present mine knows =>
          exact .inl (.tenure further another state present mine knows)
  | spoiled tenure left passage =>
    refine orderly_of_silent sound orderly passage.growth transacts purposes ?_
    intro connection state expects
    cases expects with
    | idle place member => exact .idle place member
    | tenure further another _ present mine knows =>
      exact .tenure further another state present mine knows

end Steps
end Querywright
