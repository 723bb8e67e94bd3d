import Querywright.Proofs.TrafficSteps

/-! The calls of a router and of its transactions, made one at a time, are the turns that the traffic
is made of: they leave the same router and the same world, and a transaction stands for a tenure. -/
namespace Querywright

variable {σ : Type}

namespace Router

variable {α : Type} {router taken ran : Router} {place : Place} {pool : Pool}
  {world opened left : World σ} {engine : Engine σ} {connection : Nat}
  {statement parameters : Value}

theorem act_of_pool? (action : Pool → World σ → Except Error α × Pool × World σ)
    (world : World σ) (there : router.pool? place = some pool) :
    router.act place action world = ((action pool world).1,
      router.replace place (action pool world).2.1, (action pool world).2.2) := by
  unfold act
  rw [there]

theorem act_of_none (action : Pool → World σ → Except Error α × Pool × World σ)
    (world : World σ) (missing : router.pool? place = none) :
    router.act place action world = (.error (.misuse .rowTooShort), router, world) := by
  unfold act
  rw [missing]

/-- An action that succeeds has a pool to work on. -/
theorem pool?_of_act {action : Pool → World σ → Except Error α × Pool × World σ} {value : α}
    (acting : router.act place action world = (.ok value, taken, opened)) :
    ∃ pool, router.pool? place = some pool ∧ (action pool world).1 = .ok value ∧
      taken = router.replace place (action pool world).2.1 ∧
      opened = (action pool world).2.2 := by
  cases there : router.pool? place with
  | none =>
    rw [act_of_none action world there] at acting
    cases acting
  | some pool =>
    rw [act_of_pool? action world there] at acting
    exact ⟨pool, rfl, congrArg Prod.fst acting, (congrArg (·.2.1) acting).symm,
      (congrArg (·.2.2) acting).symm⟩

theorem pool?_replace_self {old : Pool} (pool : Pool) (there : router.pool? place = some old) :
    (router.replace place pool).pool? place = some pool :=
  (pool?_replace pool there place).trans (if_pos rfl)

theorem replace_replace (place : Place) (pool other : Pool) (router : Router) :
    (router.replace place pool).replace place other = router.replace place other := by
  obtain ⟨side, index⟩ := place
  cases side <;> simp [replace]

theorem act_execute_of_refused {reason : Error}
    (taking : router.act place (Pool.checkout engine) world = (.error reason, taken, opened)) :
    router.act place (Pool.execute engine statement parameters) world =
      (.error reason, taken, opened) := by
  cases there : router.pool? place with
  | none =>
    rw [act_of_none _ _ there] at taking ⊢
    cases taking
    rfl
  | some pool =>
    rw [act_of_pool? _ _ there] at taking ⊢
    unfold Pool.execute
    generalize pool.checkout engine world = outcome at taking ⊢
    obtain ⟨result, taken, opened⟩ := outcome
    cases taking
    rfl

/-- A statement of its own, in the three parts of which others may come in between. -/
theorem act_execute_of_taken {result : Except Error Report}
    (taking : router.act place (Pool.checkout engine) world = (.ok connection, taken, opened))
    (running : taken.act place (Pool.run engine connection statement parameters) opened =
      (result, ran, left)) :
    router.act place (Pool.execute engine statement parameters) world =
      (result, ran.giveBack engine place connection false left) := by
  obtain ⟨pool, there, given, rfl, rfl⟩ := pool?_of_act taking
  have kept := pool?_replace_self (pool.checkout engine world).2.1 there
  rw [act_of_pool? _ _ kept] at running
  cases running
  rw [act_of_pool? _ _ there]
  unfold giveBack
  rw [act_of_pool? _ _ (pool?_replace_self _ kept), replace_replace, replace_replace]
  unfold Pool.execute
  generalize pool.checkout engine world = outcome at given ⊢
  obtain ⟨result, taken, opened⟩ := outcome
  cases given
  rfl

end Router

namespace Traffic

/-- What the calls of a router share with the traffic: the router and the world. -/
def state (traffic : Traffic σ) : Router × World σ :=
  (traffic.router, traffic.world)

/-- The tenure that the next taking begins. -/
def next (traffic : Traffic σ) : Nat :=
  traffic.tenures.length

def reaching (router : Router) (world : World σ) (traffic : Traffic σ) : Traffic σ :=
  { traffic with router := router, world := world }

variable {traffic : Traffic σ} {number : Nat} {tenure : Tenure} {router : Router}
  {world : World σ}

theorem next_unenrolled (traffic : Traffic σ) : traffic.tenures[traffic.next]? = none := by
  simp [next]

theorem join_next (tenure : Tenure) (traffic : Traffic σ) :
    (traffic.join tenure).tenures[traffic.next]? = some tenure := by
  simp [next]

theorem settle_enrolled (stage : Stage) (enrolled : traffic.tenures[number]? = some tenure) :
    (traffic.settle number stage).tenures[number]? = some { tenure with stage := stage } := by
  rw [settle_getElem?, if_pos rfl, enrolled]
  rfl

end Traffic

namespace Operation

variable {engine : Engine σ} {traffic : Traffic σ} {place : Place} {pool : Pool}
  {router : Router} {world : World σ} {reason : Error}

theorem take_of_refused (purpose : Purpose)
    (taking : traffic.router.act place (Pool.checkout engine) traffic.world =
      (.error reason, router, world)) :
    (take purpose place true).perform engine traffic =
      (.error reason, traffic.reaching router world) := by
  cases there : traffic.router.pool? place with
  | none =>
    rw [Router.act_of_none _ _ there] at taking
    cases taking
    exact perform_of_none rfl there
  | some pool =>
    rw [Router.act_of_pool? _ _ there] at taking
    rw [perform_of_pool? rfl there]
    unfold onPool Pool.provide
    dsimp only
    rw [if_pos rfl]
    generalize pool.checkout engine traffic.world = outcome at taking ⊢
    obtain ⟨result, taken, opened⟩ := outcome
    cases taking
    rfl

theorem take_of_taken (purpose : Purpose) {connection : Nat}
    (taking : traffic.router.act place (Pool.checkout engine) traffic.world =
      (.ok connection, router, world)) :
    (take purpose place true).perform engine traffic =
      (.ok (), (traffic.reaching router world).join ⟨purpose, place, connection, .taken⟩) := by
  obtain ⟨pool, there, given, rfl, rfl⟩ := Router.pool?_of_act taking
  rw [perform_of_pool? rfl there]
  unfold onPool Pool.provide
  dsimp only
  rw [if_pos rfl]
  generalize pool.checkout engine traffic.world = outcome at given ⊢
  obtain ⟨result, taken, opened⟩ := outcome
  cases given
  rfl

/-- A statement that is run: its tenure is behind it where the answer puts it. -/
theorem run_of_act (number : Nat) (tenure : Tenure) (statement parameters : Value)
    (answered failed : Stage) (there : traffic.router.pool? tenure.place = some pool)
    {result : Except Error Report}
    (running : traffic.router.act tenure.place
      (Pool.run engine tenure.connection statement parameters) traffic.world =
        (result, router, world)) :
    (run number tenure statement parameters answered failed).perform engine traffic =
      (result.map fun _ => (), (traffic.reaching router world).settle number
        (if result.toBool then answered else failed)) := by
  rw [Router.act_of_pool? _ _ there] at running
  rw [perform_of_pool? rfl there]
  unfold onPool
  dsimp only
  generalize pool.run engine tenure.connection statement parameters traffic.world = outcome
    at running ⊢
  cases running
  obtain ⟨result, ran, left⟩ := outcome
  cases result with
  | error reason => rfl
  | ok report => rfl

/-- An operation that does to a pool what an action of the router does. -/
theorem perform_alike {operation : Operation}
    {action : Pool → World σ → Except Error Unit × Pool × World σ}
    (placed : operation.place? = some place)
    (same : ∀ pool, (operation.onPool engine pool traffic).2.state =
      (traffic.router.replace place (action pool traffic.world).2.1,
        (action pool traffic.world).2.2)) :
    (operation.perform engine traffic).2.state =
      (traffic.router.act place action traffic.world).2 := by
  cases there : traffic.router.pool? place with
  | none =>
    rw [perform_of_none placed there, Router.act_of_none _ _ there]
    rfl
  | some pool =>
    rw [perform_of_pool? placed there, Router.act_of_pool? _ _ there]
    exact same pool

theorem giveBack_state (engine : Engine σ) (number : Nat) (tenure : Tenure) (discarded : Bool)
    (traffic : Traffic σ) :
    ((giveBack number tenure discarded).perform engine traffic).2.state =
      traffic.router.giveBack engine tenure.place tenure.connection discarded traffic.world := by
  show _ = (traffic.router.act tenure.place (fun pool world =>
    (.ok (), pool.checkin engine tenure.connection discarded world)) traffic.world).2
  exact perform_alike rfl fun _ => rfl

theorem giveBack_enrolled (engine : Engine σ) {number : Nat} {tenure : Tenure} (discarded : Bool)
    (there : traffic.router.pool? tenure.place = some pool)
    (enrolled : traffic.tenures[number]? = some tenure) :
    ((giveBack number tenure discarded).perform engine traffic).2.tenures[number]? =
      some { tenure with stage := .past } := by
  rw [perform_of_pool? rfl there]
  unfold onPool
  exact Traffic.settle_enrolled .past enrolled

end Operation

namespace Traffic

variable {engine : Engine σ} {traffic : Traffic σ} {number : Nat} {tenure : Tenure}
  {router : Router} {purpose : Purpose} {reason : Error} {place : Place}

theorem start_of_unplaced (placed : purpose.place traffic.router = (.error reason, router)) :
    (Moment.turn (.start purpose)).perform engine traffic =
      (.error reason, traffic.passedOn router) := by
  have due : (Moment.turn (.start purpose)).operation traffic =
      (.nothing (.error reason), router) := by
    unfold Moment.operation Turn.operation
    dsimp only
    rw [placed]
  unfold Moment.perform
  rw [due]
  rfl

theorem start_of_placed (placed : purpose.place traffic.router = (.ok place, router)) :
    (Moment.turn (.start purpose)).perform engine traffic =
      (Operation.take purpose place true).perform engine (traffic.passedOn router) := by
  have due : (Moment.turn (.start purpose)).operation traffic =
      (.take purpose place true, router) := by
    unfold Moment.operation Turn.operation
    dsimp only
    rw [placed]
  unfold Moment.perform
  rw [due]

theorem operationOn_enrolled (operation : Tenure → Operation)
    (enrolled : traffic.tenures[number]? = some tenure) :
    traffic.operationOn number operation = operation tenure := by
  unfold operationOn
  rw [enrolled]

theorem advance_enrolled (enrolled : traffic.tenures[number]? = some tenure) :
    (Moment.turn (.advance number)).perform engine traffic =
      (tenure.advance number).perform engine traffic := by
  show (traffic.operationOn number _).perform engine _ = _
  rw [operationOn_enrolled _ enrolled]
  rfl

theorem advance_unenrolled (absent : traffic.tenures[number]? = none) :
    ((Moment.turn (.advance number)).perform engine traffic).2 = traffic := by
  show ((traffic.operationOn number _).perform engine _).2 = _
  unfold operationOn
  rw [absent]
  rfl

/-- A call that takes a connection for itself, with the tenure that the taking begins. -/
def call (purpose : Purpose) (traffic : Traffic σ) : List Moment :=
  [.turn (.start purpose), .turn (.advance traffic.next), .turn (.advance traffic.next)]

/-- A call that gets no connection has come to its end. -/
theorem call_of_refused {left : Traffic σ} {reply : Except Error Unit}
    (started : (Moment.turn (.start purpose)).perform engine traffic = (reply, left))
    (same : left.tenures = traffic.tenures) :
    run engine (traffic.call purpose) traffic = left := by
  have absent : left.tenures[traffic.next]? = none := by
    rw [same]
    exact traffic.next_unenrolled
  unfold call
  rw [run, started, run, advance_unenrolled absent, run, advance_unenrolled absent, run]

/-- A call that gets a connection goes on with the statement on it. -/
theorem call_of_taken {connection : Nat} {taken : Router} {opened : World σ}
    {statement parameters : Value} {answered failed : Stage}
    (placed : purpose.place traffic.router = (.ok place, router))
    (taking : router.act place (Pool.checkout engine) traffic.world =
      (.ok connection, taken, opened))
    (asks : Tenure.advance traffic.next ⟨purpose, place, connection, .taken⟩ =
      .run traffic.next ⟨purpose, place, connection, .taken⟩ statement parameters answered failed)
    {result : Except Error Report} {ran : Router} {left : World σ}
    (running : taken.act place (Pool.run engine connection statement parameters) opened =
      (result, ran, left)) :
    ∃ behind : Traffic σ, behind.state = (ran, left) ∧
      behind.tenures[traffic.next]? =
        some ⟨purpose, place, connection, if result.toBool then answered else failed⟩ ∧
      run engine (traffic.call purpose) traffic =
        ((Tenure.advance traffic.next ⟨purpose, place, connection,
          if result.toBool then answered else failed⟩).perform engine behind).2 := by
  have started : (Moment.turn (.start purpose)).perform engine traffic =
      (.ok (), ((traffic.passedOn router).reaching taken opened).join
        ⟨purpose, place, connection, .taken⟩) :=
    (start_of_placed placed).trans (Operation.take_of_taken purpose taking)
  obtain ⟨old, there, -, took, -⟩ := Router.pool?_of_act taking
  have kept : taken.pool? place = some (old.checkout engine traffic.world).2.1 := by
    rw [took]
    exact Router.pool?_replace_self _ there
  generalize shape : ((traffic.passedOn router).reaching taken opened).join
    ⟨purpose, place, connection, .taken⟩ = joined at started
  have enrolled : joined.tenures[traffic.next]? = some ⟨purpose, place, connection, .taken⟩ := by
    rw [← shape]
    exact join_next _ _
  have asked : (Moment.turn (.advance traffic.next)).perform engine joined =
      (result.map fun _ => (), (joined.reaching ran left).settle traffic.next
        (if result.toBool then answered else failed)) := by
    rw [advance_enrolled enrolled, asks]
    subst shape
    exact Operation.run_of_act _ _ _ _ _ _ kept running
  have settled : ((joined.reaching ran left).settle traffic.next
      (if result.toBool then answered else failed)).tenures[traffic.next]? =
        some ⟨purpose, place, connection, if result.toBool then answered else failed⟩ :=
    settle_enrolled _ enrolled
  refine ⟨_, rfl, settled, ?_⟩
  unfold call
  rw [run, started, run, asked, run, advance_enrolled settled, run]

/-- A statement of a router is its taking, its run and its giving back. -/
theorem execute_state (engine : Engine σ) (statement parameters : Value) (traffic : Traffic σ) :
    (run engine (traffic.call (.single statement parameters)) traffic).state =
      (traffic.router.execute engine statement parameters traffic.world).2 := by
  have placing : (Purpose.single statement parameters).place traffic.router =
      (Purpose.single statement parameters).place traffic.router := rfl
  conv at placing => rhs; unfold Purpose.place
  unfold Router.execute
  dsimp only at placing
  generalize traffic.router.select statement = selected at placing ⊢
  obtain ⟨selected, router⟩ := selected
  cases selected with
  | error reason =>
    rw [call_of_refused (start_of_unplaced placing) rfl]
    rfl
  | ok place =>
    dsimp only at placing ⊢
    cases items : parameters.items with
    | error reason =>
      rw [items] at placing
      rw [call_of_refused (start_of_unplaced placing) rfl]
      rfl
    | ok values =>
      rw [items] at placing
      dsimp only
      generalize taking : router.act place (Pool.checkout engine) traffic.world = outcome
      obtain ⟨result, taken, opened⟩ := outcome
      cases result with
      | error reason =>
        have refused : (Operation.take (.single statement parameters) place true).perform engine
            (traffic.passedOn router) =
              (.error reason, (traffic.passedOn router).reaching taken opened) :=
          Operation.take_of_refused _ taking
        rw [call_of_refused ((start_of_placed placing).trans refused) rfl,
          Router.act_execute_of_refused taking]
        rfl
      | ok connection =>
        generalize running : taken.act place (Pool.run engine connection statement parameters)
          opened = outcome
        obtain ⟨report, ran, left⟩ := outcome
        obtain ⟨behind, same, -, calling⟩ := call_of_taken placing taking rfl running
        rw [calling, Router.act_execute_of_taken taking running]
        have stage : (if report.toBool then Stage.done false else Stage.done false) =
            .done false := ite_self _
        rw [stage]
        show ((Operation.giveBack _ _ _).perform engine behind).2.state = _
        rw [Operation.giveBack_state]
        cases same
        rfl

/-- A transaction and the tenure it stands for. -/
structure Carries (traffic : Traffic σ) (number : Nat) (transaction : Transaction) : Prop where
  enrolled : traffic.tenures[number]? = some ⟨.transaction, transaction.place,
    transaction.connection, if transaction.active then .inside else .past⟩

theorem begin_state (engine : Engine σ) (traffic : Traffic σ) :
    (run engine (traffic.call .transaction) traffic).state =
        (Transaction.begin engine traffic.router traffic.world).2 ∧
      ∀ transaction, (Transaction.begin engine traffic.router traffic.world).1 = .ok transaction →
        (run engine (traffic.call .transaction) traffic).Carries traffic.next transaction := by
  have placing : Purpose.transaction.place traffic.router =
      (.ok (traffic.router.dispatch (traffic.router.sideFor true)).1,
        (traffic.router.dispatch (traffic.router.sideFor true)).2) := rfl
  unfold Transaction.begin Router.lend
  generalize traffic.router.dispatch (traffic.router.sideFor true) = dispatched at placing ⊢
  obtain ⟨place, router⟩ := dispatched
  dsimp only at placing ⊢
  generalize taking : router.act place (Pool.checkout engine) traffic.world = outcome
  obtain ⟨result, taken, opened⟩ := outcome
  cases result with
  | error reason =>
    have refused : (Operation.take .transaction place true).perform engine
        (traffic.passedOn router) =
          (.error reason, (traffic.passedOn router).reaching taken opened) :=
      Operation.take_of_refused _ taking
    rw [call_of_refused ((start_of_placed placing).trans refused) rfl]
    refine ⟨rfl, ?_⟩
    intro transaction made
    cases made
  | ok connection =>
    dsimp only [Except.map]
    generalize running : taken.act place (Pool.run engine connection (.text "BEGIN") (.tuple []))
      opened = outcome
    obtain ⟨report, ran, left⟩ := outcome
    obtain ⟨behind, same, settled, calling⟩ := call_of_taken placing taking rfl running
    rw [calling]
    cases report with
    | error reason =>
      refine ⟨?_, ?_⟩
      · show ((Operation.giveBack _ _ _).perform engine behind).2.state = _
        rw [Operation.giveBack_state]
        cases same
        rfl
      · intro transaction made
        cases made
    | ok report =>
      refine ⟨same, ?_⟩
      intro transaction made
      cases made
      exact ⟨settled⟩

variable {transaction : Transaction}

/-- Of a transaction that is over nothing is left to do. -/
theorem Carries.operationOn (carries : traffic.Carries number transaction)
    (operation : Tenure → Operation) :
    (traffic.operationOn number fun tenure => tenure.inTransaction (operation tenure)) =
      if transaction.active then
        operation ⟨.transaction, transaction.place, transaction.connection, .inside⟩
      else .nothing (.error .transactionOver) := by
  rw [operationOn_enrolled _ carries.enrolled]
  cases transaction.active with
  | true => rfl
  | false => rfl

/-- A statement inside a transaction is one turn. -/
theorem within_state (engine : Engine σ) (statement parameters : Value)
    (carries : traffic.Carries number transaction) :
    let calling := transaction.execute engine statement parameters traffic.router traffic.world
    let behind := (Moment.turn (.within number statement parameters)).perform engine traffic
    behind.1 = (calling.1.map fun _ => ()) ∧ behind.2.state = calling.2 ∧
      behind.2.Carries number transaction := by
  intro calling behind
  have due : behind = (traffic.operationOn number
      (Tenure.within number statement parameters)).perform engine traffic := rfl
  have called : calling =
      transaction.execute engine statement parameters traffic.router traffic.world := rfl
  unfold Tenure.within at due
  rw [carries.operationOn] at due
  unfold Transaction.execute at called
  cases active : transaction.active with
  | false =>
    rw [active, if_neg (by simp)] at due
    rw [active, if_pos (by rfl)] at called
    rw [due, called]
    exact ⟨rfl, rfl, carries⟩
  | true =>
    rw [active, if_pos rfl] at due
    rw [active, if_neg (by simp)] at called
    cases items : parameters.items with
    | error reason =>
      rw [items] at due called
      rw [due, called]
      exact ⟨rfl, rfl, carries⟩
    | ok values =>
      rw [items] at due called
      dsimp only at due called
      cases there : traffic.router.pool? transaction.place with
      | none =>
        rw [Operation.perform_of_none rfl there] at due
        rw [Router.act_of_none _ _ there] at called
        rw [due, called]
        exact ⟨rfl, rfl, carries⟩
      | some pool =>
        generalize running : traffic.router.act transaction.place
          (Pool.run engine transaction.connection statement parameters) traffic.world = outcome
          at called
        obtain ⟨report, ran, left⟩ := outcome
        rw [Operation.run_of_act _ _ _ _ _ _ there running, ite_self] at due
        have enrolled := carries.enrolled
        rw [active, if_pos rfl] at enrolled
        rw [due, called]
        refine ⟨rfl, rfl, ?_⟩
        constructor
        rw [active, if_pos rfl]
        exact settle_enrolled .inside enrolled

/-- The end of a transaction is its statement and the giving back. -/
theorem finish_state (engine : Engine σ) (ending : Ending)
    (carries : traffic.Carries number transaction) {pool : Pool}
    (there : traffic.router.pool? transaction.place = some pool) :
    let calling := transaction.finish engine ending traffic.router traffic.world
    let behind := run engine [.turn (.finish number ending), .turn (.advance number)] traffic
    ((Moment.turn (.finish number ending)).perform engine traffic).1 = calling.1 ∧
      behind.state = calling.2.2 ∧ behind.Carries number calling.2.1 := by
  intro calling behind
  have due : (Moment.turn (.finish number ending)).perform engine traffic =
      (traffic.operationOn number (Tenure.finish number ending)).perform engine traffic := rfl
  have called : calling = transaction.finish engine ending traffic.router traffic.world := rfl
  have shape : behind = ((Moment.turn (.advance number)).perform engine
    ((Moment.turn (.finish number ending)).perform engine traffic).2).2 := rfl
  have enrolled := carries.enrolled
  unfold Tenure.finish at due
  rw [carries.operationOn] at due
  unfold Transaction.finish at called
  cases active : transaction.active with
  | false =>
    rw [active, if_neg (by simp)] at due enrolled
    rw [active, if_pos (by rfl)] at called
    rw [due] at shape ⊢
    have idle : behind = traffic := by
      rw [shape]
      show ((Moment.turn (.advance number)).perform engine traffic).2 = traffic
      rw [advance_enrolled enrolled]
      rfl
    rw [idle, called]
    exact ⟨rfl, rfl, carries⟩
  | true =>
    rw [active, if_pos rfl] at due enrolled
    rw [active, if_neg (by simp)] at called
    dsimp only at called
    generalize running : traffic.router.act transaction.place
      (Pool.run engine transaction.connection (.text ending.statement) (.tuple []))
      traffic.world = outcome at called
    obtain ⟨report, ran, left⟩ := outcome
    have kept : ran.pool? transaction.place = some (pool.run engine transaction.connection
        (.text ending.statement) (.tuple []) traffic.world).2.1 := by
      rw [Router.act_of_pool? _ _ there] at running
      cases running
      exact Router.pool?_replace_self _ there
    rw [Operation.run_of_act _ _ _ _ _ _ there running] at due
    rw [due] at shape ⊢
    have settled : ((traffic.reaching ran left).settle number
        (if report.toBool then .done false else .done true)).tenures[number]? =
          some ⟨.transaction, transaction.place, transaction.connection,
            if report.toBool then .done false else .done true⟩ :=
      settle_enrolled _ enrolled
    rw [advance_enrolled settled] at shape
    have state := Operation.giveBack_state engine number ⟨.transaction, transaction.place,
      transaction.connection, if report.toBool then .done false else .done true⟩
        (!report.toBool) ((traffic.reaching ran left).settle number
          (if report.toBool then .done false else .done true))
    have past := Operation.giveBack_enrolled engine (!report.toBool) kept settled
    cases report with
    | error reason =>
      rw [shape, called]
      exact ⟨rfl, state, ⟨past⟩⟩
    | ok report =>
      rw [shape, called]
      exact ⟨rfl, state, ⟨past⟩⟩

/-- A connection that is lent is a tenure of which the borrower says when it is over. -/
theorem lend_state (engine : Engine σ) (writes : Bool) (traffic : Traffic σ) :
    let lent := traffic.router.lend engine writes traffic.world
    let behind := (Moment.turn (.start (.loan writes))).perform engine traffic
    behind.2.state = lent.2 ∧ ∀ place connection, lent.1 = .ok (place, connection) →
      behind.2.tenures[traffic.next]? = some ⟨.loan writes, place, connection, .taken⟩ := by
  intro lent behind
  have placing : (Purpose.loan writes).place traffic.router =
      (.ok (traffic.router.dispatch (traffic.router.sideFor writes)).1,
        (traffic.router.dispatch (traffic.router.sideFor writes)).2) := rfl
  have lending : lent = traffic.router.lend engine writes traffic.world := rfl
  have started : behind = (Operation.take (.loan writes) _ true).perform engine _ :=
    start_of_placed placing
  unfold Router.lend at lending
  generalize traffic.router.dispatch (traffic.router.sideFor writes) = dispatched
    at lending started
  obtain ⟨place, router⟩ := dispatched
  dsimp only at lending started
  generalize taking : router.act place (Pool.checkout engine) traffic.world = outcome at lending
  obtain ⟨result, taken, opened⟩ := outcome
  cases result with
  | error reason =>
    rw [Operation.take_of_refused _ taking] at started
    rw [started, lending]
    refine ⟨rfl, ?_⟩
    intro elsewhere connection given
    cases given
  | ok connection =>
    rw [Operation.take_of_taken _ taking] at started
    rw [started, lending]
    refine ⟨rfl, ?_⟩
    intro elsewhere other given
    cases given
    exact join_next _ _

theorem giveBack_loan_state (engine : Engine σ) {writes : Bool} {connection : Nat}
    (enrolled : traffic.tenures[number]? = some ⟨.loan writes, place, connection, .taken⟩) :
    ((Moment.turn (.advance number)).perform engine traffic).2.state =
      traffic.router.giveBack engine place connection false traffic.world := by
  rw [advance_enrolled enrolled]
  exact Operation.giveBack_state engine number _ false traffic

/-- What a router does at one place after the other is a turn for each place that it comes to. -/
theorem actAll_state (engine : Engine σ)
    {action : Pool → World σ → Except Error Unit × Pool × World σ} {turn : Place → Turn}
    (alike : ∀ place (traffic : Traffic σ),
      ((Moment.turn (turn place)).perform engine traffic).2.state =
        (traffic.router.act place action traffic.world).2)
    (places : List Place) (traffic : Traffic σ) :
    ∃ count, (run engine ((places.take count).map fun place => .turn (turn place)) traffic).state =
      (Router.actAll action places traffic.router traffic.world).2 := by
  induction places generalizing traffic with
  | nil => exact ⟨0, rfl⟩
  | cons place rest ih =>
    have same := alike place traffic
    unfold Router.actAll
    generalize traffic.router.act place action traffic.world = acted at same
    obtain ⟨result, router, world⟩ := acted
    cases result with
    | error reason => exact ⟨1, same⟩
    | ok done =>
      obtain ⟨count, later⟩ := ih ((Moment.turn (turn place)).perform engine traffic).2
      refine ⟨count + 1, later.trans ?_⟩
      cases same
      rfl

theorem ping_state (engine : Engine σ) (traffic : Traffic σ) :
    ∃ answered, (run engine ((traffic.router.places.take answered).map fun place =>
      .turn (.ping place)) traffic).state = (traffic.router.ping engine traffic.world).2 := by
  apply actAll_state
  intro place traffic
  show ((Operation.ping place).perform engine traffic).2.state = _
  exact Operation.perform_alike rfl fun _ => rfl

theorem close_state (engine : Engine σ) (traffic : Traffic σ) :
    ∃ closed, (run engine ((traffic.router.places.take closed).map fun place =>
      .turn (.close place)) traffic).state = traffic.router.close engine traffic.world := by
  apply actAll_state
  intro place traffic
  show ((Operation.close place).perform engine traffic).2.state = _
  exact Operation.perform_alike rfl fun _ => rfl

/-- Reconnecting is closing and then pinging. -/
theorem reconnect_state (engine : Engine σ) (traffic : Traffic σ) :
    ∃ closed answered : List Place,
      (run engine (answered.map fun place => .turn (.ping place))
        (run engine (closed.map fun place => .turn (.close place)) traffic)).state =
          (traffic.router.reconnect engine traffic.world).2 := by
  obtain ⟨closed, closing⟩ := close_state engine traffic
  obtain ⟨answered, pinging⟩ := ping_state engine (run engine
    ((traffic.router.places.take closed).map fun place => .turn (.close place)) traffic)
  refine ⟨_, _, pinging.trans ?_⟩
  unfold Router.reconnect
  rw [← closing]
  rfl

end Traffic
end Querywright
