import Querywright.Proofs.TransactionCalls

/-! The course of a transaction. It begins on an open connection of a pool, its statements leave it
under way whatever comes of them, and one last statement on the same connection ends it, for good:
behind the end it sends nothing. -/
namespace Querywright

variable {σ : Type}

theorem Dialect.handedOver_ending (dialect : Dialect) (ending : Ending) :
    dialect.handedOver (.text ending.statement) (.tuple []) =
      .ok (.text ending.statement, []) := by
  cases dialect <;> cases ending <;> rfl

/-- A statement that is handed over on an open connection is sent. -/
theorem Pool.run_ready (engine : Engine σ) {connection : Nat} {statement parameters sent : Value}
    {values : List Value} {pool : Pool} {world : World σ}
    (ready : connection ∉ world.closed)
    (handed : pool.dialect.handedOver statement parameters = .ok (sent, values)) :
    world.Passes (pool.run engine connection statement parameters world).2.2 0 []
      [(connection, sent)] := by
  have open' : world.readiness connection = .ok () := by
    unfold World.readiness
    rw [if_neg (by simpa using ready)]
  have executing := World.execute_passes engine connection sent values world
  unfold run
  rw [open', handed]
  dsimp only
  generalize world.execute engine connection sent values = outcome at executing ⊢
  obtain ⟨result, left⟩ := outcome
  cases result with
  | ok answer => exact executing
  | error reason =>
    cases reason with
    | fault fault => exact executing.trans (notice_eq fault pool left).2
    | _ => exact executing

namespace Network

/-- A transaction under way: it is active, its connection is open, and its pool is there. -/
structure Underway (number : Nat) (pinned : Pinned) (network : Network σ) : Prop where
  there : network.transactions[number]? = some pinned
  active : pinned.transaction.active = true
  pool : ∃ router pool, network.routers[pinned.router]? = some router ∧
    router.pool? pinned.transaction.place = some pool
  unclosed : pinned.transaction.connection ∉ network.world.closed

/-- What becomes of the connection at the end of a transaction: it is open, and idle in its pool, if
the statement that ended it succeeded and the pool is healthy. Otherwise it is closed. -/
def Settled (pinned : Pinned) (result : Except Error Unit) (network : Network σ) : Prop :=
  ∃ router pool, network.routers[pinned.router]? = some router ∧
    router.pool? pinned.transaction.place = some pool ∧
    ((result = .ok () ∧ pool.healthy = true) ∧ pinned.transaction.connection ∈ pool.idle ∧
        pinned.transaction.connection ∉ network.world.closed ∨
      ¬(result = .ok () ∧ pool.healthy = true) ∧
        pinned.transaction.connection ∈ network.world.closed)

/-- A transaction that has come to its end, with a result. -/
structure Finished (number : Nat) (pinned : Pinned) (result : Except Error Unit)
    (network : Network σ) : Prop where
  there : network.transactions[number]? =
    some { pinned with transaction := { pinned.transaction with active := false } }
  settled : Settled pinned result network

variable {engine : Engine σ} {number : Nat} {pinned : Pinned} {network : Network σ}
  {router : Router}

theorem onTransaction_of_some {α : Type}
    (action : Transaction → Router → World σ → Except Error α × Transaction × Router × World σ)
    (there : network.transactions[number]? = some pinned)
    (present : network.routers[pinned.router]? = some router) :
    network.onTransaction number action =
      ((action pinned.transaction router network.world).1,
        { network.setRouter pinned.router
            (action pinned.transaction router network.world).2.2.1 with
          world := (action pinned.transaction router network.world).2.2.2
          transactions := network.transactions.set number
            { pinned with
              transaction := (action pinned.transaction router network.world).2.1 } }) := by
  unfold onTransaction
  rw [there]
  dsimp only
  rw [present]

theorem onTransaction_of_none {α : Type}
    (action : Transaction → Router → World σ → Except Error α × Transaction × Router × World σ)
    (there : network.transactions[number]? = some pinned)
    (missing : network.routers[pinned.router]? = none) :
    network.onTransaction number action = (.error .noConnection, network) := by
  unfold onTransaction
  rw [there]
  dsimp only
  rw [missing]

/-- An action that does nothing leaves the network as it is. -/
theorem onTransaction_idle {α : Type}
    (action : Transaction → Router → World σ → Except Error α × Transaction × Router × World σ)
    (there : network.transactions[number]? = some pinned)
    (idle : ∀ router world, (action pinned.transaction router world).2 =
      (pinned.transaction, router, world)) :
    (network.onTransaction number action).2 = network := by
  cases present : network.routers[pinned.router]? with
  | none => rw [onTransaction_of_none action there present]
  | some router =>
    rw [onTransaction_of_some action there present, idle]
    have transactions : network.transactions.set number pinned = network.transactions := by
      obtain ⟨inside, rfl⟩ := List.getElem?_eq_some_iff.mp there
      exact List.set_getElem_self inside
    have routers : network.routers.set pinned.router router = network.routers := by
      obtain ⟨inside, same⟩ := List.getElem?_eq_some_iff.mp present
      rw [← same]
      exact List.set_getElem_self inside
    show ({ network with
      routers := network.routers.set pinned.router router
      transactions := network.transactions.set number pinned } : Network σ) = network
    rw [transactions, routers]

/-- What a statement on the pool of a transaction leaves. -/
theorem onTransaction_there {α : Type}
    (action : Transaction → Router → World σ → Except Error α × Transaction × Router × World σ)
    (there : network.transactions[number]? = some pinned)
    (present : network.routers[pinned.router]? = some router) :
    (network.onTransaction number action).2.transactions[number]? = some { pinned with
        transaction := (action pinned.transaction router network.world).2.1 } ∧
      (network.onTransaction number action).2.routers[pinned.router]? =
        some (action pinned.transaction router network.world).2.2.1 ∧
      (network.onTransaction number action).2.world =
        (action pinned.transaction router network.world).2.2.2 := by
  rw [onTransaction_of_some action there present]
  refine ⟨?_, ?_, rfl⟩
  · exact List.getElem?_set_self (List.getElem?_eq_some_iff.mp there).1
  · exact List.getElem?_set_self (List.getElem?_eq_some_iff.mp present).1

/-- Statements of a transaction under way leave it under way, whatever comes of them. -/
theorem underway_steady (engine : Engine σ) (number : Nat) (pinned : Pinned) :
    IsSteady engine number (Underway number pinned) := by
  intro network statement parameters under
  obtain ⟨router, pool, present, found⟩ := under.pool
  let action (transaction : Transaction) (router : Router) (world : World σ) :=
    let outcome := transaction.execute engine statement parameters router world
    (outcome.1, transaction, outcome.2)
  show Underway number pinned (network.onTransaction number action).2
  cases read : parameters.items with
  | error reason =>
    have idle (router : Router) (world : World σ) : (action pinned.transaction router world).2 =
        (pinned.transaction, router, world) := by
      simp only [action, Transaction.execute, under.active, read]
      rfl
    rwa [onTransaction_idle action under.there idle]
  | ok values =>
    have acted : (action pinned.transaction router network.world).2 = (pinned.transaction,
        (router.act pinned.transaction.place (Pool.run engine pinned.transaction.connection
          statement parameters) network.world).2) := by
      simp only [action, Transaction.execute, under.active, read]
      rfl
    obtain ⟨transactions, routers, world⟩ := onTransaction_there action under.there present
    rw [acted] at transactions routers world
    rw [Router.act_of_pool? _ _ found] at routers world
    have ran := Pool.run_ran engine pinned.transaction.connection statement parameters pool
      network.world
    refine ⟨transactions, under.active, ⟨_, _, routers, Router.pool?_replace_self _ found⟩, ?_⟩
    rw [world]
    rcases ran.sending with ⟨passage, -⟩ | ⟨sent, values, -, passage⟩
    · rw [passage.closings]
      exact under.unclosed
    · rw [passage.closings]
      exact under.unclosed

/-- A transaction that has come to its end takes no statement. -/
theorem Finished.execute {result : Except Error Unit}
    (finished : network.Finished number pinned result) (statement parameters : Value) :
    (network.execute engine (.transaction number) statement parameters).2 = network := by
  unfold Network.execute
  exact onTransaction_idle _ finished.there fun router world => rfl

theorem finished_steady (engine : Engine σ) (number : Nat) (pinned : Pinned)
    (result : Except Error Unit) : IsSteady engine number (Finished number pinned result) := by
  intro network statement parameters finished
  rwa [finished.execute]

theorem Finished.isActive {result : Except Error Unit}
    (finished : network.Finished number pinned result) : network.isActive number = false := by
  unfold Network.isActive
  rw [finished.there]
  rfl

theorem Underway.isActive (under : network.Underway number pinned) :
    network.isActive number = true := by
  unfold Network.isActive
  rw [under.there]
  exact under.active

/-- Leaving has nothing to do any more. -/
theorem Finished.leave {result : Except Error Unit}
    (finished : network.Finished number pinned result) (failed : Bool) :
    network.leave engine failed number = (.ok (), network) := by
  obtain ⟨router, -, present, -⟩ := finished.settled
  have kept : (network.leave engine failed number).2 = network :=
    onTransaction_idle _ finished.there fun router world => rfl
  have left : (network.leave engine failed number).1 = .ok () :=
    congrArg Prod.fst (onTransaction_of_some (Transaction.leave engine failed) finished.there
      present)
  exact Prod.ext left kept

end Network

/-- The last statement of a transaction, and what its pool does with the connection. -/
theorem Transaction.finish_of_pool? (engine : Engine σ) (ending : Ending)
    {transaction : Transaction} {router : Router} {pool : Pool} (world : World σ)
    (active : transaction.active = true)
    (found : router.pool? transaction.place = some pool) :
    let ran := pool.run engine transaction.connection (.text ending.statement) (.tuple []) world
    let back := ran.2.1.checkin engine transaction.connection ran.1.toOption.isNone ran.2.2
    transaction.finish engine ending router world = (ran.1.map fun _ => (),
      { transaction with active := false }, router.replace transaction.place back.1, back.2) := by
  intro ran back
  have given (after : Pool) (discarded : Bool) (left : World σ) :
      (router.replace transaction.place after).giveBack engine transaction.place
          transaction.connection discarded left =
        (router.replace transaction.place
            (after.checkin engine transaction.connection discarded left).1,
          (after.checkin engine transaction.connection discarded left).2) := by
    unfold Router.giveBack
    rw [Router.act_of_pool? _ _ (Router.pool?_replace_self after found), Router.replace_replace]
  unfold Transaction.finish
  rw [active, Router.act_of_pool? _ _ found]
  simp only [back, ran]
  cases (pool.run engine transaction.connection (.text ending.statement) (.tuple []) world).1 with
  | error reason => simp [given, Except.map, Except.toOption]
  | ok report => simp [given, Except.map, Except.toOption]

namespace Network

variable {engine : Engine σ} {number : Nat} {pinned : Pinned} {network : Network σ}

/-- What the statement that ends a transaction comes to on its connection. -/
def LastAnswer (engine : Engine σ) (pinned : Pinned) (ending : Ending) (network : Network σ)
    (result : Except Error Unit) : Prop :=
  ∃ router pool, network.routers[pinned.router]? = some router ∧
    router.pool? pinned.transaction.place = some pool ∧
    result = (pool.run engine pinned.transaction.connection (.text ending.statement) (.tuple [])
      network.world).1.map fun _ => ()

/-- A transaction under way is ended by one statement on its connection. -/
theorem Underway.finish (under : network.Underway number pinned) (engine : Engine σ)
    (ending : Ending) :
    let outcome := network.finish engine ending number
    outcome.2.Finished number pinned outcome.1 ∧
      network.LastAnswer engine pinned ending outcome.1 ∧
      outcome.2.world.sent = network.world.sent ++
        [(pinned.transaction.connection, .text ending.statement)] := by
  intro outcome
  obtain ⟨router, pool, present, found⟩ := under.pool
  have finishing := Transaction.finish_of_pool? engine ending network.world under.active found
  have passage := Pool.run_ready engine under.unclosed (pool.dialect.handedOver_ending ending)
  have result := congrArg Prod.fst
    (onTransaction_of_some (Transaction.finish engine ending) under.there present)
  obtain ⟨transactions, routers, world⟩ :=
    onTransaction_there (Transaction.finish engine ending) under.there present
  dsimp only at finishing
  rw [finishing] at result transactions routers world
  change outcome.1 = _ at result
  change outcome.2.world = _ at world
  dsimp only at result transactions routers world
  have answer : network.LastAnswer engine pinned ending outcome.1 :=
    ⟨router, pool, present, found, result⟩
  suffices ended : outcome.2.Finished number pinned outcome.1 ∧ outcome.2.world.sent = _ from
    ⟨ended.1, answer, ended.2⟩
  rw [result, world]
  generalize pool.run engine pinned.transaction.connection (.text ending.statement) (.tuple [])
    network.world = outcome at passage result routers world ⊢
  obtain ⟨report, ran, left⟩ := outcome
  dsimp only at passage result routers world ⊢
  by_cases closes : report.toOption.isNone = true ∨ ran.healthy = false
  · have closing := World.discard_passes engine [pinned.transaction.connection] left
    rw [Pool.checkin_closed engine _ _ ran left closes] at world routers ⊢
    have failed : ¬((report.map fun _ => ()) = .ok () ∧ ran.healthy = true) := by
      rintro ⟨succeeded, healthy⟩
      cases report with
      | error reason => cases succeeded
      | ok report => simp [Except.toOption, healthy] at closes
    refine ⟨⟨transactions, _, _, routers, Router.pool?_replace_self _ found, .inr ⟨failed, ?_⟩⟩, ?_⟩
    · rw [world]
      exact closing.closed_of_mem (List.mem_singleton.mpr rfl)
    · rw [closing.sendings, passage.sendings, List.append_nil]
  · obtain ⟨unfailed, unmarked⟩ := not_or.mp closes
    have answered : report.toOption.isNone = false := Bool.eq_false_iff.mpr unfailed
    have healthy : ran.healthy = true := by simpa using unmarked
    rw [answered, Pool.checkin_kept engine _ ran left healthy] at world routers ⊢
    have succeeded : (report.map fun _ => ()) = .ok () := by
      cases report with
      | error reason => cases answered
      | ok report => rfl
    refine ⟨⟨transactions, _, _, routers, Router.pool?_replace_self _ found,
      .inl ⟨⟨succeeded, healthy⟩, by simp, ?_⟩⟩, passage.sendings⟩
    rw [world, passage.closings]
    exact under.unclosed

/-- Leaving a transaction under way ends it, one way or the other. -/
theorem Underway.leave (under : network.Underway number pinned) (engine : Engine σ)
    (failed : Bool) :
    network.leave engine failed number =
      network.finish engine (if failed then .rollback else .commit) number := by
  obtain ⟨router, pool, present, found⟩ := under.pool
  have same : pinned.transaction.leave engine failed router network.world =
      pinned.transaction.finish engine (if failed then .rollback else .commit) router
        network.world := by
    unfold Transaction.leave
    rw [if_pos under.active]
  unfold Network.leave Network.finish
  rw [onTransaction_of_some _ under.there present, onTransaction_of_some _ under.there present,
    same]

end Network

/-- A transaction that has begun holds an open connection of a pool. -/
theorem Transaction.begin_success {engine : Engine σ} {router after : Router}
    {world left : World σ} {transaction : Transaction}
    (begun : Transaction.begin engine router world = (.ok transaction, after, left)) :
    transaction.active = true ∧ (∃ pool, after.pool? transaction.place = some pool) ∧
      transaction.connection ∉ left.closed := by
  unfold Transaction.begin at begun
  split at begun
  · cases begun
  · rename_i place connection lent opened lending
    split at begun
    · cases begun
    · rename_i report ran behind running
      cases begun
      obtain ⟨pool, there, answered, rfl, rfl⟩ := Router.pool?_of_act running
      refine ⟨rfl, ⟨_, Router.pool?_replace_self _ there⟩, ?_⟩
      have unclosed : connection ∉ opened.closed := by
        intro closed
        unfold Pool.run World.readiness at answered
        rw [if_pos (by simpa using closed)] at answered
        cases answered
      have ran := Pool.run_ran engine connection (.text "BEGIN") (.tuple []) pool opened
      rcases ran.sending with ⟨passage, -⟩ | ⟨sent, values, -, passage⟩
      · rw [passage.closings]
        exact unclosed
      · rw [passage.closings]
        exact unclosed

theorem Network.begin_underway {engine : Engine σ} {router number : Nat}
    {network after : Network σ} (begun : network.begin engine router = (.ok number, after)) :
    ∃ transaction, after.Underway number ⟨router, transaction⟩ := by
  unfold Network.begin at begun
  split at begun
  · cases begun
  · rename_i transaction mid acted
    cases begun
    cases present : network.routers[router]? with
    | none =>
      rw [onRouter_of_none _ _ present] at acted
      cases acted
    | some entry =>
      rw [onRouter_of_some _ _ present] at acted
      obtain ⟨result, rfl⟩ := Prod.mk.inj acted
      obtain ⟨active, ⟨pool, there⟩, unclosed⟩ :=
        Transaction.begin_success (Prod.ext result rfl)
      have stands : (network.setRouter router
          (Transaction.begin engine entry network.world).2.1).routers[router]? =
            some (Transaction.begin engine entry network.world).2.1 :=
        (setRouter_routers _ present router).trans (if_pos rfl)
      refine ⟨transaction, ?_, active, ⟨_, pool, stands, there⟩, unclosed⟩
      exact List.getElem?_concat_length

end Querywright
