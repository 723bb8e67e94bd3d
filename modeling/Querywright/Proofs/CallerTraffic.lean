import Querywright.Transaction
import Querywright.Proofs.PoolOperations

/-! Callers of one router side by side. Each call is cut where callers can get in between: taking a
connection, running one statement on it, and giving it back are turns of their own, and the turns
of different callers come in any order. Loans and transactions keep their connection over turns of
others. A turn is one operation of a pool, a ping included; parts of it that come late, with turns of
others in between, are moments of their own. -/
namespace Querywright

/-- What a connection is taken for: one statement sent by the router, the statement of a ping, a loan
to a caller who works on the connection directly, or a transaction. -/
inductive Purpose where
  | single (statement parameters : Value)
  | probe (place : Place)
  | loan (writes : Bool)
  | transaction

/-- How far the use of a connection has come. Only an active transaction is `inside`; behind `done`
the connection is still to be given back. -/
inductive Stage where
  | taken
  | inside
  | done (discarded : Bool)
  | past
deriving DecidableEq

/-- The use of a connection by one caller, from taking it to giving it back. -/
structure Tenure where
  purpose : Purpose
  place : Place
  connection : Nat
  stage : Stage := .taken

/-- A router, its world, and all tenures so far in the order of their beginning. -/
structure Traffic (σ : Type) where
  router : Router
  world : World σ
  tenures : List Tenure := []

/-- What a caller does next. A tenure is known by the number of those before it. -/
inductive Turn where
  | start (purpose : Purpose)
  | advance (number : Nat)
  | within (number : Nat) (statement parameters : Value)
  | finish (number : Nat) (ending : Ending)
  | borrow (number : Nat) (statement : Value) (arguments : List Value)
  | spoil (number : Nat)
  | ping (place : Place)
  | close (place : Place)

/-- A turn, or a part of one that comes late: a taking at a place that was chosen before, whole or only
the opening of a connection that ends it, and a mark that somebody reads or writes late. What comes
early of a taking is a turn that closes the pool, or nothing. -/
inductive Moment where
  | turn (turn : Turn)
  | take (purpose : Purpose) (place : Place) (whole : Bool)
  | mark (place : Place) (healthy : Bool)

/-- What a moment comes to. Behind a run the stage of the tenure depends on whether the statement was
answered. -/
inductive Operation where
  | nothing (reply : Except Error Unit)
  | take (purpose : Purpose) (place : Place) (whole : Bool)
  | run (number : Nat) (tenure : Tenure) (statement parameters : Value) (answered failed : Stage)
  | giveBack (number : Nat) (tenure : Tenure) (discarded : Bool)
  | borrow (number : Nat) (tenure : Tenure) (statement : Value) (arguments : List Value)
  | spoil (tenure : Tenure)
  | ping (place : Place)
  | close (place : Place)
  | mark (place : Place) (healthy : Bool)

namespace Tenure

/-- The next step of the call that took the connection: its statement, `BEGIN`, or giving back. -/
def advance (number : Nat) (tenure : Tenure) : Operation :=
  match tenure.purpose, tenure.stage with
  | .single statement parameters, .taken =>
    .run number tenure statement parameters (.done false) (.done false)
  | .probe _, .taken => .run number tenure Pool.probe (.tuple []) (.done false) (.done false)
  | .loan _, .taken => .giveBack number tenure false
  | .transaction, .taken =>
    .run number tenure (.text "BEGIN") (.tuple []) .inside (.done true)
  | _, .done discarded => .giveBack number tenure discarded
  | _, _ => .nothing (.ok ())

/-- What is done with a transaction: it is there once its `BEGIN` has been answered. -/
def inTransaction (tenure : Tenure) (operation : Operation) : Operation :=
  match tenure.purpose, tenure.stage with
  | .transaction, .inside => operation
  | .transaction, .done _ => .nothing (.error .transactionOver)
  | .transaction, .past => .nothing (.error .transactionOver)
  | _, _ => .nothing (.error .transactionNotBegun)

/-- A statement inside a transaction. -/
def within (number : Nat) (statement parameters : Value) (tenure : Tenure) : Operation :=
  tenure.inTransaction <| match parameters.items with
    | .error reason => .nothing (.error reason)
    | .ok _ => .run number tenure statement parameters .inside .inside

/-- The statement that ends a transaction, whose connection is given back in the turn after. -/
def finish (number : Nat) (ending : Ending) (tenure : Tenure) : Operation :=
  tenure.inTransaction <|
    .run number tenure (.text ending.statement) (.tuple []) (.done false) (.done true)

/-- What only the borrower of a connection can do. -/
def ifLent (tenure : Tenure) (operation : Operation) : Operation :=
  match tenure.purpose, tenure.stage with
  | .loan _, .taken => operation
  | _, _ => .nothing (.error (.misuse (.noSuchOperation "cursor")))

end Tenure

/-- The place that a connection is taken from, the turn of its side being passed on. -/
def Purpose.place (purpose : Purpose) (router : Router) : Except Error Place × Router :=
  match purpose with
  | .single statement parameters =>
    match router.select statement with
    | (.error reason, router) => (.error reason, router)
    | (.ok place, router) => (parameters.items.map fun _ => place, router)
  | .probe place => (.ok place, router)
  | .loan writes =>
    let (place, router) := router.dispatch (router.sideFor writes)
    (.ok place, router)
  | .transaction =>
    let (place, router) := router.dispatch (router.sideFor true)
    (.ok place, router)

variable {σ : Type}

namespace Traffic

def operationOn (number : Nat) (operation : Tenure → Operation) (traffic : Traffic σ) :
    Operation :=
  match traffic.tenures[number]? with
  | some tenure => operation tenure
  | none => .nothing (.error .transactionNotBegun)

/-- The turn of a side may have been passed on. -/
def passedOn (router : Router) (traffic : Traffic σ) : Traffic σ :=
  { traffic with router := router }

def put (place : Place) (pool : Pool) (world : World σ) (traffic : Traffic σ) : Traffic σ :=
  { traffic with router := traffic.router.replace place pool, world := world }

def settle (number : Nat) (stage : Stage) (traffic : Traffic σ) : Traffic σ :=
  { traffic with tenures := traffic.tenures.modify number fun tenure =>
      { tenure with stage := stage } }

def join (tenure : Tenure) (traffic : Traffic σ) : Traffic σ :=
  { traffic with tenures := traffic.tenures ++ [tenure] }

variable (router : Router) (place : Place) (pool : Pool) (world : World σ) (number : Nat)
  (stage : Stage) (tenure : Tenure) (traffic : Traffic σ)

@[simp] theorem passedOn_world : (traffic.passedOn router).world = traffic.world := rfl

@[simp] theorem passedOn_router : (traffic.passedOn router).router = router := rfl

@[simp] theorem passedOn_tenures : (traffic.passedOn router).tenures = traffic.tenures := rfl

@[simp] theorem put_world : (traffic.put place pool world).world = world := rfl

@[simp] theorem put_router :
    (traffic.put place pool world).router = traffic.router.replace place pool := rfl

@[simp] theorem put_tenures : (traffic.put place pool world).tenures = traffic.tenures := rfl

@[simp] theorem settle_world : (traffic.settle number stage).world = traffic.world := rfl

@[simp] theorem settle_router : (traffic.settle number stage).router = traffic.router := rfl

@[simp] theorem join_world : (traffic.join tenure).world = traffic.world := rfl

@[simp] theorem join_router : (traffic.join tenure).router = traffic.router := rfl

@[simp] theorem join_tenures : (traffic.join tenure).tenures = traffic.tenures ++ [tenure] := rfl

end Traffic

namespace Operation

def place? : Operation → Option Place
  | .take _ place _ | .ping place | .close place | .mark place _ => some place
  | .run _ tenure .. | .giveBack _ tenure _ => some tenure.place
  | _ => none

/-- An operation on the pool at its place. -/
def onPool (engine : Engine σ) (operation : Operation) (pool : Pool) (traffic : Traffic σ) :
    Except Error Unit × Traffic σ :=
  match operation with
  | .take purpose place whole =>
    match pool.provide engine whole traffic.world with
    | (.error reason, pool, world) => (.error reason, traffic.put place pool world)
    | (.ok connection, pool, world) =>
      (.ok (), (traffic.put place pool world).join ⟨purpose, place, connection, .taken⟩)
  | .run number tenure statement parameters answered failed =>
    match pool.run engine tenure.connection statement parameters traffic.world with
    | (.error reason, pool, world) =>
      (.error reason, (traffic.put tenure.place pool world).settle number failed)
    | (.ok _, pool, world) =>
      (.ok (), (traffic.put tenure.place pool world).settle number answered)
  | .giveBack number tenure discarded =>
    let (pool, world) := pool.checkin engine tenure.connection discarded traffic.world
    (.ok (), (traffic.put tenure.place pool world).settle number .past)
  | .ping place =>
    let (result, pool, world) := pool.ping engine traffic.world
    (result, traffic.put place pool world)
  | .close place =>
    let (pool, world) := pool.close engine traffic.world
    (.ok (), traffic.put place pool world)
  | .mark place healthy =>
    (.ok (), traffic.put place { pool with healthy := healthy } traffic.world)
  | _ => (.ok (), traffic)

def perform (engine : Engine σ) (operation : Operation) (traffic : Traffic σ) :
    Except Error Unit × Traffic σ :=
  match operation with
  | .nothing reply => (reply, traffic)
  | .borrow _ tenure statement arguments =>
    match traffic.world.readiness tenure.connection with
    | .error fault => (.error (.fault fault), traffic)
    | .ok () =>
      let (result, world) := traffic.world.execute engine tenure.connection statement arguments
      (result.map fun _ => (), { traffic with world := world })
  | .spoil tenure =>
    let (result, world) := traffic.world.close engine tenure.connection
    (result, { traffic with world := world })
  | operation =>
    match operation.place?.bind traffic.router.pool? with
    | none => (.error (.misuse .rowTooShort), traffic)
    | some pool => operation.onPool engine pool traffic

end Operation

/-- What is seen of a run from outside. -/
inductive Occurrence where
  | opened (place : Place) (connection : Nat)
  | handedOut (place : Place) (connection : Nat)
  | sent (issuer : Option Nat) (connection : Nat) (statement : Value)
  | raised (issuer : Nat) (connection : Nat) (statement : Value)
  | lost (place : Place) (connection : Nat)

def Occurrence.sending (issuer : Option Nat) (sending : Nat × Value) : Occurrence :=
  .sent issuer sending.1 sending.2

namespace Pool

/-- The connection that the dialect gives, and the one that leaves the pool. -/
def takings (engine : Engine σ) (place : Place) (whole : Bool) (pool : Pool) (world : World σ) :
    List Occurrence :=
  (pool.newcomer? engine whole world).toList.map (.opened place) ++
    match pool.provide engine whole world with
    | (.error _, _, _) => []
    | (.ok connection, _, _) => [.handedOut place connection]

def losses (engine : Engine σ) (place : Place) (connection : Nat) (statement parameters : Value)
    (pool : Pool) (world : World σ) : List Occurrence :=
  match pool.run engine connection statement parameters world with
  | (outcome, _, _) => if pool.isLoss outcome then [.lost place connection] else []

def pingLosses (engine : Engine σ) (place : Place) (pool : Pool) (world : World σ) :
    List Occurrence :=
  match pool.provide engine true world with
  | (.error _, _, _) => []
  | (.ok connection, pool, world) =>
    pool.losses engine place connection probe (.tuple []) world

end Pool

namespace Operation

/-- Whose statement is sent by an operation, if it is that of a tenure. -/
def issuer? : Operation → Option Nat
  | .run number .. | .borrow number .. => some number
  | _ => none

def sentBetween (issuer : Option Nat) (before after : World σ) : List Occurrence :=
  (after.sent.drop before.sent.length).map (Occurrence.sending issuer)

/-- What a pool sees of an operation on it. -/
def noticed (engine : Engine σ) (operation : Operation) (pool : Pool) (world : World σ) :
    List Occurrence :=
  match operation with
  | .take _ place whole => pool.takings engine place whole world
  | .run number tenure statement parameters _ _ =>
    (match pool.run engine tenure.connection statement parameters world with
      | (.error _, _, _) => [.raised number tenure.connection statement]
      | (.ok _, _, _) => []) ++
      pool.losses engine tenure.place tenure.connection statement parameters world
  | .ping place => pool.takings engine place true world ++ pool.pingLosses engine place world
  | _ => []

def occurrences (engine : Engine σ) (operation : Operation) (traffic : Traffic σ) :
    List Occurrence :=
  sentBetween operation.issuer? traffic.world (operation.perform engine traffic).2.world ++
    match operation.place?.bind traffic.router.pool? with
    | none => []
    | some pool => operation.noticed engine pool traffic.world

end Operation

/-- What a turn comes to, and the router with the turn of a side passed on. -/
def Turn.operation (turn : Turn) (traffic : Traffic σ) : Operation × Router :=
  match turn with
  | .start purpose =>
    match purpose.place traffic.router with
    | (.error reason, router) => (.nothing (.error reason), router)
    | (.ok place, router) => (.take purpose place true, router)
  | .advance number => (traffic.operationOn number (Tenure.advance number), traffic.router)
  | .within number statement parameters =>
    (traffic.operationOn number (Tenure.within number statement parameters), traffic.router)
  | .finish number ending =>
    (traffic.operationOn number (Tenure.finish number ending), traffic.router)
  | .borrow number statement arguments =>
    (traffic.operationOn number fun tenure =>
      tenure.ifLent (.borrow number tenure statement arguments), traffic.router)
  | .spoil number =>
    (traffic.operationOn number fun tenure => tenure.ifLent (.spoil tenure), traffic.router)
  | .ping place => (.ping place, traffic.router)
  | .close place => (.close place, traffic.router)

namespace Moment

def operation (moment : Moment) (traffic : Traffic σ) : Operation × Router :=
  match moment with
  | .turn next => next.operation traffic
  | .take purpose place whole => (.take purpose place whole, traffic.router)
  | .mark place healthy => (.mark place healthy, traffic.router)

def perform (engine : Engine σ) (moment : Moment) (traffic : Traffic σ) :
    Except Error Unit × Traffic σ :=
  let (operation, router) := moment.operation traffic
  operation.perform engine (traffic.passedOn router)

def occurrences (engine : Engine σ) (moment : Moment) (traffic : Traffic σ) : List Occurrence :=
  let (operation, router) := moment.operation traffic
  operation.occurrences engine (traffic.passedOn router)

end Moment

namespace Traffic

def run (engine : Engine σ) : List Moment → Traffic σ → Traffic σ
  | [], traffic => traffic
  | moment :: rest, traffic => run engine rest (moment.perform engine traffic).2

def occurrences (engine : Engine σ) : List Moment → Traffic σ → List Occurrence
  | [], _ => []
  | moment :: rest, traffic =>
    moment.occurrences engine traffic ++ occurrences engine rest (moment.perform engine traffic).2

end Traffic
end Querywright
