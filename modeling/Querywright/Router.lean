import Querywright.Configuration

/-! One pool per address: statements that write go to the primaries, the others to the replicas,
each side in turn. Without replicas the primaries serve both. -/
namespace Querywright

def writeKeywords : List String :=
  ["INSERT", "UPDATE", "DELETE", "REPLACE", "CREATE", "ALTER", "DROP", "TRUNCATE", "RENAME",
    "LOCK", "UNLOCK"]

/-- What may stand in front of the first word without hiding it. -/
def isLeadIn (character : Char) : Bool :=
  character == ' ' || character == '\t' || character == '\r' || character == '\n' ||
    character == '('

/-- Tells by the first word; a text of other blanks only has none to tell by. -/
def isWriteStatement (text : String) : Except Error Bool :=
  match text.toList.dropWhile isLeadIn with
  | [] => .ok false
  | characters =>
    match Text.wordLists characters with
    | [] => .error (.misuse .rowTooShort)
    | word :: _ => .ok (writeKeywords.contains (Text.upper (String.ofList word)))

/-- Only texts can be told apart by their first word. -/
def isWriting (statement : Value) : Except Error Bool :=
  match statement with
  | .text text => isWriteStatement text
  | .octets _ => .error (.misuse .octetsRequired)
  | _ => .error (.misuse (.noSuchOperation "lstrip"))

inductive Side where
  | primary
  | replica
deriving DecidableEq, Repr

structure Place where
  side : Side
  index : Nat
deriving DecidableEq, Repr

structure Router where
  configuration : Configuration
  primaries : List Pool
  replicas : List Pool := []
  nextPrimary : Nat := 0
  nextReplica : Nat := 0
deriving DecidableEq, Repr

namespace Router

variable {σ : Type}

def pools (side : Side) (router : Router) : List Pool :=
  match side with
  | .primary => router.primaries
  | .replica => router.replicas

def pool? (place : Place) (router : Router) : Option Pool :=
  (router.pools place.side)[place.index]?

def replace (place : Place) (pool : Pool) (router : Router) : Router :=
  match place.side with
  | .primary => { router with primaries := router.primaries.set place.index pool }
  | .replica => { router with replicas := router.replicas.set place.index pool }

def places (router : Router) : List Place :=
  (List.range router.primaries.length).map (Place.mk .primary) ++
    (List.range router.replicas.length).map (Place.mk .replica)

def act {α : Type} (place : Place) (action : Pool → World σ → Except Error α × Pool × World σ)
    (router : Router) (world : World σ) : Except Error α × Router × World σ :=
  match router.pool? place with
  | none => (.error (.misuse .rowTooShort), router, world)
  | some pool =>
    let (result, pool, world) := action pool world
    (result, router.replace place pool, world)

/-- The place whose turn it is on a side, and the router with the turn passed on. -/
def dispatch (side : Side) (router : Router) : Place × Router :=
  match side with
  | .primary =>
    let size := router.primaries.length
    (⟨side, router.nextPrimary % size⟩,
      { router with nextPrimary := (router.nextPrimary % size + 1) % size })
  | .replica =>
    let size := router.replicas.length
    (⟨side, router.nextReplica % size⟩,
      { router with nextReplica := (router.nextReplica % size + 1) % size })

def sideFor (writes : Bool) (router : Router) : Side :=
  if writes || router.replicas.isEmpty then .primary else .replica

def select (statement : Value) (router : Router) : Except Error Place × Router :=
  match isWriting statement with
  | .error reason => (.error reason, router)
  | .ok writes =>
    let (place, router) := router.dispatch (router.sideFor writes)
    (.ok place, router)

def execute (engine : Engine σ) (statement parameters : Value) (router : Router)
    (world : World σ) : Except Error Report × Router × World σ :=
  match router.select statement with
  | (.error reason, router) => (.error reason, router, world)
  | (.ok place, router) =>
    match parameters.items with
    | .error reason => (.error reason, router, world)
    | .ok _ => router.act place (Pool.execute engine statement parameters) world

/-- Lends a connection of a side, whoever takes it giving it back to the same place. -/
def lend (engine : Engine σ) (writes : Bool) (router : Router) (world : World σ) :
    Except Error (Place × Nat) × Router × World σ :=
  let (place, router) := router.dispatch (router.sideFor writes)
  let (result, router, world) := router.act place (Pool.checkout engine) world
  (result.map fun connection => (place, connection), router, world)

def giveBack (engine : Engine σ) (place : Place) (connection : Nat) (discarded : Bool)
    (router : Router) (world : World σ) : Router × World σ :=
  let (_, router, world) := router.act place (fun pool world =>
    (.ok (), pool.checkin engine connection discarded world)) world
  (router, world)

/-- Works on one place after the other, up to the first failure. -/
def actAll (action : Pool → World σ → Except Error Unit × Pool × World σ) :
    List Place → Router → World σ → Except Error Unit × Router × World σ
  | [], router, world => (.ok (), router, world)
  | place :: rest, router, world =>
    match router.act place action world with
    | (.error reason, router, world) => (.error reason, router, world)
    | (.ok (), router, world) => actAll action rest router world

def ping (engine : Engine σ) (router : Router) (world : World σ) :
    Except Error Unit × Router × World σ :=
  actAll (Pool.ping engine) router.places router world

def close (engine : Engine σ) (router : Router) (world : World σ) : Router × World σ :=
  let (_, router, world) := actAll (fun pool world => (.ok (), pool.close engine world))
    router.places router world
  (router, world)

def reconnect (engine : Engine σ) (router : Router) (world : World σ) :
    Except Error Unit × Router × World σ :=
  let (router, world) := router.close engine world
  router.ping engine world

def makePools (engine : Engine σ) : List Source → World σ → Except Error (List Pool) × World σ
  | [], world => (.ok [], world)
  | source :: rest, world =>
    match Pool.make engine source world with
    | (.error reason, world) => (.error reason, world)
    | (.ok pool, world) =>
      let (others, world) := makePools engine rest world
      (others.map (pool :: ·), world)

/-- A router is handed out only when every one of its databases has answered. -/
def make (engine : Engine σ) (configuration : Configuration) (world : World σ) :
    Except Error Router × World σ :=
  match makePools engine configuration.primaries world with
  | (.error reason, world) => (.error reason, world)
  | (.ok primaries, world) =>
    match makePools engine configuration.replicas world with
    | (.error reason, world) => (.error reason, world)
    | (.ok replicas, world) =>
      let (result, router, world) :=
        Router.ping engine
          { configuration := configuration, primaries := primaries, replicas := replicas } world
      (result.map fun () => router, world)

def outline (router : Router) : Outline :=
  [("write", .list (router.primaries.map fun pool => Outline.nested pool.outline)),
    ("read", .list (router.replicas.map fun pool => Outline.nested pool.outline)),
    ("next", .list [.integer router.nextPrimary, .integer router.nextReplica])]

def dialect (router : Router) : Dialect :=
  ((router.primaries.head?).map Pool.dialect).getD .plain

end Router
end Querywright
