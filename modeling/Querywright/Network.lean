import Querywright.Transaction

/-! Everything that lives outside a single builder: the world of engines, the routers and the
transactions made so far, each under its number, and the registry of named databases. Whatever can
be a key may be a name. A named database keeps its configuration; its router is made when it is
first asked for. -/
namespace Querywright

inductive Backing where
  | router (number : Nat)
  | transaction (number : Nat)
deriving DecidableEq, Repr

/-- A transaction together with the number of its router. -/
structure Pinned where
  router : Nat
  transaction : Transaction
deriving DecidableEq, Repr

structure Network (σ : Type) where
  world : World σ
  routers : List Router := []
  transactions : List Pinned := []
  configurations : List (Value × Configuration) := []
  named : List (Value × Nat) := []

namespace Network

variable {σ : Type}

def setRouter (number : Nat) (router : Router) (network : Network σ) : Network σ :=
  { network with routers := network.routers.set number router }

def onRouter {α : Type} (number : Nat)
    (action : Router → World σ → Except Error α × Router × World σ) (network : Network σ) :
    Except Error α × Network σ :=
  match network.routers[number]? with
  | none => (.error .noConnection, network)
  | some router =>
    let (result, router, world) := action router network.world
    (result, { network.setRouter number router with world := world })

def onTransaction {α : Type} (number : Nat)
    (action : Transaction → Router → World σ →
      Except Error α × Transaction × Router × World σ) (network : Network σ) :
    Except Error α × Network σ :=
  match network.transactions[number]? with
  | none => (.error .transactionNotBegun, network)
  | some pinned =>
    match network.routers[pinned.router]? with
    | none => (.error .noConnection, network)
    | some router =>
      let (result, transaction, router, world) :=
        action pinned.transaction router network.world
      let transactions :=
        network.transactions.set number { pinned with transaction := transaction }
      (result, { network.setRouter pinned.router router with
        world := world, transactions := transactions })

def makeRouter (engine : Engine σ) (configuration : Configuration) (network : Network σ) :
    Except Error Nat × Network σ :=
  match Router.make engine configuration network.world with
  | (.error reason, world) => (.error reason, { network with world := world })
  | (.ok router, world) =>
    (.ok network.routers.length,
      { network with world := world, routers := network.routers ++ [router] })

def close (engine : Engine σ) (router : Nat) (network : Network σ) : Network σ :=
  (network.onRouter router fun router world => (Except.ok (), router.close engine world)).2

def begin (engine : Engine σ) (router : Nat) (network : Network σ) :
    Except Error Nat × Network σ :=
  match network.onRouter router (Transaction.begin engine) with
  | (.error reason, network) => (.error reason, network)
  | (.ok transaction, network) =>
    (.ok network.transactions.length,
      { network with transactions := network.transactions ++ [⟨router, transaction⟩] })

def finish (engine : Engine σ) (ending : Ending) (transaction : Nat) (network : Network σ) :
    Except Error Unit × Network σ :=
  network.onTransaction transaction (Transaction.finish engine ending)

def leave (engine : Engine σ) (failed : Bool) (transaction : Nat) (network : Network σ) :
    Except Error Unit × Network σ :=
  network.onTransaction transaction (Transaction.leave engine failed)

def isActive (transaction : Nat) (network : Network σ) : Bool :=
  (network.transactions[transaction]?.map (·.transaction.active)).getD false

def execute (engine : Engine σ) (backing : Backing) (statement parameters : Value)
    (network : Network σ) : Except Error Report × Network σ :=
  match backing with
  | .router number => network.onRouter number (Router.execute engine statement parameters)
  | .transaction number =>
    network.onTransaction number fun transaction router world =>
      let (result, router, world) := transaction.execute engine statement parameters router world
      (result, transaction, router, world)

/-- The router behind a builder, also when it works inside a transaction. -/
def routerOf (backing : Option Backing) (network : Network σ) : Except Error Nat :=
  match backing with
  | none => .error .noConnection
  | some (.router number) => .ok number
  | some (.transaction number) =>
    match network.transactions[number]? with
    | some pinned => .ok pinned.router
    | none => .error .noConnection

def requireKey (name : Value) : Except Error Unit :=
  if name.isHashable then .ok () else .error (.misuse (.unhashable name.kindName))

/-- Takes a name's router out of the registry and closes its connections. -/
def closeNamed (engine : Engine σ) (name : Value) (network : Network σ) : Network σ :=
  match Entries.get? name network.named with
  | none => network
  | some router =>
    { network with named := Entries.erase name network.named }.close engine router

/-- Forgets the router of a name; an empty registry is not searched. -/
def forget (engine : Engine σ) (name : Value) (network : Network σ) :
    Except Error Unit × Network σ :=
  if network.named.isEmpty then (.ok (), network)
  else match requireKey name with
    | .error reason => (.error reason, network)
    | .ok () => (.ok (), network.closeNamed engine name)

/-- Registers a database under a name; nothing is opened before it is asked for. -/
def register (engine : Engine σ) (name : Value) (options : Options) (network : Network σ) :
    Except Error Unit × Network σ :=
  match (do let made ← Configuration.ofOptions options; requireKey name; return made) with
  | .error reason => (.error reason, network)
  | .ok configuration =>
    let configurations := Entries.put name configuration network.configurations
    (.ok (), { network with configurations := configurations }.closeNamed engine name)

/-- The router of a named database, made now if there is none. -/
def database (engine : Engine σ) (name : Value) (network : Network σ) :
    Except Error Nat × Network σ :=
  match requireKey name, Entries.get? name network.named,
      Entries.get? name network.configurations with
  | .error reason, _, _ => (.error reason, network)
  | .ok (), some router, _ => (.ok router, network)
  | .ok (), none, none => (.error (.unknownDatabase name.plain), network)
  | .ok (), none, some configuration =>
    match network.makeRouter engine configuration with
    | (.error reason, network) => (.error reason, network)
    | (.ok router, network) =>
      (.ok router, { network with named := Entries.put name router network.named })

end Network
end Querywright
