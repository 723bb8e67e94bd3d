import Querywright.Call.Itself
import Querywright.Call.Named
import Querywright.Value.Shared

/-! A session: named things and everything they share. A name stands for a plain value, or for a
builder, a router, a pool, a transaction or a destination, each of which lives on under its number
however many names it has. -/
namespace Querywright

inductive Item where
  | value (value : Value)
  | slot (number : Nat)
  | builder (number : Nat)
  | router (number : Nat)
  | pool (number : Nat)
  | member (router : Nat) (place : Place)
  | transaction (number : Nat)

/-- The outcome of a call: the thing it was made on, or another. -/
inductive Reply where
  | itself
  | item (item : Item)

/-- A value together with the item that it was taken from, if it was. -/
structure Argument where
  value : Value
  item : Option Item := none

structure Session (σ : Type) where
  schema : Schema := []
  network : Network σ
  builders : List Builder := []
  pools : List Pool := []
  shelf : Shelf := []
  names : List (String × Item) := []

/-- An action in a session; changes made before a failure stay. -/
abbrev Action (σ α : Type) := ExceptT Error (StateM (Session σ)) α

namespace Session

variable {σ : Type}

def changeOutside (change : σ → σ) (session : Session σ) : Session σ :=
  let world := session.network.world
  { session with network := { session.network with
    world := { world with outside := change world.outside } } }

def settled (session : Session σ) (value : Value) : Value :=
  value.settle (settledContents (session.shelf.map Destination.value))

/-- A thing without a text of its own. -/
def nameless (kind : String) (outline : Outline) : Value :=
  .thing kind [] outline ("<" ++ kind ++ " object at 0x0>") ("<" ++ kind ++ " object at 0x0>")

def routerValue (session : Session σ) (number : Nat) : Value :=
  nameless "Router" (((session.network.routers[number]?).map Router.outline).getD [])

def transactionValue (session : Session σ) (number : Nat) : Value :=
  nameless "Transaction" [("active", .truth (session.network.isActive number))]

def member? (router : Nat) (place : Place) (session : Session σ) : Option Pool :=
  (session.network.routers[router]?).bind (·.pool? place)

def valueOf (session : Session σ) : Item → Value
  | .value value => session.settled value
  | .slot number => session.settled (.shared number)
  | .builder number => ((session.builders[number]?).map Builder.asValue).getD .null
  | .router number => session.routerValue number
  | .pool number => ((session.pools[number]?).map Pool.asValue).getD .null
  | .member router place => ((session.member? router place).map Pool.asValue).getD .null
  | .transaction number => session.transactionValue number

def lookup (name : String) (session : Session σ) : Except Error Item :=
  match session.names.lookup name with
  | some item => .ok item
  | none => .error (.misuse (.unknownName name))

/-- The item under a name as an argument of a call. -/
def argument (name : String) (session : Session σ) : Except Error Argument := do
  let item ← session.lookup name
  return ⟨session.valueOf item, some item⟩

/-- The item under a name as part of another value: what stands on the shelf is mentioned, anything
else is taken as it is. -/
def mention (name : String) (session : Session σ) : Except Error Value := do
  match ← session.lookup name with
  | .slot number => return .shared number
  | item => return session.valueOf item

def isRouter (number : Nat) : Item → Bool
  | .router other => other == number
  | _ => false

/-- Whether some name stands for a router. -/
def namesRouter (number : Nat) (session : Session σ) : Bool :=
  session.names.any fun entry => isRouter number entry.2

def setNamed (name : String) (item : Item) : List (String × Item) → List (String × Item)
  | [] => [(name, item)]
  | (other, old) :: rest =>
    if other == name then (name, item) :: rest else (other, old) :: setNamed name item rest

def rename (name : String) (item : Item) (session : Session σ) : Session σ :=
  { session with names := setNamed name item session.names }

/-- A value that rows can be loaded into gets a place on the shelf with its name. -/
def remember (name : String) (item : Item) (session : Session σ) : Session σ :=
  match item with
  | .value value =>
    match Destination.ofValue? value with
    | some destination =>
      { session with shelf := session.shelf ++ [destination] }.rename name
        (.slot session.shelf.length)
    | none => session.rename name item
  | _ => session.rename name item

/-- Whether the rows of a builder go to the builder itself. -/
def isOwnDestination (number : Nat) (session : Session σ) : Bool :=
  let bound := (session.builders[number]?).bind Builder.binding
  match bound.bind fun binding => session.shelf[binding.slot]? with
  | some (.builder other ..) => other == number
  | _ => false

end Session

namespace Action

variable {σ α : Type}

def ofResult (result : Except Error α) : Action σ α :=
  MonadExcept.ofExcept result

def onNetwork (action : Network σ → Except Error α × Network σ) : Action σ α :=
  ExceptT.mk fun session =>
    let (result, network) := action session.network
    (result, { session with network := network })

def onWorld (action : World σ → Except Error α × World σ) : Action σ α :=
  onNetwork fun network =>
    let (result, world) := action network.world
    (result, { network with world := world })

def onRouter (router : Nat) (action : Router → World σ → Except Error α × Router × World σ) :
    Action σ α :=
  onNetwork (Network.onRouter router action)

def onPool (pool : Nat) (action : Pool → World σ → Except Error α × Pool × World σ) : Action σ α :=
  ExceptT.mk fun session =>
    match session.pools[pool]? with
    | none => (.error .noConnection, session)
    | some entry =>
      let (result, entry, world) := action entry session.network.world
      (result, { session with
        pools := session.pools.set pool entry
        network := { session.network with world := world } })

/-- A new thing is known by the number of those before it. -/
def addBuilder (builder : Builder) : Action σ Item := do
  let session ← get
  set { session with builders := session.builders ++ [builder] }
  return .builder session.builders.length

def addPool (pool : Pool) : Action σ Item := do
  let session ← get
  set { session with pools := session.pools ++ [pool] }
  return .pool session.pools.length

def addDestination (destination : Destination) : Action σ Nat := do
  let session ← get
  set { session with shelf := session.shelf ++ [destination] }
  return session.shelf.length

def builder (number : Nat) : Action σ Builder := do
  return ((← get).builders[number]?).getD {}

def setBuilder (number : Nat) (builder : Builder) : Action σ Unit :=
  modify fun session => { session with builders := session.builders.set number builder }

/-- What the operations of a builder work with: statements go where its backing leads. -/
def setting (engine : Engine σ) (builder : Builder) (session : Session σ) :
    Setting (Network σ) :=
  { schema := session.schema ++ [Report.recordType]
    executor := builder.backing.map fun backing statement arguments network =>
      network.execute engine backing statement (.tuple arguments)
    locksTables := match builder.backing with
      | some (.transaction number) => session.network.isActive number
      | _ => false }

/-- A destination that is a builder shows its fields as they are now. -/
def refreshed (builders : List Builder) : Destination → Destination
  | .builder number _ _ => .builder number ((builders[number]?.map Builder.fields).getD []) []
  | other => other

/-- A builder that rows were loaded into takes the changes over, unless it is the one at work, which
has been loaded where it stands. -/
def takeOver (own : Nat) (builders : List Builder) : Destination → List Builder
  | .builder number _ changes =>
    if number == own then builders
    else builders.modify number fun builder => changes.foldl Builder.assign builder
  | _ => builders

/-- Puts a builder on a desk with everything it reaches, and takes all back afterwards. -/
def work (number : Nat) (body : Work (Network σ) α) : Action σ α := ExceptT.mk fun session =>
  match session.builders[number]? with
  | none => (.error .noConnection, session)
  | some builder =>
    let shelf := session.shelf.map (refreshed session.builders)
    let (result, desk) := body.run ⟨builder, shelf, session.network⟩
    (result, { session with
      builders := desk.shelf.foldl (takeOver number) (session.builders.set number desk.builder)
      shelf := desk.shelf
      network := desk.outside })

end Action
end Querywright
