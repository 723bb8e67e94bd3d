import Querywright.Session

/-! Making things in a session. -/
namespace Querywright

namespace Source

/-- Octets may hold an address, but no dialect goes by a scheme in octets. -/
def ofOctets (octets : List UInt8) : Except Error Source := do
  let address ← Address.parse (String.ofList (octets.map fun octet => Char.ofNat octet.toNat))
  if address.scheme.isEmpty then .error (.unsupportedScheme "b''")
  else .error (.misuse (.notText "bytes"))

/-- An address of a pool: text, or a supplier. Anything else has no scheme to read. -/
def ofValue (value : Value) : Except Error Source :=
  match value with
  | .text address => .ok (.fixed address)
  | .supplier number => .ok (.supplied number)
  | .octets octets => ofOctets octets
  | other =>
    if other.isTrue then .error (.misuse (.noSuchOperation "decode"))
    else .error (.unsupportedScheme "b''")

end Source

namespace Session

variable {σ : Type}

open Querywright.Action

def makeBuilder (options : Options) : Action σ Item := do
  let settings ← ofResult (Settings.ofOptions options)
  addBuilder { settings := settings }

def builderFor (router : Nat) : Action σ Item := do
  match (← get).network.routers[router]? with
  | none => throw .noConnection
  | some found =>
    addBuilder
      { settings := .ofConfiguration found.configuration, backing := some (.router router) }

/-- The options of a database, its replicas being gone through first. -/
def databaseOptions (primaries : List Value) (replicas : Value) (options : Options) :
    Except Error Options := do
  let replicas ← replicas.items
  return ("primaries", .list primaries) :: ("replicas", .list replicas) :: options

def makeRouter (engine : Engine σ) (options : Options) : Action σ Item := do
  let configuration ← ofResult (Configuration.ofOptions options)
  return .router (← onNetwork (Network.makeRouter engine configuration))

/-- A builder on a router of its own, or one that only renders when there is no address. -/
def makeNew (engine : Engine σ) (primaries : List Value) (replicas : Value) (options : Options) :
    Action σ Item := do
  if primaries.isEmpty && !replicas.isTrue then addBuilder {}
  else
    let options ← ofResult (databaseOptions primaries replicas options)
    let configuration ← ofResult (Configuration.ofOptions options)
    builderFor (← onNetwork (Network.makeRouter engine configuration))

def register (engine : Engine σ) (name : Value) (primaries : List Value) (replicas : Value)
    (options : Options) : Action σ Item := do
  let options ← ofResult (databaseOptions primaries replicas options)
  onNetwork (Network.register engine name options)
  return .value .null

def database (engine : Engine σ) (name : Value) : Action σ Item := do
  builderFor (← onNetwork (Network.database engine name))

def forget (engine : Engine σ) (name : Value) : Action σ Item := do
  onNetwork (Network.forget engine name)
  return .value .null

def backingItem : Option Backing → Item
  | none => .value .null
  | some (.router number) => .router number
  | some (.transaction number) => .transaction number

def routerOf (item : Item) : Action σ Item := do
  match item with
  | .builder number => return backingItem (← builder number).backing
  | _ => throw (.misuse (.noSuchOperation "router"))

def makePool (engine : Engine σ) (url : Value) : Action σ Item := do
  let source ← ofResult (Source.ofValue url)
  addPool (← onWorld (Pool.make engine source))

def makeTransaction (engine : Engine σ) (item : Item) : Action σ Item := do
  match item with
  | .router number => return .transaction (← onNetwork (Network.begin engine number))
  | _ => throw (.misuse (.noSuchOperation "primary"))

def makeHolder (type : FieldType) : Action σ Item := do
  return .slot (← addDestination (.holder type .null))

def makeInstance (model : String) (data : Value) : Action σ Item := do
  return .value (← ofResult (validate (← get).schema (.record model) data))

end Session
end Querywright
