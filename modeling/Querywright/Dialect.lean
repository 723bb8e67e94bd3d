import Querywright.Address
import Querywright.Engine
import Querywright.Placeholder
import Querywright.Text.Search
import Querywright.Value.Equality

/-! Dialects: which engine an address leads to, how it is connected to, which placeholders it
expects, which ids an insert has given, and which failures mean that a connection is lost. The
plain dialect has no engine behind it. -/
namespace Querywright

inductive Dialect where
  | plain
  | sqlite
  | mysql
deriving DecidableEq, Repr

namespace Dialect

def ofName? : String → Option Dialect
  | "sqlite" => some .sqlite
  | "mysql" => some .mysql
  | _ => none

/-- A driver named behind a plus sign does not matter, nor does the case of letters. -/
def ofScheme (scheme : String) : Except Error Dialect :=
  let name := Text.lower (String.ofList (Text.beforeFirst '+' scheme.toList))
  match ofName? name with
  | some dialect => .ok dialect
  | none => .error (.unsupportedScheme scheme)

def ofValue (scheme : Value) : Except Error Dialect :=
  match scheme with
  | .text name => ofScheme name
  | other =>
    if !other.isTrue then .error (.unsupportedScheme other.plain)
    else match other with
      | .octets _ => .error (.misuse (.notText other.kindName))
      | _ => .error (.misuse (.noSuchOperation "split"))

def kindName : Dialect → String
  | .plain => "PlainDialect"
  | .sqlite => "SqliteDialect"
  | .mysql => "MysqlDialect"

def style : Dialect → PlaceholderStyle
  | .mysql => .format
  | _ => .questionMark

def consecutive (first : Int) (count : Nat) : List Int :=
  (List.range count).map fun (position : Nat) => first + position

/-- One engine reports the last id of an insert, the other its first. -/
def idsOf (dialect : Dialect) (reported : Int) (count : Nat) : List Int :=
  match dialect with
  | .plain => []
  | .sqlite => consecutive (reported - count + 1) count
  | .mysql => consecutive reported count

def reportsNoRow (rowcount : Value) : Except Error Bool :=
  match rowcount, rowcount.asInteger? with
  | _, some count => .ok (count ≤ 0)
  | .decimal count, none => .ok (count ≤ 0)
  | other, none => .error (.misuse (.unordered other.kindName "int"))

def isJoinable (value : Value) : Bool :=
  match value with
  | .text _ | .octets _ | .list _ | .tuple _ => true
  | _ => false

def uncountable (dialect : Dialect) (lastrowid rowcount : Value) : Misuse :=
  match lastrowid, dialect with
  | .integer _, _ | .truth _, _ | .decimal _, _ => .notWholeNumber "float"
  | other, .mysql =>
    if isJoinable other then .notJoinable other.kindName rowcount.kindName
    else .notAddable "+" other.kindName rowcount.kindName
  | other, _ => .notAddable "-" other.kindName rowcount.kindName

/-- The ids of the rows of one insert, from what the engine reports: nothing without an id or
without a row. -/
def insertIds (dialect : Dialect) (lastrowid rowcount : Value) : Except Error (List Int) := do
  if dialect == .plain || !lastrowid.isTrue then return []
  else if ← reportsNoRow rowcount then return []
  else match lastrowid.asInteger?, rowcount.asInteger? with
    | some reported, some count => return dialect.idsOf reported count.toNat
    | _, _ => throw (.misuse (dialect.uncountable lastrowid rowcount))

def lostCodes : List Int := [2003, 2006, 2013]

def isDisconnect (dialect : Dialect) (fault : Fault) : Bool :=
  match dialect, fault.kind with
  | .sqlite, .sqliteProgramming => Text.contains fault.message "closed"
  | .mysql, .mysqlInterface => true
  | .mysql, .mysqlOperational =>
    match fault.arguments with
    | [] => false
    | code :: _ => lostCodes.any fun lost => (Value.integer lost).sameKey code
  | _, _ => false

def nonempty? (text : String) : Option String :=
  if text.isEmpty then none else some text

def sqlitePath (address : Address) : String :=
  ((nonempty? address.name).or address.host?).getD ":memory:"

def defaultPort : Nat := 3306

def decodedPart (part : Option String) : Option String :=
  (part.bind nonempty?).map Text.percentDecoded

def mysqlTarget (address : Address) : Except Error Target :=
  address.port?.map fun port =>
    .mysql address.host? (decodedPart address.user?) (decodedPart address.password?)
      (nonempty? address.name) (match port with
        | none | some 0 => defaultPort
        | some port => port)

variable {σ : Type}

def connectSqlite (engine : Engine σ) (address : Address) (world : World σ) :
    Except Error (Option Nat) × World σ :=
  let path := sqlitePath address
  let world := world.log .information ("Connecting to SQLite database " ++ path)
  match world.connect engine (.sqlite path) with
  | (.error reason, world) => (.error reason, world)
  | (.ok connection, world) =>
    match world.execute engine connection (.text "PRAGMA foreign_keys = ON") [] with
    | (.error reason, world) => (.error reason, world)
    | (.ok _, world) => (.ok (some connection), world)

def connectMysql (engine : Engine σ) (address : Address) (world : World σ) :
    Except Error (Option Nat) × World σ :=
  let world := world.log .information ("Connecting to MySQL database " ++ address.name ++ " on " ++
    address.host?.getD "None")
  match mysqlTarget address with
  | .error reason => (.error reason, world)
  | .ok target =>
    match world.connect engine target with
    | (.error reason, world) => (.error reason, world)
    | (.ok connection, world) => (.ok (some connection), world)

def connect (engine : Engine σ) (dialect : Dialect) (url : String) (world : World σ) :
    Except Error (Option Nat) × World σ :=
  match dialect with
  | .plain => (.ok none, world)
  | .sqlite =>
    match Address.parse url with
    | .error reason => (.error reason, world)
    | .ok address => connectSqlite engine address world
  | .mysql =>
    match Address.parse url with
    | .error reason => (.error reason, world)
    | .ok address => connectMysql engine address world

end Dialect
end Querywright
