import Querywright.Expression.Parts
import Querywright.Interval
import Querywright.Session

/-! Calls on the things of a session, by name. -/
namespace Querywright

namespace Session

variable {σ : Type}

open Querywright.Action

def noSuch {α : Type} (name : String) : Action σ α :=
  throw (.misuse (.noSuchOperation name))

/-- A name that is no call, but may be one of the given attributes. -/
def missingCall {α : Type} (attributes : List String) (name : String) : Action σ α :=
  throw (.misuse (.ofMissingCall attributes name))

def wrongArguments {α : Type} : Action σ α :=
  throw (.misuse .argumentCount)

def replyValue (value : Value) : Reply :=
  .item (.value value)

def replyReport (report : Report) : Reply :=
  replyValue report.asValue

def bare (arguments : List Value) (body : Action σ Reply) : Action σ Reply :=
  if arguments.isEmpty then body else wrongArguments

def done (body : Action σ Unit) : Action σ Reply := do
  body
  return replyValue .null

def statementOf (arguments : List Value) : Except Error (Value × Value) :=
  match arguments with
  | [statement] => .ok (statement, .tuple [])
  | [statement, parameters] => .ok (statement, parameters)
  | _ => .error (.misuse .argumentCount)

def failureInside : Error :=
  .fault ⟨.runtime, [.text "boom"]⟩

/-- Lends a connection and takes it back; a second argument makes the borrower fail. -/
def lendAndReturn (engine : Engine σ) (router : Nat) (arguments : List Value) :
    Action σ Reply := do
  if 2 < arguments.length then wrongArguments
  else
    let writes := (arguments.head?.map Value.isTrue).getD true
    let (place, connection) ← onRouter router (Router.lend engine writes)
    onRouter router fun router world =>
      (Except.ok (), router.giveBack engine place connection false world)
    if arguments.length == 2 then throw failureInside
    else return replyValue (.connection connection)

/-- Leaving a block is told to have failed by a true argument. -/
def leavesFailed (arguments : List Value) : Bool :=
  (arguments.head?.map Value.isTrue).getD false

/-! Builders -/

def activeTransaction (builder : Builder) : Action σ Nat := do
  match builder.backing with
  | some (.transaction number) =>
    if (← get).network.isActive number then return number else throw .transactionNotBegun
  | _ => throw .transactionNotBegun

def routerBehind (builder : Builder) : Action σ Nat := do
  ofResult ((← get).network.routerOf builder.backing)

/-- The place on the shelf of a destination, made now for one that has none. -/
def slotOf (destination : Argument) : Action σ Nat := do
  match destination.item with
  | some (.slot number) => return number
  | some (.builder number) => addDestination (.builder number [] [])
  | _ =>
    match Destination.ofValue? destination.value with
    | some fresh => addDestination fresh
    | none => throw (.invalidDestination destination.value.kindName)

def bindDestination (engine : Engine σ) (number : Nat) (destination : Argument)
    (rule : ElementRule) : Action σ Reply := do
  let slot ← slotOf destination
  let setting := setting engine (← builder number) (← get)
  let _ ← work number (BuilderCall.perform setting (.bind slot rule))
  return .itself

def begin (engine : Engine σ) (builder : Builder) : Action σ Reply := do
  match builder.backing with
  | some (.transaction _) => throw .nestedTransaction
  | _ =>
    let router ← routerBehind builder
    let transaction ← onNetwork (Network.begin engine router)
    let settings ← ofResult builder.settings.renewed
    return .item (← addBuilder
      { settings := settings, backing := some (.transaction transaction) })

def finish (engine : Engine σ) (ending : Ending) (builder : Builder) : Action σ Reply := do
  let transaction ← activeTransaction builder
  onNetwork (Network.finish engine ending transaction)
  return .itself

def leave (engine : Engine σ) (failed : Bool) (builder : Builder) : Action σ Reply := do
  match builder.backing with
  | some (.transaction number) => onNetwork (Network.leave engine failed number)
  | _ => return replyValue (.truth false)
  return replyValue (.truth false)

def shownTrace (trace : Trace) : Value :=
  .list [.text trace.query, .list trace.arguments,
    (trace.failure.map Value.text).getD .null, .truth true, .truth true]

def shownFragment (fragment : Fragment) : Value :=
  .mapping [(.text "sql", .text fragment.text), (.text "values", .list fragment.arguments)]

def renderNamed (name : String) (arguments : List Value) (clauses : Clauses) :
    Except Error Fragment :=
  match name, arguments with
  | "render_select", [] => clauses.select []
  | "render_select", [columns] => clauses.selectWith (looseColumnsFragment columns)
  | "render_select", [columns, counting] =>
    let columns := looseColumnsFragment columns
    if counting.isTrue then clauses.selectCountingWith columns else clauses.selectWith columns
  | "render_update", [data] => clauses.update data
  | "render_delete", [] => clauses.delete
  | "render_insert", [keyword, rows] => do
    clauses.requireTable true
    let rendered ← clauses.insert (keyword.asText?.getD "") (← rows.items)
    let _ ← Builder.textOf keyword
    return rendered
  | _, _ => .error (.misuse .argumentCount)

def performCall (engine : Engine σ) (number : Nat) (name : String) (arguments : List Value) :
    Action σ Reply := do
  match BuilderCall.ofName name arguments with
  | none => missingCall ("timestamp" :: Builder.recordType.fields.map (·.name)) name
  | some result =>
    let call ← ofResult result
    let setting := setting engine (← builder number) (← get)
    let itself := (← get).isOwnDestination number
    match ← work number (call.performAs itself setting) with
    | some value => return replyValue value
    | none => return .itself

def callBuilder (engine : Engine σ) (number : Nat) (name : String) (arguments : List Argument) :
    Action σ Reply := do
  let values := arguments.map Argument.value
  let target ← builder number
  match name with
  | "bind" =>
    match arguments with
    | [destination] => bindDestination engine number destination .mapping
    | [destination, element] =>
      bindDestination engine number destination (.ofValue element.value)
    | _ => wrongArguments
  | "clone" => bare values do return .item (← addBuilder (← ofResult target.clone))
  | "query" => return replyValue target.results.query
  | "repr" => return replyValue (.text target.asValue.shown)
  | "params" => return replyValue (.tuple target.results.arguments)
  | "show_traces" => return replyValue (.list (target.traces.map shownTrace))
  | "render_select" | "render_update" | "render_delete" | "render_insert" =>
    return replyValue (shownFragment (← ofResult (renderNamed name values target.clauses)))
  | "sub_query" =>
    match values with
    | [] => return replyValue (.expression (.subquery (← ofResult (target.subquery .null))))
    | [name] => return replyValue (.expression (.subquery (← ofResult (target.subquery name))))
    | _ => wrongArguments
  | "func" =>
    match values with
    | template :: rest =>
      return replyValue (.expression (← ofResult (Expression.functionOf template rest)))
    | [] => wrongArguments
  | "now" => return replyValue (.expression (← ofResult (now values)))
  | "ping" => bare values do
    onRouter (← routerBehind target) (Router.ping engine)
    return .itself
  | "connect" => bare values do
    onRouter (← routerBehind target) (Router.reconnect engine)
    return .itself
  | "disconnect" => bare values do
    onRouter (← routerBehind target) fun router world => (Except.ok (), router.close engine world)
    return .itself
  | "connection" => do lendAndReturn engine (← routerBehind target) values
  | "begin" => bare values (begin engine target)
  | "commit" => bare values (finish engine .commit target)
  | "rollback" => bare values (finish engine .rollback target)
  | "enter" => do
    let _ ← activeTransaction target
    return .itself
  | "exit" => leave engine (leavesFailed values) target
  | _ => performCall engine number name values

/-! Routers, pools and transactions -/

def callRouter (engine : Engine σ) (number : Nat) (name : String) (arguments : List Value) :
    Action σ Reply := do
  match name with
  | "select" =>
    match arguments with
    | [_] =>
      let (statement, _) ← ofResult (statementOf arguments)
      let place ← onRouter number fun router world =>
        let (result, router) := router.select statement
        (result, router, world)
      return .item (.member number place)
    | _ => wrongArguments
  | "primary" => bare arguments do
    let place ← onRouter number fun router world =>
      let (place, router) := router.dispatch .primary
      (.ok place, router, world)
    return .item (.member number place)
  | "execute" => do
    let (statement, parameters) ← ofResult (statementOf arguments)
    return replyReport (← onRouter number (Router.execute engine statement parameters))
  | "connection" => lendAndReturn engine number arguments
  | "ping" => bare arguments (done (onRouter number (Router.ping engine)))
  | "close" => bare arguments (done (onRouter number fun router world =>
    (.ok (), router.close engine world)))
  | "reconnect" => bare arguments (done (onRouter number (Router.reconnect engine)))
  | "dialect" =>
    let dialect ← onRouter number fun router world => (.ok router.dialect, router, world)
    return replyValue (.text dialect.kindName)
  | _ => missingCall ["config", "write_pool", "read_pool"] name

/-- Lets an action work on a pool, be it one of its own or a member of a router. -/
abbrev OnPool (σ : Type) :=
  {α : Type} → (Pool → World σ → Except Error α × Pool × World σ) → Action σ α

def callPool (engine : Engine σ) (onPool : OnPool σ) (name : String) (arguments : List Value) :
    Action σ Reply := do
  match name with
  | "checkout" => bare arguments do
    return replyValue (.connection (← onPool (Pool.checkout engine)))
  | "checkin" =>
    match arguments with
    | .connection connection :: rest =>
      if 1 < rest.length then wrongArguments
      else done (onPool fun pool world =>
        (.ok (), pool.checkin engine connection (leavesFailed rest) world))
    | [_, discarded] => if discarded.isTrue then return replyValue .null else noSuch "close"
    | [_] => noSuch "close"
    | _ => wrongArguments
  | "run" =>
    match arguments with
    | .connection connection :: rest =>
      let (statement, parameters) ← ofResult (statementOf rest)
      return replyReport (← onPool (Pool.run engine connection statement parameters))
    | [_, _] | [_, _, _] => noSuch "cursor"
    | _ => wrongArguments
  | "execute" => do
    let (statement, parameters) ← ofResult (statementOf arguments)
    return replyReport (← onPool (Pool.execute engine statement parameters))
  | "ping" => bare arguments (done (onPool (Pool.ping engine)))
  | "close" => bare arguments (done (onPool fun pool world => (.ok (), pool.close engine world)))
  | "repr" => do
    let label ← onPool fun pool world => (pool.label, pool, world)
    return replyValue (.text label)
  | "dialect" => do
    let dialect ← onPool fun pool world => (.ok pool.dialect, pool, world)
    return replyValue (.text dialect.kindName)
  | _ => missingCall ["url", "is_healthy", "last_used", "last_check"] name

def callTransaction (engine : Engine σ) (number : Nat) (name : String) (arguments : List Value) :
    Action σ Reply := do
  match name with
  | "execute" => do
    let (statement, parameters) ← ofResult (statementOf arguments)
    return replyReport
      (← onNetwork (Network.execute engine (.transaction number) statement parameters))
  | "commit" => bare arguments (done (onNetwork (Network.finish engine .commit number)))
  | "rollback" => bare arguments (done (onNetwork (Network.finish engine .rollback number)))
  | "enter" => return .itself
  | "exit" => do
    onNetwork (Network.leave engine (leavesFailed arguments) number)
    return replyValue (.truth false)
  | _ => missingCall ["router", "active"] name

/-! Values -/

def callSubquery (subquery : Subquery) (name : String) (arguments : List Value) :
    Except Error Value :=
  match name with
  | "query" => subquery.query.map .text
  | "params" | "values" => subquery.parameters.map .tuple
  | "sql" => (Expression.subquery subquery).text.map .text
  | "repr" => .ok (.text (Expression.subquery subquery).shown)
  | _ => (subquery.call name arguments).map fun derived => .expression (.subquery derived)

/-- Names that are looked at and not called. -/
def propertyNames : List String :=
  ["query", "params", "sql", "values", "dialect"]

def propertyOf (record : Value) (fields : List (String × Value)) (name : String) :
    Action σ Value :=
  if name == "repr" then return .text record.shown
  else match fields.lookup name with
    | some value =>
      if propertyNames.contains name then return value else missingCall [name] name
    | none => noSuch name

def callValue (engine : Engine σ) (value : Value) (name : String) (arguments : List Value) :
    Action σ Reply := do
  match value, name with
  | .expression (.subquery subquery), name =>
    return replyValue (← ofResult (callSubquery subquery name arguments))
  | .expression expression, "sql" => return replyValue (.text (← ofResult expression.text))
  | .expression expression, "values" => return replyValue (.tuple (← ofResult expression.values))
  | .connection connection, "close" => bare arguments (done (onWorld fun world =>
    world.close engine connection))
  | .expression inner, "render" =>
    match inner.around?, arguments with
    | some write, [column] => return replyValue (.text (← ofResult (write column.plain)))
    | some _, _ => wrongArguments
    | none, _ => noSuch name
  | .mapping _, "values" => return replyValue (.thing "builtin_function_or_method" [] [] "" "")
  | .record _ fields, name => return replyValue (← propertyOf value fields name)
  | value, "repr" => return replyValue (.text value.shown)
  | .expression inner, name => missingCall (inner.fieldRules.map (·.name)) name
  | _, name => noSuch name

def call (engine : Engine σ) (target : Item) (name : String) (arguments : List Argument) :
    Action σ Reply := do
  let values := arguments.map Argument.value
  match target with
  | .builder number => callBuilder engine number name arguments
  | .router number => callRouter engine number name values
  | .pool number => callPool engine (Action.onPool number) name values
  | .member router place =>
    callPool engine (fun action => onRouter router (Router.act place action)) name values
  | .transaction number => callTransaction engine number name values
  | .slot _ | .value _ => callValue engine ((← get).valueOf target) name values

/-- Sets the page limit of a value. A holder takes it and shows nothing of it, a record takes it as
a field of its own. -/
def setPageLimitOf (schema : Schema) (destination : Destination) (pageLimit : Value) :
    Except Error Destination :=
  match destination with
  | .holder .. | .builder .. => .ok destination
  | .record name fields =>
    if schema.isFrozen name then .error (.invalid [(.frozenRecord, [.field "page_limit"])])
    else if (fields.lookup "page_limit").isSome
    then .ok (.record name (replaceFields ["page_limit"] [("page_limit", pageLimit)] fields))
    else .error (.misuse (.noSuchField "page_limit"))
  | .expression _ => .error (.misuse (.noSuchField "page_limit"))
  | _ => .error (.misuse (.noSuchOperation "page_limit"))

/-- Sets the page limit of a builder without looking at it. Routers, pools, transactions,
connections and suppliers take it and show nothing of it. -/
def setPageLimit (target : Item) (pageLimit : Value) : Action σ Unit := do
  match target with
  | .builder number => setBuilder number ((← builder number).setPageLimit pageLimit)
  | .router _ | .pool _ | .member .. | .transaction _ | .value (.connection _)
  | .value (.supplier _) => return ()
  | .slot number =>
    match (← get).shelf[number]? with
    | none => noSuch "page_limit"
    | some destination =>
      let changed ← ofResult (setPageLimitOf (← get).schema destination pageLimit)
      modify fun session => { session with shelf := session.shelf.set number changed }
  | .value _ => noSuch "page_limit"

/-- Gives the outcome of a call a name. -/
def keep (name : Option String) (target : Item) (reply : Reply) (session : Session σ) :
    Session σ :=
  match name with
  | none => session
  | some name =>
    session.remember name (match reply with
      | .itself => target
      | .item item => item)

end Session
end Querywright
