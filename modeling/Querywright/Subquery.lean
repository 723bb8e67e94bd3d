import Querywright.Call

/-! Nested selects. Every call gives a new one and leaves the one it was made on as it is: a
clause call adds to a copy of the clauses, a terminal call records the statement that the nested
select stands for from then on. -/
namespace Querywright

namespace Subquery

/-- An empty nested select with an optional alias. -/
def make (pageLimit derivedName : Value) : Except Error Subquery := do
  let settings ← Settings.ofOptions [("page_limit", pageLimit)]
  let name ← match fitNamed "alias" (.optional .text) derivedName with
    | .ok name => .ok name
    | .error flaws => .error (.invalid flaws)
  return { clauses := {}
           pageLimit := settings.pageLimit.asInteger?.getD defaultPageLimit
           derivedName := name.asText?
           recorded := none }

def derive (call : ClauseCall) (subquery : Subquery) : Except Error Subquery :=
  match call.apply subquery.clauses with
  | (.ok (), clauses) => .ok { subquery with clauses := clauses, recorded := none }
  | (.error reason, _) => .error reason

/-- A builder without an executor that holds the clauses. -/
def desk (subquery : Subquery) : Desk Unit :=
  { builder := { clauses := subquery.clauses
                 settings := { pageLimit := .integer subquery.pageLimit } }
    outside := () }

/-- What a nested select stands for is a text, as which octets count too. -/
def record (call : TerminalCall) (subquery : Subquery) : Except Error Subquery :=
  match (call.perform {}).run subquery.desk with
  | (.error reason, _) => .error reason
  | (.ok _, after) =>
    (invalidOr (fitNamed "statement" .text after.builder.results.query)).map fun statement =>
      { subquery with
        clauses := after.builder.clauses
        recorded := some (statement.plain, after.builder.results.arguments) }

def query (subquery : Subquery) : Except Error String :=
  subquery.rendered.map (·.text)

def parameters (subquery : Subquery) : Except Error (List Value) :=
  subquery.rendered.map (·.arguments)

end Subquery

def Builder.subquery (derivedName : Value) (builder : Builder) : Except Error Subquery :=
  Subquery.make builder.settings.pageLimit derivedName

end Querywright
