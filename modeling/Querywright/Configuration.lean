import Querywright.Pool

/-! The settings of one named database: its primary and replica addresses and what builders on
it start with. Every option is looked at, so all flaws are told at once. -/
namespace Querywright

def lockMethods : List String :=
  ["READ", "WRITE", "READ LOCAL", "LOW_PRIORITY WRITE"]

structure Configuration where
  primaries : List Source
  replicas : List Source := []
  pageLimit : Int := defaultPageLimit
  lockMethod : String := "WRITE"
  tracing : Bool := false
deriving DecidableEq, Repr

/-- Named options as they were given; a missing one takes its default. -/
abbrev Options := List (String × Value)

namespace Configuration

/-- An address is text, or a supplier of texts. -/
def sourceOf (value : Value) : Except Flaws Source :=
  match value with
  | .supplier number => .ok (.supplied number)
  | other =>
    match fit [] .text other with
    | .ok fitted => .ok (.fixed fitted.value.plain)
    | .error flaws =>
      .error (under (.field "str") flaws ++ [(.supplierType, [.field "callable"])])

def sourcesOf (position : Nat) : List Value → Except Flaws (List Source)
  | [] => .ok []
  | value :: rest =>
    let first := match sourceOf value with
      | .ok source => .ok source
      | .error flaws => .error (under (.index position) flaws)
    (besides first (sourcesOf (position + 1) rest)).map fun (source, others) => source :: others

def addressesOf (name : String) (value : Value) : Except Flaws (List Source) :=
  match listItems? value with
  | none => .error [(.sequenceType, [.field name])]
  | some (items, _) =>
    match sourcesOf 0 items with
    | .ok sources => .ok sources
    | .error flaws => .error (under (.field name) flaws)

def primariesOf : Option Value → Except Flaws (List Source)
  | none => .error [(.missing, [.field "primaries"])]
  | some value =>
    match addressesOf "primaries" value with
    | .ok [] => .error [(.tooShort, [.field "primaries"])]
    | result => result

def replicasOf : Option Value → Except Flaws (List Source)
  | none => .ok []
  | some value => addressesOf "replicas" value

def pageLimitOf : Option Value → Except Flaws Int
  | none => .ok defaultPageLimit
  | some value =>
    match fitNamed "page_limit" .integer value with
    | .error flaws => .error flaws
    | .ok fitted =>
      match fitted.asInteger? with
      | some limit =>
        if 0 < limit then .ok limit else .error [(.notGreater, [.field "page_limit"])]
      | none => .error [(.integerType, [.field "page_limit"])]

def lockMethodOf : Option Value → Except Flaws String
  | none => .ok "WRITE"
  | some value =>
    match value.asText?.filter lockMethods.contains with
    | some method => .ok method
    | none => .error [(.notAmongChoices, [.field "lock_method"])]

def tracingOf : Option Value → Except Flaws Bool
  | none => .ok false
  | some value => (fitNamed "trace" .truth value).map Value.isTrue

def ofOptions (options : Options) : Except Error Configuration :=
  let result := besides (primariesOf (options.lookup "primaries"))
    (besides (replicasOf (options.lookup "replicas"))
      (besides (pageLimitOf (options.lookup "page_limit"))
        (besides (lockMethodOf (options.lookup "lock_method"))
          (tracingOf (options.lookup "trace")))))
  match result with
  | .error flaws => .error (.invalid flaws)
  | .ok (primaries, replicas, pageLimit, lockMethod, tracing) =>
    .ok ⟨primaries, replicas, pageLimit, lockMethod, tracing⟩

end Configuration
end Querywright
