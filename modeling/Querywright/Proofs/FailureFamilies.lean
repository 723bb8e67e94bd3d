import Querywright.Fragment
import Mathlib.Data.List.Basic

/-! Two outcomes side by side. Messages quote what a caller handed over, the class of a failure does
not; so a failure is known by its family, and an outcome follows another when both fail in one
family or the value of the one is that of the other, changed. -/
namespace Querywright

inductive ErrorFamily where
  | builder
  | tableNotSpecified
  | columnNotSpecified
  | invalidDestination
  | dataTypeMismatch
  | placeholderCount
  | invalidCondition
  | invalidBetween
  | emptyInList
  | joinNotFound
  | invalidArgument
  | transaction
  | unbegunTransaction
  | validation
  | type
  | value
  | attribute
  | index
  | key
  | overflow
  | zeroDivision
  | notImplemented
  | typeDeclaration
  | typeSchema
  | engine (kind : FaultKind)
deriving DecidableEq

def Misuse.family : Misuse → ErrorFamily
  | .argumentCount | .notIterable _ | .notText _ | .octetsRequired | .notNumber _
  | .notWholeNumber _ | .notAddable .. | .notJoinable .. | .unordered .. | .unhashable _
  | .unassignable _ | .notCallable _ => .type
  | .noSuchOperation _ => .attribute
  | .rowTooShort => .index
  | .unknownName _ => .key
  | .noSuchField _ | .notPair _ | .malformedPattern | .unreadableNumber _ | .notFinite
  | .tooManyDigits | .invalidBrackets | .invalidVersionedHost | .dottedHostInBrackets
  | .invalidHost _ | .disguisedAuthority _ | .invalidPort _ | .portOutOfRange => .value
  | .unknownType _ => .typeDeclaration
  | .noType _ => .typeSchema
  | .infinite | .quotientTooLarge | .numberTooLarge => .overflow
  | .divisionByZero => .zeroDivision

def Error.family : Error → ErrorFamily
  | .unsupportedStyle _ | .emptyTemplate | .unsupportedScheme _ | .unknownDatabase _ => .value
  | .placeholderCount .. => .placeholderCount
  | .noTable | .invalidTable _ | .invalidJoinTarget _ | .noTableToLock => .tableNotSpecified
  | .emptyCondition | .invalidConditionColumn _ | .invalidOrderColumn _ | .invalidColumn _
  | .noColumnToWrite | .noRowToInsert => .columnNotSpecified
  | .payloadNotMapping _ | .rowsNotList _ | .unevenRows => .dataTypeMismatch
  | .misplacedExistence | .invalidOperator .. | .operandCount .. => .invalidCondition
  | .rangeCount .. => .invalidBetween
  | .emptyMembership _ => .emptyInList
  | .joinNotFound _ => .joinNotFound
  | .invalidInterval _ | .unknownMonth _ | .unknownWeekday _ | .invalidJoinDirection _
  | .subqueryWithoutAlias | .invalidOrderDirection _ | .invalidLimit _ | .unknownOption _
  | .invalidLockMethod _ | .pageLimitNotPositive | .invalidPage _ => .invalidArgument
  | .frozenDestination _ | .invalidDestination _ => .invalidDestination
  | .noConnection => .builder
  | .nestedTransaction | .transactionOver => .transaction
  | .transactionNotBegun => .unbegunTransaction
  | .baseExpression => .notImplemented
  | .timestampAlone => .type
  | .invalid _ => .validation
  | .fault reported => .engine reported.kind
  | .misuse cause => cause.family

variable {α β γ δ : Type}

inductive Follows (change : α → β) : Except Error α → Except Error β → Prop where
  | success (value : α) : Follows change (.ok value) (.ok (change value))
  | failure {reason other : Error} (same : reason.family = other.family) :
      Follows change (.error reason) (.error other)

namespace Follows

variable {change : α → β} {first : Except Error α} {second : Except Error β}

theorem of_eq {value : α} {result : β} (same : result = change value) :
    Follows change (.ok value) (.ok result) :=
  same ▸ .success value

theorem same (outcome : Except Error α) : Follows id outcome outcome := by
  cases outcome with
  | error reason => exact .failure rfl
  | ok value => exact .success value

theorem bind {further : γ → δ} {continued : α → Except Error γ} {resumed : β → Except Error δ}
    (followed : Follows change first second)
    (next : ∀ value, first = .ok value → Follows further (continued value) (resumed (change value))) :
    Follows further (first >>= continued) (second >>= resumed) := by
  cases followed with
  | success value => exact next value rfl
  | failure same => exact .failure same

theorem map {further : γ → δ} {made : α → γ} {remade : β → δ}
    (followed : Follows change first second)
    (commutes : ∀ value, remade (change value) = further (made value)) :
    Follows further (first.map made) (second.map remade) := by
  cases followed with
  | success value => exact .of_eq (commutes value)
  | failure same => exact .failure same

theorem mapM {further : γ → δ} {step : α → Except Error γ} {other : β → Except Error δ}
    (items : List α)
    (each : ∀ item ∈ items, Follows further (step item) (other (change item))) :
    Follows (List.map further) (items.mapM step) ((items.map change).mapM other) := by
  induction items with
  | nil => exact .success []
  | cons item rest ih =>
    rw [List.map_cons, List.mapM_cons, List.mapM_cons]
    refine (each item (by simp)).bind fun result _ => ?_
    refine (ih fun later member => each later (by simp [member])).bind fun results _ => ?_
    exact .success (result :: results)

/-- What can be seen of an outcome: its value, or the family of its failure. -/
def seen (outcome : Except Error α) : Except ErrorFamily α :=
  outcome.mapError Error.family

theorem seen_eq (followed : Follows change first second) : seen second = (seen first).map change := by
  cases followed with
  | success value => rfl
  | failure same => exact congrArg Except.error same.symm

/-- A change that tells values apart tells their outcomes apart. -/
theorem of_map {made : α → β} (distinct : Function.Injective made) {first second : Except Error α}
    (followed : Follows id (first.map made) (second.map made)) : Follows id first second := by
  have same := followed.seen_eq
  cases first with
  | error reason =>
    cases second with
    | error other => exact .failure (Except.error.inj same).symm
    | ok value => cases same
  | ok value =>
    cases second with
    | error reason => cases same
    | ok other => exact .of_eq (distinct (Except.ok.inj same))

end Follows
end Querywright
