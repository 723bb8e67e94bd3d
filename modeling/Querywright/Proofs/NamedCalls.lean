import Querywright.Call.Named
import Querywright.Proofs.WithoutExecutor

/-! The calls that nested selects know, by name: clauses that do not ask for a total, and selects. A
builder takes each of them for the same call. -/
namespace Querywright

theorem Clauses.addOptions_totalRequested (chosen : List Value) (clauses : Clauses) :
    (clauses.addOptions chosen).2.totalRequested = clauses.totalRequested := by
  induction chosen generalizing clauses with
  | nil => rfl
  | cons option rest ih =>
    unfold addOptions
    cases added : clauses.addOption option with
    | error reason => rfl
    | ok extended =>
      refine (ih extended).trans ?_
      unfold addOption at added
      split at added
      · cases added
      · split at added <;> cases added <;> rfl

namespace ClauseCall

theorem settle_totalRequested (clauses : Clauses) (changed : Except Error Clauses)
    (same : ∀ after, changed = .ok after → after.totalRequested = clauses.totalRequested) :
    (settle clauses changed).2.totalRequested = clauses.totalRequested := by
  cases changed with
  | error reason => rfl
  | ok after => exact same after rfl

/-- One call asks for a total; none of the others does. -/
theorem apply_totalRequested (call : ClauseCall) (other : call ≠ .requestTotal)
    (clauses : Clauses) : (call.apply clauses).2.totalRequested = clauses.totalRequested := by
  cases call with
  | table names => rfl
  | groupBy columns => rfl
  | options chosen => exact Clauses.addOptions_totalRequested chosen clauses
  | requestTotal => exact absurd rfl other
  | restrict connector arguments =>
    refine settle_totalRequested clauses _ fun after ok => ?_
    obtain ⟨condition, -, ⟨⟩⟩ := bind_success ok
    rfl
  | restrictGroups connector arguments =>
    refine settle_totalRequested clauses _ fun after ok => ?_
    obtain ⟨condition, -, ⟨⟩⟩ := bind_success ok
    rfl
  | join target condition direction =>
    refine settle_totalRequested clauses _ fun after ok => ?_
    obtain ⟨_, -, ok⟩ := bind_success ok
    obtain ⟨_, -, ok⟩ := bind_success ok
    obtain ⟨_, -, ⟨⟩⟩ := bind_success ok
    rfl
  | restrictJoin connector target arguments =>
    refine settle_totalRequested clauses _ fun after ok => ?_
    unfold Clauses.restrictJoin at ok
    split at ok
    · cases ok
    · obtain ⟨condition, -, ⟨⟩⟩ := bind_success ok
      rfl
  | orderBy column direction ranking =>
    refine settle_totalRequested clauses _ fun after ok => ?_
    unfold Clauses.orderBy at ok
    split at ok
    · split at ok
      · cases ok
      · obtain ⟨direction, -, ⟨⟩⟩ := bind_success ok
        rfl
    · cases ok
  | limit values =>
    refine settle_totalRequested clauses _ fun after ok => ?_
    unfold Clauses.limitTo at ok
    split at ok <;> cases ok
    rfl
  | onDuplicate columns insertIdColumn =>
    refine settle_totalRequested clauses _ fun after ok => ?_
    obtain ⟨names, -, ⟨⟩⟩ := bind_success ok
    rfl

end ClauseCall

/-- A call by name. -/
abbrev NamedCall := String × List Value

namespace NamedCall

def isTerminal (call : NamedCall) : Bool :=
  Subquery.terminalNames.contains call.1

/-- A call that nested selects know, with a text for SQL. -/
structure IsKnown (call : NamedCall) : Prop where
  known : call.1 ∈ Subquery.clauseNames ∨ call.1 ∈ Subquery.terminalNames
  textual : call.1 = "raw_query" → ∀ written, call.2.head? = some written →
    ∃ text, written = .text text

theorem clause_named (name : String) (arguments : List Value)
    (clause : name ∈ Subquery.clauseNames) :
    ∃ result, ClauseCall.ofName name arguments = some result ∧ result ≠ .ok .requestTotal := by
  revert name
  unfold Subquery.clauseNames
  simp only [List.forall_mem_cons]
  refine ⟨?_, ?_, ?_, ?_, ?_, ?_, ?_, ?_, ?_, ?_, ?_, ?_, ?_, ?_, ?_, ?_, ?_, ?_⟩
  case refine_18 => simp
  all_goals
    rcases arguments with _ | ⟨one, _ | ⟨two, _ | ⟨three, _ | ⟨four, rest⟩⟩⟩⟩ <;>
      exact ⟨_, rfl, by simp⟩

theorem clause_performed (name : String) (arguments : List Value)
    (clause : name ∈ Subquery.clauseNames) (result : Except Error ClauseCall)
    (named : ClauseCall.ofName name arguments = some result) :
    BuilderCall.ofName name arguments = some (result.map .clause) := by
  unfold BuilderCall.ofName
  split
  case h_6 => rw [named]
  all_goals
    exact absurd clause (by decide)

theorem terminal_unclaused : ∀ name ∈ Subquery.terminalNames, name ∉ Subquery.clauseNames := by
  decide

/-- A terminal call by name selects, if its arguments are right. -/
theorem terminal_named (name : String) (arguments : List Value)
    (terminal : name ∈ Subquery.terminalNames)
    (textual : name = "raw_query" → ∀ written, arguments.head? = some written →
      ∃ text, written = .text text) :
    ∃ result, TerminalCall.ofName name arguments = some result ∧
      BuilderCall.ofName name arguments = some (result.map .terminal) ∧
      ∀ call, result = .ok call → call.selects = true ∧ call.IsTextual := by
  simp only [Subquery.terminalNames, List.mem_cons, List.not_mem_nil, or_false] at terminal
  rcases terminal with rfl | rfl | rfl | rfl
  case inl | inr.inl =>
    refine ⟨_, rfl, rfl, ?_⟩
    rintro call ⟨⟩
    exact ⟨rfl, trivial⟩
  case inr.inr.inl =>
    cases arguments with
    | nil =>
      refine ⟨_, rfl, rfl, ?_⟩
      rintro call ⟨⟩
    | cons page columns =>
      refine ⟨_, rfl, rfl, ?_⟩
      rintro call ⟨⟩
      exact ⟨rfl, trivial⟩
  case inr.inr.inr =>
    cases arguments with
    | nil =>
      refine ⟨_, rfl, rfl, ?_⟩
      rintro call ⟨⟩
    | cons written values =>
      refine ⟨_, rfl, rfl, ?_⟩
      rintro call ⟨⟩
      exact ⟨rfl, textual rfl written rfl⟩

end NamedCall

end Querywright
