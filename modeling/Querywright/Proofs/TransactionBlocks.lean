import Querywright.Proofs.ConnectionOwnership

/-! What is sent on one connection. A log is read from its beginning: statements of nobody's
transaction stand alone, and from a `BEGIN` to the statement that ends it everything is sent by one
tenure. Whoever owns a connection knows what its log has come to. -/
namespace Querywright

def IsControl (statement : Value) : Prop :=
  statement = .text "BEGIN" ∨ ∃ ending : Ending, statement = .text ending.statement

/-- A statement that becomes no transaction control in the style of any engine. -/
def IsOrdinary (statement : Value) : Prop :=
  ∀ style sent, Placeholder.statementInStyle style statement = .ok sent → ¬ IsControl sent

/-- The statements sent on one connection, each with its issuer. -/
abbrev Log := List (Option Nat × Value)

def Occurrence.sentOn? (connection : Nat) : Occurrence → Option (Option Nat × Value)
  | .sent issuer other statement => if other = connection then some (issuer, statement) else none
  | _ => none

def logOf (connection : Nat) (seen : List Occurrence) : Log :=
  seen.filterMap (Occurrence.sentOn? connection)

/-- What a log has come to: nothing unfinished, or the block of a tenure. -/
inductive Bracketed (transacts : Nat → Prop) : Option Nat → Log → Prop where
  | empty : Bracketed transacts none []
  | single (log : Log) (issuer : Option Nat) (statement : Value)
      (rest : Bracketed transacts none log) (ordinary : ¬ IsControl statement) :
      Bracketed transacts none (log ++ [(issuer, statement)])
  | begun (log : Log) (number : Nat) (rest : Bracketed transacts none log)
      (own : transacts number) :
      Bracketed transacts (some number) (log ++ [(some number, .text "BEGIN")])
  | within (log : Log) (number : Nat) (statement : Value)
      (rest : Bracketed transacts (some number) log) (ordinary : ¬ IsControl statement) :
      Bracketed transacts (some number) (log ++ [(some number, statement)])
  | ended (log : Log) (number : Nat) (ending : Ending)
      (rest : Bracketed transacts (some number) log) :
      Bracketed transacts none (log ++ [(some number, .text ending.statement)])

/-- A part of a log: one statement, or a transaction with the statement that ended it, if it has. -/
inductive Segment where
  | single (issuer : Option Nat) (statement : Value)
  | block (number : Nat) (inner : List Value) (ending : Option Ending)

namespace Segment

def sendings : Segment → Log
  | .single issuer statement => [(issuer, statement)]
  | .block number inner ending =>
    (some number, .text "BEGIN") :: inner.map (Prod.mk (some number)) ++
      ending.toList.map fun last => (some number, .text last.statement)

def IsFinished : Segment → Prop
  | .block _ _ ending => ending ≠ none
  | .single .. => True

/-- Blocks belong to transactions, and no other statement controls one. -/
def IsProper (transacts : Nat → Prop) : Segment → Prop
  | .single _ statement => ¬ IsControl statement
  | .block number inner _ => transacts number ∧ ∀ statement ∈ inner, ¬ IsControl statement

end Segment

namespace Bracketed

variable {transacts others : Nat → Prop} {state : Option Nat} {log : Log}

theorem mono (wider : ∀ number, transacts number → others number)
    (bracketed : Bracketed transacts state log) : Bracketed others state log := by
  induction bracketed with
  | empty => exact .empty
  | single log issuer statement _ ordinary ih => exact .single log issuer statement ih ordinary
  | begun log number _ own ih => exact .begun log number ih (wider number own)
  | within log number statement _ ordinary ih => exact .within log number statement ih ordinary
  | ended log number ending _ ih => exact .ended log number ending ih

/-- Statements of the operations themselves change nothing that is unfinished. -/
theorem extend (bracketed : Bracketed transacts none log) (more : Log)
    (ordinary : ∀ entry ∈ more, ¬ IsControl entry.2) : Bracketed transacts none (log ++ more) := by
  induction more generalizing log with
  | nil =>
    rw [List.append_nil]
    exact bracketed
  | cons entry rest ih =>
    have first := Bracketed.single log entry.1 entry.2 bracketed
      (ordinary entry List.mem_cons_self)
    have whole := ih first fun other member => ordinary other (List.mem_cons_of_mem _ member)
    rwa [List.append_assoc] at whole

/-- The unfinished block, if there is one. -/
def pending (state : Option Nat) (inner : List Value) : List Segment :=
  state.toList.map fun number => .block number inner none

/-- A log is a list of finished segments with the unfinished block behind them. -/
theorem segments (bracketed : Bracketed transacts state log) :
    ∃ finished inner, log = (finished ++ pending state inner).flatMap Segment.sendings ∧
      (∀ segment ∈ finished, segment.IsFinished) ∧
      ∀ segment ∈ finished ++ pending state inner, segment.IsProper transacts := by
  induction bracketed with
  | empty => exact ⟨[], [], by simp [pending], by simp, by simp [pending]⟩
  | single log issuer statement _ ordinary ih =>
    obtain ⟨finished, inner, shape, ended, proper⟩ := ih
    refine ⟨finished ++ [.single issuer statement], [], ?_, ?_, ?_⟩
    · simp [shape, pending, Segment.sendings]
    · intro segment member
      rcases List.mem_append.mp member with old | new
      · exact ended segment old
      · rw [List.mem_singleton.mp new]
        exact trivial
    · intro segment member
      simp only [pending, Option.toList_none, List.map_nil, List.append_nil] at member proper
      rcases List.mem_append.mp member with old | new
      · exact proper segment old
      · rw [List.mem_singleton.mp new]
        exact ordinary
  | begun log number _ own ih =>
    obtain ⟨finished, inner, shape, ended, proper⟩ := ih
    refine ⟨finished, [], ?_, ended, ?_⟩
    · simp [shape, pending, Segment.sendings]
    · intro segment member
      simp only [pending, Option.toList_none, List.map_nil, List.append_nil] at proper
      rcases List.mem_append.mp member with old | new
      · exact proper segment old
      · rw [List.mem_singleton.mp new]
        exact ⟨own, by simp⟩
  | within log number statement _ ordinary ih =>
    obtain ⟨finished, inner, shape, ended, proper⟩ := ih
    have block := proper (.block number inner none)
      (List.mem_append_right _ (List.mem_singleton.mpr rfl))
    refine ⟨finished, inner ++ [statement], ?_, ended, ?_⟩
    · simp [shape, pending, Segment.sendings]
    · intro segment member
      rcases List.mem_append.mp member with old | new
      · exact proper segment (List.mem_append_left _ old)
      · rw [List.mem_singleton.mp new]
        refine ⟨block.1, ?_⟩
        intro other inside
        rcases List.mem_append.mp inside with early | late
        · exact block.2 other early
        · rw [List.mem_singleton.mp late]
          exact ordinary
  | ended log number ending _ ih =>
    obtain ⟨finished, inner, shape, past, proper⟩ := ih
    have block := proper (.block number inner none)
      (List.mem_append_right _ (List.mem_singleton.mpr rfl))
    refine ⟨finished ++ [.block number inner (some ending)], [], ?_, ?_, ?_⟩
    · simp [shape, pending, Segment.sendings]
    · intro segment member
      rcases List.mem_append.mp member with old | new
      · exact past segment old
      · rw [List.mem_singleton.mp new]
        exact Option.some_ne_none ending
    · intro segment member
      simp only [pending, Option.toList_none, List.map_nil, List.append_nil] at member
      rcases List.mem_append.mp member with old | new
      · exact proper segment (List.mem_append_left _ old)
      · rw [List.mem_singleton.mp new]
        exact block

end Bracketed
end Querywright
