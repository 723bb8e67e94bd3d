import Querywright.Proofs.MentionedParts

/-! What a chain shows of the values bound in it. A chain makes expressions and nested selects, calls
a builder without an executor, and mentions in later calls what it has made. Two runs of one chain
that differ in the values of its open places fail alike, call by call, and write the same texts;
their values are those of the places. -/
namespace Querywright
open Work

inductive ChainCall where
  | onBuilder (move : Move)
  | makeFunction (template : Value) (arguments : List Value)
  | makeTimestamp (part : TimePart) (value : Value)
  | makeSubquery (name : Value)
  | derive (place : Nat) (call : ClauseCall)
  | record (place : Nat) (call : TerminalCall)

/-- A builder at work and the expressions made so far. -/
structure Bench where
  desk : Desk Unit := { builder := {}, outside := () }
  made : List Expression := []

namespace Bench

def subquery (place : Nat) (bench : Bench) : Except Error Subquery :=
  match bench.made[place]? with
  | some (.subquery subquery) => .ok subquery
  | _ => .error (.misuse (.noSuchOperation "builder"))

def grow (bench : Bench) : Except Error Expression → Except Error (Option Value) × Bench
  | .ok fresh => (.ok none, { bench with made := bench.made ++ [fresh] })
  | .error reason => (.error reason, bench)

def filled (filling : Filling) (bench : Bench) : Bench :=
  { desk := bench.desk.filled filling, made := bench.made.map (Expression.filled filling) }

end Bench

namespace ChainCall

def filled (filling : Filling) : ChainCall → ChainCall
  | .onBuilder move => .onBuilder (move.filled filling)
  | .makeFunction template arguments =>
    .makeFunction (template.filled filling false) (arguments.map (Value.filled filling true))
  | .makeTimestamp part value => .makeTimestamp part (value.filled filling (part.binds value))
  | .makeSubquery name => .makeSubquery (name.filled filling false)
  | .derive place call => .derive place (call.filled filling)
  | .record place call => .record place (call.filled filling)

def settled (contents : List Value) : ChainCall → ChainCall
  | .onBuilder move => .onBuilder (move.settled contents)
  | .makeFunction template arguments =>
    .makeFunction (template.settle contents) (arguments.map (Value.settle contents))
  | .makeTimestamp part value => .makeTimestamp part (value.settle contents)
  | .makeSubquery name => .makeSubquery (name.settle contents)
  | .derive place call => .derive place (call.settled contents)
  | .record place call => .record place (call.settled contents)

def perform (schema : Schema) (call : ChainCall) (bench : Bench) :
    Except Error (Option Value) × Bench :=
  match call with
  | .onBuilder move =>
    let (result, desk) := (move.perform (resting schema)).run bench.desk
    (result, { bench with desk := desk })
  | .makeFunction template arguments => bench.grow (Expression.functionOf template arguments)
  | .makeTimestamp part value => bench.grow (timestamp part value)
  | .makeSubquery name => bench.grow ((bench.desk.builder.subquery name).map .subquery)
  | .derive place call =>
    bench.grow (do return .subquery (← (← bench.subquery place).derive call))
  | .record place call =>
    bench.grow (do return .subquery (← (← bench.subquery place).record call))

/-- A call with what it mentions put in. -/
def act (schema : Schema) (call : ChainCall) (bench : Bench) :
    Except Error (Option Value) × Bench :=
  (call.settled (mentioned bench.made)).perform schema bench

end ChainCall

/-- What is seen behind a call: how it ended, the statement kept where it is a text, the values kept
with it, and what every expression made so far is written as. -/
structure Seen where
  ending : Except ErrorFamily Unit
  query : Option String
  arguments : List Value
  nested : List (Except ErrorFamily Fragment)

namespace Seen

def filled (filling : Filling) (seen : Seen) : Seen :=
  { seen with
    arguments := seen.arguments.map (Value.filled filling true)
    nested := seen.nested.map (Except.map (Fragment.filled filling)) }

/-- All but the values. -/
def written (seen : Seen) :
    Except ErrorFamily Unit × Option String × List (Except ErrorFamily String) :=
  (seen.ending, seen.query, seen.nested.map (Except.map Fragment.text))

end Seen

def Bench.seen (result : Except Error (Option Value)) (bench : Bench) : Seen :=
  { ending := (Follows.seen result).map fun _ => ()
    query := bench.desk.builder.results.query.asText?
    arguments := bench.desk.builder.results.arguments
    nested := bench.made.map fun expression => Follows.seen expression.fragment }

def observed (schema : Schema) : List ChainCall → Bench → List Seen
  | [], _ => []
  | call :: rest, bench =>
    let (result, after) := call.act schema bench
    after.seen result :: observed schema rest after

variable (filling : Filling)

structure BenchesFollow (first second : Except Error (Option Value) × Bench) : Prop where
  outcome : Follows (Option.map (Value.filled filling false)) first.1 second.1
  bench : second.2 = first.2.filled filling

variable {filling}

theorem Bench.grow_follows (bench : Bench) {first second : Except Error Expression}
    (followed : Follows (Expression.filled filling) first second) :
    BenchesFollow filling (bench.grow first) ((bench.filled filling).grow second) := by
  cases followed with
  | success fresh => exact ⟨.success none, by simp [grow, filled]⟩
  | failure same => exact ⟨.failure same, rfl⟩

theorem Bench.subquery_follows (place : Nat) (bench : Bench) :
    Follows (Subquery.filled filling) (bench.subquery place)
      ((bench.filled filling).subquery place) := by
  unfold Bench.subquery Bench.filled
  rw [List.getElem?_map]
  cases bench.made[place]? with
  | none => exact .failure rfl
  | some expression =>
    cases expression with
    | subquery subquery => exact .success subquery
    | _ => exact .failure rfl

theorem ChainCall.perform_follows (schema : Schema) (call : ChainCall) (bench : Bench) :
    BenchesFollow filling (call.perform schema bench)
      ((call.filled filling).perform schema (bench.filled filling)) := by
  cases call with
  | onBuilder move =>
    have agreed := @Move.perform_agrees Unit filling schema move
    refine ⟨agreed.outcome bench.desk, ?_⟩
    exact congrArg (fun desk => ({ bench.filled filling with desk := desk } : Bench))
      (agreed.desk bench.desk)
  | makeFunction template arguments =>
    exact bench.grow_follows (Expression.functionOf_follows filling template arguments)
  | makeTimestamp part value => exact bench.grow_follows (timestamp_follows filling part value)
  | makeSubquery name =>
    refine bench.grow_follows (Follows.map ?_ fun _ => rfl)
    exact Subquery.make_follows filling bench.desk.builder.settings.pageLimit name
  | derive place call =>
    refine bench.grow_follows ((bench.subquery_follows place).bind fun subquery _ => ?_)
    exact (subquery.derive_follows filling call).bind fun _ _ => .success _
  | record place call =>
    refine bench.grow_follows ((bench.subquery_follows place).bind fun subquery _ => ?_)
    exact (subquery.record_follows filling call).bind fun _ _ => .success _

variable (filling)

theorem ChainCall.settle_fill (made : List Expression) (call : ChainCall) :
    (call.filled filling).settled (mentioned (made.map (Expression.filled filling))) =
      (call.settled (mentioned made)).filled filling := by
  cases call with
  | onBuilder move => exact congrArg ChainCall.onBuilder (move.settle_fill filling made)
  | makeTimestamp part value =>
    have binds : part.binds (value.settle (mentioned made)) = part.binds value := by
      unfold TimePart.binds
      rw [settle_asText?]
    simp only [filled, settled, Value.settle_fill, binds]
  | _ =>
    simp only [filled, settled, Value.settle_fill, settleRow_fill, ClauseCall.settle_fill,
      TerminalCall.settle_fill]

theorem ChainCall.act_follows (schema : Schema) (call : ChainCall) (bench : Bench) :
    BenchesFollow filling (call.act schema bench)
      ((call.filled filling).act schema (bench.filled filling)) := by
  have settled := call.settle_fill filling bench.made
  unfold ChainCall.act
  rw [show (bench.filled filling).made = bench.made.map (Expression.filled filling) from rfl, settled]
  exact ChainCall.perform_follows schema _ bench

theorem Bench.seen_follows {first second : Except Error (Option Value) × Bench}
    (followed : BenchesFollow filling first second) :
    second.2.seen second.1 = (first.2.seen first.1).filled filling := by
  obtain ⟨outcome, left⟩ := followed
  have ending : ((Follows.seen second.1).map fun _ => ()) = (Follows.seen first.1).map fun _ => () := by
    rw [outcome.seen_eq]
    cases first.1 <;> rfl
  have nested (made : List Expression) :
      ((made.map (Expression.filled filling)).map fun expression => Follows.seen expression.fragment) =
        (made.map fun expression => Follows.seen expression.fragment).map
          (Except.map (Fragment.filled filling)) := by
    rw [List.map_map, List.map_map]
    exact List.map_congr_left fun expression _ => (expression.fragment_follows filling).seen_eq
  have query : (first.2.filled filling).desk.builder.results.query.asText? =
      first.2.desk.builder.results.query.asText? := Value.asText?_fill filling _
  rw [left]
  unfold Bench.seen Seen.filled
  rw [ending, query]
  exact congrArg _ (nested first.2.made)

theorem observed_fill (schema : Schema) (calls : List ChainCall) (bench : Bench) :
    observed schema (calls.map (ChainCall.filled filling)) (bench.filled filling) =
      (observed schema calls bench).map (Seen.filled filling) := by
  induction calls generalizing bench with
  | nil => rfl
  | cons call rest ih =>
    have step := call.act_follows filling schema bench
    have seen := Bench.seen_follows filling step
    have left := step.bench
    simp only [List.map_cons, observed]
    rw [seen, left, ih]

theorem Seen.written_fill (seen : Seen) : (seen.filled filling).written = seen.written := by
  unfold Seen.written Seen.filled
  rw [List.map_map]
  refine congrArg (fun nested => (seen.ending, seen.query, nested)) (List.map_congr_left ?_)
  intro expression _
  cases expression <;> rfl

example :
    let chain : List ChainCall :=
      [.onBuilder (.invoke (.clause (.table [.text "T"]))),
        .onBuilder (.invoke (.clause (.restrict .both [.text "a", .text ">", .text "open"]))),
        .onBuilder (.invoke (.terminal (.get [])))]
    let sevens : Filling := ⟨fun _ => .integer 7, fun _ => rfl, fun _ _ => rfl⟩
    (observed [] (chain.map (ChainCall.filled sevens)) {}).map
        (fun seen => (seen.query, seen.arguments.map Value.asInteger?)) =
      [(some "", []), (some "", []), (some "SELECT * FROM T WHERE a > ?", [some 7])] := by
  decide +kernel

end Querywright
