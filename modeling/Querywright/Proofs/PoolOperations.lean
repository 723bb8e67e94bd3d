import Querywright.Pool
import Querywright.Proofs.WorldPassage

/-! What the operations of a pool can do, each said once: taking a connection, running a statement on
it, giving it back, and asking whether the database answers. -/
namespace Querywright

variable {α β σ : Type}

/-- No failure that an engine reports: what goes wrong is found out on this side. -/
def IsFaultless (outcome : Except Error α) : Prop :=
  ∀ fault, outcome ≠ .error (.fault fault)

namespace IsFaultless

theorem ok (value : α) : IsFaultless (.ok value : Except Error α) := by
  intro fault same
  cases same

theorem misuse (misuse : Misuse) : IsFaultless (.error (.misuse misuse) : Except Error α) := by
  intro fault same
  cases same

theorem invalid (flaws : Flaws) : IsFaultless (.error (.invalid flaws) : Except Error α) := by
  intro fault same
  cases same

theorem bind {first : Except Error α} {next : α → Except Error β} (start : IsFaultless first)
    (rest : ∀ value, IsFaultless (next value)) : IsFaultless (first >>= next) := by
  cases first with
  | error reason =>
    intro fault same
    cases same
    exact start fault rfl
  | ok value => exact rest value

theorem mapM {step : α → Except Error β} (each : ∀ item, IsFaultless (step item))
    (items : List α) : IsFaultless (items.mapM step) := by
  induction items with
  | nil => exact .ok []
  | cons item rest ih =>
    rw [List.mapM_cons]
    exact (each item).bind fun first => ih.bind fun others => .ok (first :: others)

end IsFaultless

theorem Value.items_faultless (value : Value) : IsFaultless value.items := by
  unfold Value.items
  split
  · exact .ok _
  · exact .misuse _

theorem Placeholder.formattedPiece_faultless (piece : Value × (Char × Bool)) :
    IsFaultless (formattedPiece piece) := by
  unfold formattedPiece
  split
  · exact .ok _
  · exact .misuse _

theorem Dialect.handedOver_faultless (dialect : Dialect) (statement parameters : Value) :
    IsFaultless (dialect.handedOver statement parameters) := by
  have styled : IsFaultless (Placeholder.statementInStyle dialect.style statement) := by
    unfold Placeholder.statementInStyle
    split
    · exact .ok _
    · exact .ok _
    · exact (Value.items_faultless _).bind fun pieces =>
        (IsFaultless.mapM Placeholder.formattedPiece_faultless _).bind fun texts => .ok _
  exact styled.bind fun statement => parameters.items_faultless.bind fun values => .ok _

theorem Dialect.insertIds_faultless (dialect : Dialect) (lastrowid rowcount : Value) :
    IsFaultless (dialect.insertIds lastrowid rowcount) := by
  have counted : IsFaultless (reportsNoRow rowcount) := by
    unfold reportsNoRow
    split
    · exact .ok _
    · exact .ok _
    · exact .misuse _
  unfold Dialect.insertIds
  split
  · exact .ok _
  · refine counted.bind fun none => ?_
    split
    · exact .ok _
    · split
      · exact .ok _
      · exact .misuse _

theorem Report.ofAnswer_faultless (dialect : Dialect) (answer : Answer) :
    IsFaultless (ofAnswer dialect answer) := by
  unfold ofAnswer
  split
  · refine (dialect.insertIds_faultless _ _).bind fun ids => ?_
    dsimp only
    split
    · exact .ok _
    · exact .invalid _
  · refine (IsFaultless.ok []).bind fun ids => ?_
    dsimp only
    split
    · exact .ok _
    · exact .invalid _

namespace Pool

theorem source_passes (engine : Engine σ) (source : Source) (world : World σ) :
    world.Passes (source.resolve engine world).2 0 [] [] := by
  cases source with
  | fixed address => exact .refl world
  | supplied number => exact World.resolve_passes engine number world

/-- The connection that the dialect gives when one is opened for the pool. -/
def connected? (engine : Engine σ) (pool : Pool) (world : World σ) : Option Nat :=
  match pool.source.resolve engine world with
  | (.error _, _) => none
  | (.ok url, world) =>
    match (pool.dialect.connect engine url world).1 with
    | .error _ => none
    | .ok connection => connection

/-- Opening a connection for a pool: the pool is healthy behind it, or none is opened and the pool
knows another address at most. -/
inductive Attempted (engine : Engine σ) (pool : Pool) (world : World σ) :
    Except Error Nat × Pool × World σ → Prop where
  | opened (url : String) (left : World σ) (sent : List (Nat × Value))
      (newcomer : pool.connected? engine world = some (world.targets.length + 1))
      (passage : world.Passes left 1 [] sent) (first : Dialect.AreFirst world left sent) :
      Attempted engine pool world (.ok (world.targets.length + 1),
        { pool with url := url, healthy := true, used := true }, left)
  | refused (reason : Error) (url : String) (left : World σ) (made : Nat)
      (sent : List (Nat × Value)) (nobody : pool.connected? engine world = none)
      (passage : world.Passes left made [] sent) (first : Dialect.AreFirst world left sent) :
      Attempted engine pool world (.error reason, { pool with url := url }, left)

theorem openConnection_attempted (engine : Engine σ) (pool : Pool) (world : World σ) :
    Attempted engine pool world (openConnection engine pool world) := by
  have newcomer : pool.connected? engine world = pool.connected? engine world := rfl
  conv at newcomer => rhs; unfold connected?
  unfold openConnection
  have asking := source_passes engine pool.source world
  dsimp only
  generalize pool.source.resolve engine world = resolving at asking newcomer ⊢
  obtain ⟨resolved, asked⟩ := resolving
  cases resolved with
  | error reason =>
    exact .refused reason pool.url asked 0 [] newcomer asking (by simp [Dialect.AreFirst])
  | ok url =>
    have opening := Dialect.connect_opens engine pool.dialect url asked
    have same : asked.targets.length = world.targets.length := asking.targets
    dsimp only at newcomer ⊢
    generalize pool.dialect.connect engine url asked = outcome at newcomer opening ⊢
    cases opening with
    | opened after sent linking first =>
      have whole : world.Passes after 1 [] sent := by simpa using asking.trans linking
      rw [Dialect.AreFirst, same] at first
      rw [same] at newcomer ⊢
      have logged := World.log_passes .information ("Opened connection to " ++ labelText
        { pool with url := url }) after
      refine .opened url _ sent newcomer (by simpa using whole.trans logged) ?_
      intro sending member
      rw [logged.targets]
      exact first sending member
    | failed result after made sent absent linking first =>
      have whole : world.Passes after made [] sent := by simpa using asking.trans linking
      rw [Dialect.AreFirst, same] at first
      cases result with
      | error reason => exact .refused reason url after made sent newcomer whole first
      | ok connection =>
        cases connection with
        | none => exact .refused _ url after made sent newcomer whole first
        | some connection => exact absurd rfl (absent connection)

/-- Taking a connection, or only the last part of it, which opens one whatever is idle. -/
def provide (engine : Engine σ) (whole : Bool) (pool : Pool) (world : World σ) :
    Except Error Nat × Pool × World σ :=
  if whole then pool.checkout engine world else pool.openConnection engine world

/-- The connection that the dialect gives while one is taken from the pool, if it is asked. -/
def newcomer? (engine : Engine σ) (whole : Bool) (pool : Pool) (world : World σ) : Option Nat :=
  if !whole then pool.connected? engine world
  else if !pool.healthy then
    connected? engine { pool with idle := [] } (world.discard engine pool.idle)
  else if pool.idle.isEmpty then pool.connected? engine world
  else none

/-- Taking a connection: the last idle one of a pool that is not marked, or a new one when none is
idle any more, those of a marked pool being closed first. -/
inductive Provided (engine : Engine σ) (whole : Bool) (pool : Pool) (world : World σ) :
    Except Error Nat × Pool × World σ → Prop where
  | popped (rest : List Nat) (connection : Nat) (healthy : pool.healthy = true)
      (idle : pool.idle = rest ++ [connection])
      (nobody : pool.newcomer? engine whole world = none) :
      Provided engine whole pool world
        (.ok connection, { pool with idle := rest, used := true }, world)
  | opened (url : String) (kept dropped : List Nat) (left : World σ) (sent : List (Nat × Value))
      (idle : pool.idle = kept ++ dropped) (emptied : whole = true → kept = [])
      (newcomer : pool.newcomer? engine whole world = some (world.targets.length + 1))
      (passage : world.Passes left 1 dropped sent) (first : Dialect.AreFirst world left sent) :
      Provided engine whole pool world (.ok (world.targets.length + 1),
        { pool with url := url, healthy := true, idle := kept, used := true }, left)
  | refused (reason : Error) (url : String) (kept dropped : List Nat) (left : World σ)
      (made : Nat) (sent : List (Nat × Value)) (idle : pool.idle = kept ++ dropped)
      (emptied : whole = true → kept = []) (nobody : pool.newcomer? engine whole world = none)
      (passage : world.Passes left made dropped sent)
      (first : Dialect.AreFirst world left sent) :
      Provided engine whole pool world
        (.error reason, { pool with url := url, idle := kept }, left)

/-- An attempt behind which nothing idle is dropped. -/
theorem Attempted.provided {engine : Engine σ} {whole : Bool} {pool : Pool} {world : World σ}
    {outcome : Except Error Nat × Pool × World σ} (attempt : Attempted engine pool world outcome)
    (emptied : whole = true → pool.idle = [])
    (same : pool.newcomer? engine whole world = pool.connected? engine world) :
    Provided engine whole pool world outcome := by
  cases attempt with
  | opened url left sent newcomer passage first =>
    exact .opened url pool.idle [] left sent (List.append_nil _).symm emptied
      (same.trans newcomer) passage first
  | refused reason url left made sent nobody passage first =>
    exact .refused reason url pool.idle [] left made sent (List.append_nil _).symm emptied
      (same.trans nobody) passage first

theorem checkout_marked (engine : Engine σ) (pool : Pool) (world : World σ)
    (marked : pool.healthy = false) :
    pool.checkout engine world =
      openConnection engine { pool with idle := [] } (world.discard engine pool.idle) := by
  unfold checkout
  rw [if_neg (by simp [marked])]

/-- The idle connections of a marked pool are closed before another one is opened. -/
theorem marked_provided (engine : Engine σ) (pool : Pool) (world : World σ)
    (marked : pool.healthy = false) :
    Provided engine true pool world (pool.checkout engine world) := by
  rw [checkout_marked engine pool world marked]
  have dropping := World.discard_passes engine pool.idle world
  have same : (world.discard engine pool.idle).targets.length = world.targets.length :=
    dropping.targets
  have asked : pool.newcomer? engine true world =
      connected? engine { pool with idle := [] } (world.discard engine pool.idle) := by
    rw [newcomer?, if_neg (by simp), if_pos (by simp [marked])]
  have attempt := openConnection_attempted engine { pool with idle := [] }
    (world.discard engine pool.idle)
  generalize openConnection engine { pool with idle := [] } _ = outcome at attempt
  cases attempt with
  | opened url left sent newcomer passage first =>
    rw [same] at newcomer ⊢
    rw [Dialect.AreFirst, same] at first
    have reached : world.Passes left 1 pool.idle sent := by simpa using dropping.trans passage
    exact .opened url [] pool.idle left sent rfl (fun _ => rfl) (asked.trans newcomer) reached
      first
  | refused reason url left made sent nobody passage first =>
    rw [Dialect.AreFirst, same] at first
    have reached : world.Passes left made pool.idle sent := by
      simpa using dropping.trans passage
    exact .refused reason url [] pool.idle left made sent rfl (fun _ => rfl)
      (asked.trans nobody) reached first

theorem unmarked_provided (engine : Engine σ) (pool : Pool) (world : World σ)
    (healthy : pool.healthy = true) :
    Provided engine true pool world (pool.checkout engine world) := by
  unfold checkout
  rw [if_pos healthy]
  cases last : pool.idle.getLast? with
  | some connection =>
    obtain ⟨rest, idle⟩ := List.getLast?_eq_some_iff.mp last
    have nobody : pool.newcomer? engine true world = none := by simp [newcomer?, healthy, idle]
    dsimp only
    rw [idle, List.dropLast_concat]
    exact .popped rest connection healthy idle nobody
  | none =>
    have empty : pool.idle = [] := List.getLast?_eq_none_iff.mp last
    exact (openConnection_attempted engine pool world).provided (fun _ => empty)
      (by simp [newcomer?, healthy, empty])

theorem provide_provided (engine : Engine σ) (whole : Bool) (pool : Pool) (world : World σ) :
    Provided engine whole pool world (pool.provide engine whole world) := by
  unfold provide
  cases whole with
  | false =>
    exact (openConnection_attempted engine pool world).provided (by simp) (by simp [newcomer?])
  | true =>
    rw [if_pos rfl]
    rcases Bool.eq_false_or_eq_true pool.healthy with healthy | marked
    · exact unmarked_provided engine pool world healthy
    · exact marked_provided engine pool world marked

/-- Whether an outcome is a failure that means that the connection is lost. -/
def isLoss (pool : Pool) (outcome : Except Error α) : Bool :=
  match outcome with
  | .error (.fault fault) => pool.dialect.isDisconnect fault
  | _ => false

theorem isLoss_of_faultless (pool : Pool) {outcome : Except Error α}
    (faultless : IsFaultless outcome) : pool.isLoss outcome = false := by
  unfold isLoss
  split
  · exact absurd rfl (faultless _)
  · rfl

/-- Running a statement marks the pool exactly when the failure means a lost connection. The
statement is sent in the style of the dialect, or the run fails before that. -/
structure Ran (connection : Nat) (statement parameters : Value) (pool : Pool)
    (world : World σ) (outcome : Except Error Report × Pool × World σ) : Prop where
  marking : outcome.2.1 = { pool with healthy := pool.healthy && !pool.isLoss outcome.1 }
  sending : (world.Passes outcome.2.2 0 [] [] ∧ ∃ reason, outcome.1 = .error reason) ∨
    ∃ sent values, pool.dialect.handedOver statement parameters = .ok (sent, values) ∧
      world.Passes outcome.2.2 0 [] [(connection, sent)]

theorem notice_eq (fault : Fault) (pool : Pool) (world : World σ) :
    (pool.notice fault world).1 = { pool with
      healthy := pool.healthy && !pool.isLoss (.error (.fault fault) : Except Error Report) } ∧
      world.Passes (pool.notice fault world).2 0 [] [] := by
  unfold notice isLoss
  dsimp only
  cases pool.dialect.isDisconnect fault with
  | true => exact ⟨by simp, World.log_passes .warning _ world⟩
  | false => exact ⟨by simp, .refl world⟩

theorem run_ran (engine : Engine σ) (connection : Nat) (statement parameters : Value)
    (pool : Pool) (world : World σ) :
    Ran connection statement parameters pool world
      (pool.run engine connection statement parameters world) := by
  have unmarked (outcome : Except Error Report) (faultless : IsFaultless outcome) :
      pool = { pool with healthy := pool.healthy && !pool.isLoss outcome } := by
    simp [isLoss_of_faultless pool faultless]
  unfold run
  cases world.readiness connection with
  | error fault =>
    have noticed := notice_eq fault pool world
    exact ⟨noticed.1, .inl ⟨noticed.2, _, rfl⟩⟩
  | ok ready =>
    have faultless := pool.dialect.handedOver_faultless statement parameters
    dsimp only
    cases handed : pool.dialect.handedOver statement parameters with
    | error reason =>
      rw [handed] at faultless
      have same : IsFaultless (.error reason : Except Error Report) := by
        intro fault equal
        cases equal
        exact faultless fault rfl
      exact ⟨unmarked _ same, .inl ⟨.refl world, reason, rfl⟩⟩
    | ok given =>
      obtain ⟨sent, values⟩ := given
      have executing := World.execute_passes engine connection sent values world
      dsimp only
      generalize world.execute engine connection sent values = outcome at executing ⊢
      obtain ⟨result, left⟩ := outcome
      cases result with
      | ok answer =>
        have same := Report.ofAnswer_faultless pool.dialect answer
        exact ⟨unmarked _ same, .inr ⟨sent, values, handed, executing⟩⟩
      | error reason =>
        cases reason with
        | fault fault =>
          have noticed := notice_eq fault pool left
          have whole := executing.trans noticed.2
          exact ⟨noticed.1, .inr ⟨sent, values, handed, whole⟩⟩
        | _ => exact ⟨by simp [isLoss], .inr ⟨sent, values, handed, executing⟩⟩

variable {engine : Engine σ} {whole : Bool} {pool after : Pool} {world left : World σ}
  {connection : Nat}

/-- A pool that gives a connection away is not marked. -/
theorem Provided.healthy
    (taking : Provided engine whole pool world (.ok connection, after, left)) :
    after.healthy = true := by
  cases taking with
  | popped rest connection healthy => exact healthy
  | opened => rfl

theorem checkin_closed (engine : Engine σ) (connection : Nat) (discarded : Bool) (pool : Pool)
    (world : World σ) (closes : discarded = true ∨ pool.healthy = false) :
    pool.checkin engine connection discarded world = (pool, world.discard engine [connection]) := by
  unfold checkin
  rw [if_pos (by simpa using closes)]

theorem checkin_kept (engine : Engine σ) (connection : Nat) (pool : Pool) (world : World σ)
    (healthy : pool.healthy = true) :
    pool.checkin engine connection false world =
      ({ pool with idle := pool.idle ++ [connection] }, world) := by
  unfold checkin
  rw [if_neg (by simp [healthy])]

def probe : Value :=
  .text "SELECT 1"

/-- A ping takes a connection, asks on it, and gives it back; it marks the pool as healthy only where
it is so already. -/
inductive Pinged (engine : Engine σ) (pool : Pool) (world : World σ) :
    Except Error Unit × Pool × World σ → Prop where
  | refused (reason : Error) (after : Pool) (left : World σ)
      (taking : pool.provide engine true world = (.error reason, after, left)) :
      Pinged engine pool world (.error reason, after, left)
  | returned (connection : Nat) (taken : Pool) (opened : World σ)
      (taking : pool.provide engine true world = (.ok connection, taken, opened))
      (report : Except Error Report) (ran : Pool) (left : World σ)
      (running : taken.run engine connection probe (.tuple []) opened = (report, ran, left))
      (healthy : ran.healthy = true) (result : Except Error Unit) (after : Pool)
      (idle : after.idle = ran.idle ++ [connection]) (still : after.healthy = true) :
      Pinged engine pool world (result, after, left)
  | closed (connection : Nat) (taken : Pool) (opened : World σ)
      (taking : pool.provide engine true world = (.ok connection, taken, opened))
      (reason : Error) (ran : Pool) (left : World σ)
      (running : taken.run engine connection probe (.tuple []) opened = (.error reason, ran, left))
      (marked : ran.healthy = false) :
      Pinged engine pool world (.error reason, ran, left.discard engine [connection])

theorem ping_pinged (engine : Engine σ) (pool : Pool) (world : World σ) :
    Pinged engine pool world (pool.ping engine world) := by
  have providing := provide_provided engine true pool world
  have same : pool.checkout engine world = pool.provide engine true world := rfl
  unfold ping execute
  rw [same]
  generalize taking : pool.provide engine true world = outcome at providing
  obtain ⟨result, taken, opened⟩ := outcome
  cases result with
  | error reason => exact .refused reason taken opened taking
  | ok connection =>
    have ran := run_ran engine connection probe (.tuple []) taken opened
    dsimp only
    rw [← probe]
    generalize running : taken.run engine connection probe (.tuple []) opened = outcome at ran
    obtain ⟨report, after, left⟩ := outcome
    have marking : after.healthy = (taken.healthy && !taken.isLoss report) :=
      congrArg Pool.healthy ran.marking
    rw [providing.healthy, Bool.true_and] at marking
    dsimp only
    cases healthy : after.healthy with
    | true =>
      rw [checkin_kept engine connection after left healthy]
      cases report with
      | error reason =>
        exact .returned connection taken opened taking _ after left running healthy _ _ rfl healthy
      | ok report =>
        exact .returned connection taken opened taking _ after left running healthy _ _ rfl rfl
    | false =>
      rw [checkin_closed engine connection false after left (.inr healthy)]
      cases report with
      | error reason =>
        exact .closed connection taken opened taking reason after left running healthy
      | ok report =>
        rw [healthy] at marking
        cases marking

end Pool
end Querywright
