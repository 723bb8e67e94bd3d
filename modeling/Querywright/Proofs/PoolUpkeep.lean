import Querywright.Proofs.CallerTraffic
import Mathlib.Data.List.Perm.Basic

/-! Operations of a pool behind which nobody holds a connection that was not held before: a taking
that is refused, a ping, and closing what is idle. -/
namespace Querywright

variable {σ : Type}

/-- What the operations send themselves. -/
def IsHousekeeping (statement : Value) : Prop :=
  statement = Dialect.foreignKeys ∨ statement = Pool.probe

theorem Dialect.handedOver_probe (dialect : Dialect) :
    dialect.handedOver Pool.probe (.tuple []) = .ok (Pool.probe, []) := by
  cases dialect <;> rfl

theorem Dialect.AreFirst.housekeeping {before after : World σ} {sent : List (Nat × Value)}
    (first : AreFirst before after sent) (sending : Nat × Value) (member : sending ∈ sent) :
    IsHousekeeping sending.2 :=
  .inl (first sending member).2.2

namespace Pool

/-- From one state of a pool to a later one: new connections it got, connections it closed, statements
sent, connections that left it, and connections lost. -/
structure Upkeep (pool : Pool) (world : World σ) (after : Pool) (left : World σ)
    (gained shut : List Nat) (sent : List (Nat × Value)) (handed lost : List Nat) : Prop where
  passage : ∃ made, gained.length ≤ made ∧ world.Passes left made shut sent
  newcomers : gained = [] ∨ gained = [world.targets.length + 1]
  balance : (after.idle ++ shut).Perm (pool.idle ++ gained)
  housekeeping : ∀ sending ∈ sent, IsHousekeeping sending.2
  addressed : ∀ sending ∈ sent,
    world.targets.length < sending.1 ∧ sending.1 ≤ left.targets.length ∨
      pool.healthy = true ∧ sending.1 ∈ pool.idle
  handing : ∀ connection ∈ handed,
    connection ∈ gained ∨ pool.healthy = true ∧ connection ∈ pool.idle
  losing : ∀ connection ∈ lost,
    after.healthy = false ∧ connection ∈ shut ∧ connection ∈ handed
  renewal : after.healthy = true → pool.healthy = true ∨ gained ≠ []
  shrinking : after.healthy = false → after.idle.Sublist pool.idle

/-- What is seen of it. -/
def witnessed (place : Place) (gained : List Nat) (sent : List (Nat × Value))
    (handed lost : List Nat) : List Occurrence :=
  sent.map (Occurrence.sending none) ++
    (gained.map (.opened place) ++ handed.map (.handedOut place) ++ lost.map (.lost place))

section Witnessed

variable {place : Place} {gained handed lost : List Nat} {sent : List (Nat × Value)}
  {connection : Nat}

theorem sent_mem_witnessed {issuer : Option Nat} {statement : Value}
    (member : .sent issuer connection statement ∈ witnessed place gained sent handed lost) :
    (connection, statement) ∈ sent := by
  simp only [witnessed, List.mem_append, List.mem_map] at member
  rcases member with ⟨sending, present, same⟩ | (⟨_, _, same⟩ | ⟨_, _, same⟩) | ⟨_, _, same⟩
  · cases same
    exact present
  all_goals cases same

@[simp] theorem opened_mem_witnessed {elsewhere : Place} :
    .opened elsewhere connection ∈ witnessed place gained sent handed lost ↔
      elsewhere = place ∧ connection ∈ gained := by
  simp [witnessed, Occurrence.sending, eq_comm, and_comm]

@[simp] theorem handedOut_mem_witnessed {elsewhere : Place} :
    .handedOut elsewhere connection ∈ witnessed place gained sent handed lost ↔
      elsewhere = place ∧ connection ∈ handed := by
  simp [witnessed, Occurrence.sending, eq_comm, and_comm]

@[simp] theorem lost_mem_witnessed {elsewhere : Place} :
    .lost elsewhere connection ∈ witnessed place gained sent handed lost ↔
      elsewhere = place ∧ connection ∈ lost := by
  simp [witnessed, Occurrence.sending, eq_comm, and_comm]

@[simp] theorem raised_mem_witnessed {issuer : Nat} {statement : Value} :
    .raised issuer connection statement ∉ witnessed place gained sent handed lost := by
  simp [witnessed, Occurrence.sending]

end Witnessed

variable {engine : Engine σ} {whole : Bool} {pool after : Pool} {world left : World σ}

theorem close_upkeep (engine : Engine σ) (pool : Pool) (world : World σ) :
    Upkeep pool world (pool.close engine world).1 (pool.close engine world).2 [] pool.idle [] []
      [] := by
  unfold close
  constructor
  case passage => exact ⟨0, Nat.le_refl 0, World.discard_passes engine pool.idle world⟩
  case newcomers => exact .inl rfl
  case balance => simp
  case renewal => exact .inl
  case shrinking => simp
  all_goals simp

/-- A refused taking: what was dropped for it is named. -/
theorem Provided.upkeep {reason : Error}
    (taking : Provided engine whole pool world (.error reason, after, left)) :
    ∃ shut sent, Upkeep pool world after left [] shut sent [] [] ∧
      pool.newcomer? engine whole world = none ∧ (whole = true → shut = pool.idle) := by
  cases taking with
  | refused _ url kept dropped left made sent idle emptied nobody passage first =>
    refine ⟨dropped, sent, ?_, nobody, fun whole => by simp [idle, emptied whole]⟩
    constructor
    case passage => exact ⟨made, Nat.zero_le made, passage⟩
    case newcomers => exact .inl rfl
    case balance => simp [idle]
    case housekeeping => exact first.housekeeping
    case addressed =>
      intro sending member
      have fresh := first sending member
      exact .inl ⟨fresh.1, fresh.2.1⟩
    case renewal => exact .inl
    case shrinking =>
      intro marked
      simp [idle]
    all_goals simp

/-- The probe of a ping, on a connection that it has taken. -/
theorem run_probe {connection : Nat} {report : Except Error Report}
    (running : pool.run engine connection probe (.tuple []) world = (report, after, left)) :
    after = { pool with healthy := pool.healthy && !pool.isLoss report } ∧
      ∃ sent, world.Passes left 0 [] sent ∧ ∀ sending ∈ sent, sending = (connection, probe) := by
  have ran := run_ran engine connection probe (.tuple []) pool world
  rw [running] at ran
  refine ⟨ran.marking, ?_⟩
  rcases ran.sending with ⟨silent, failed⟩ | ⟨statement, values, handed, passage⟩
  · exact ⟨[], silent, by simp⟩
  · rw [pool.dialect.handedOver_probe] at handed
    cases handed
    exact ⟨[(connection, probe)], passage, by simp⟩

/-- A connection that leaves a pool: a new one or the last of a healthy pool. -/
structure Provision (whole : Bool) (pool : Pool) (world : World σ) (connection : Nat)
    (taken : Pool) (opened : World σ) (gained shut : List Nat) (sent : List (Nat × Value)) :
    Prop where
  passage : world.Passes opened gained.length shut sent
  newcomers : gained = [] ∨ gained = [world.targets.length + 1]
  balance : (taken.idle ++ connection :: shut).Perm (pool.idle ++ gained)
  first : Dialect.AreFirst world opened sent
  healthy : taken.healthy = true
  handing : connection ∈ gained ∨ pool.healthy = true ∧ connection ∈ pool.idle
  kept : taken.idle.Sublist pool.idle
  stale : whole = true → pool.healthy = false → shut = pool.idle

theorem Provided.provision {connection : Nat}
    (taking : Provided engine whole pool world (.ok connection, after, left)) :
    ∃ gained shut sent, Provision whole pool world connection after left gained shut sent ∧
      pool.newcomer? engine whole world = gained.head? := by
  cases taking with
  | popped rest _ healthy idle nobody =>
    refine ⟨[], [], [], ?_, nobody⟩
    constructor
    case passage => exact .refl world
    case newcomers => exact .inl rfl
    case balance => simp [idle]
    case first => simp [Dialect.AreFirst]
    case healthy => exact healthy
    case handing => exact .inr ⟨healthy, by simp [idle]⟩
    case kept => simp [idle]
    case stale =>
      intro _ marked
      rw [healthy] at marked
      cases marked
  | opened url kept dropped _ sent idle emptied newcomer passage first =>
    refine ⟨[world.targets.length + 1], dropped, sent, ?_, newcomer⟩
    constructor
    case passage => exact passage
    case newcomers => exact .inr rfl
    case balance =>
      rw [idle, List.append_assoc]
      exact (List.perm_append_singleton _ dropped).symm.append_left kept
    case first => exact first
    case healthy => rfl
    case handing => exact .inl (List.mem_singleton.mpr rfl)
    case kept => simp [idle]
    case stale =>
      intro whole _
      simp [idle, emptied whole]

theorem takings_of_error {place : Place} {reason : Error}
    (taking : pool.provide engine whole world = (.error reason, after, left))
    (nobody : pool.newcomer? engine whole world = none) :
    pool.takings engine place whole world = [] := by
  unfold takings
  rw [nobody, taking]
  rfl

theorem takings_of_ok {place : Place} {connection : Nat} {gained : List Nat}
    (taking : pool.provide engine whole world = (.ok connection, after, left))
    (newcomer : pool.newcomer? engine whole world = gained.head?) (few : gained.length ≤ 1) :
    pool.takings engine place whole world =
      gained.map (.opened place) ++ [.handedOut place connection] := by
  unfold takings
  rw [newcomer, taking]
  cases gained with
  | nil => rfl
  | cons first rest =>
    have none : rest = [] := List.length_eq_zero_iff.mp (Nat.le_zero.mp (Nat.le_of_succ_le_succ few))
    rw [none]
    rfl

theorem losses_of_run {place : Place} {connection : Nat} {statement parameters : Value}
    {report : Except Error Report}
    (running : pool.run engine connection statement parameters world = (report, after, left)) :
    pool.losses engine place connection statement parameters world =
      if pool.isLoss report then [.lost place connection] else [] := by
  unfold losses
  rw [running]

theorem Provision.few {connection : Nat} {gained shut : List Nat} {sent : List (Nat × Value)}
    (provision : Provision whole pool world connection after left gained shut sent) :
    gained.length ≤ 1 := by
  rcases provision.newcomers with none | one
  · simp [none]
  · simp [one]

/-- The statements of a ping: first ones on a new connection, and the probe on the one taken. -/
theorem Provision.probed {connection : Nat} {gained shut : List Nat} {sent : List (Nat × Value)}
    {opened : World σ} {made : Nat} {others : List Nat} {further : List (Nat × Value)}
    (provision : Provision whole pool world connection after opened gained shut sent)
    (passage : opened.Passes left made others further)
    (asked : ∀ sending ∈ further, sending = (connection, probe)) :
    (∀ sending ∈ sent ++ further, IsHousekeeping sending.2) ∧
      ∀ sending ∈ sent ++ further,
        world.targets.length < sending.1 ∧ sending.1 ≤ left.targets.length ∨
          pool.healthy = true ∧ sending.1 ∈ pool.idle := by
  have grown : opened.targets.length ≤ left.targets.length := by simp [passage.targets]
  have opening := provision.passage.targets
  constructor
  · intro sending member
    rcases List.mem_append.mp member with early | late
    · exact provision.first.housekeeping sending early
    · rw [asked sending late]
      exact .inr rfl
  · intro sending member
    rcases List.mem_append.mp member with early | late
    · have fresh := provision.first sending early
      exact .inl ⟨fresh.1, by omega⟩
    · rw [asked sending late]
      rcases provision.handing with new | old
      · rcases provision.newcomers with none | one
        · simp [none] at new
        · rw [one] at new opening
          have same := List.mem_singleton.mp new
          simp only [List.length_singleton] at opening
          exact .inl ⟨by dsimp only; omega, by dsimp only; omega⟩
      · exact .inr old

/-- What a ping does to its pool and what is seen of it. -/
theorem ping_upkeep (engine : Engine σ) (place : Place) (pool : Pool) (world : World σ) :
    ∃ gained shut sent handed lost,
      Upkeep pool world (pool.ping engine world).2.1 (pool.ping engine world).2.2 gained shut sent
        handed lost ∧
      pool.takings engine place true world ++ pool.pingLosses engine place world =
        gained.map (.opened place) ++ handed.map (.handedOut place) ++ lost.map (.lost place) ∧
      (pool.healthy = false → ∀ connection ∈ pool.idle, connection ∈ shut) := by
  have pinging := ping_pinged engine pool world
  have providing := provide_provided engine true pool world
  generalize pool.ping engine world = outcome at pinging
  cases pinging with
  | refused reason after left taking =>
    rw [taking] at providing
    obtain ⟨shut, sent, upkeep, nobody, dropped⟩ := providing.upkeep
    refine ⟨[], shut, sent, [], [], upkeep, ?_, fun _ => by simp [dropped rfl]⟩
    rw [takings_of_error taking nobody, pingLosses, taking]
    rfl
  | returned connection taken opened taking report ran left running healthy result after idle
      still =>
    rw [taking] at providing
    obtain ⟨gained, shut, sent, provision, newcomer⟩ := providing.provision
    obtain ⟨marking, further, passage, asked⟩ := run_probe running
    have unlost : taken.isLoss report = false := by
      have kept := congrArg Pool.healthy marking
      simpa [healthy, provision.healthy] using kept.symm
    have statements := provision.probed passage asked
    refine ⟨gained, shut, sent ++ further, [connection], [], ?_, ?_, ?_⟩
    · constructor
      case passage =>
        exact ⟨gained.length + 0, Nat.le_refl _, by simpa using provision.passage.trans passage⟩
      case newcomers => exact provision.newcomers
      case balance =>
        rw [idle, marking, List.append_assoc]
        exact provision.balance
      case housekeeping => exact statements.1
      case addressed => exact statements.2
      case handing => simpa using provision.handing
      case losing => simp
      case renewal =>
        intro _
        rcases provision.handing with new | old
        · exact .inr (List.ne_nil_of_mem new)
        · exact .inl old.1
      case shrinking =>
        intro marked
        rw [still] at marked
        cases marked
    · rw [takings_of_ok taking newcomer provision.few, pingLosses, taking]
      dsimp only
      rw [losses_of_run running, if_neg (by simp [unlost])]
      simp
    · intro marked
      simp [provision.stale rfl marked]
  | closed connection taken opened taking reason ran left running marked =>
    rw [taking] at providing
    obtain ⟨gained, shut, sent, provision, newcomer⟩ := providing.provision
    obtain ⟨marking, further, passage, asked⟩ := run_probe running
    have lost : taken.isLoss (.error reason : Except Error Report) = true := by
      have kept := congrArg Pool.healthy marking
      simpa [marked, provision.healthy] using kept.symm
    have discarding := World.discard_passes engine [connection] left
    have closing : opened.Passes (left.discard engine [connection]) 0 [connection] further := by
      simpa using passage.trans discarding
    have statements := provision.probed closing asked
    refine ⟨gained, shut ++ [connection], sent ++ further, [connection], [connection], ?_, ?_, ?_⟩
    · constructor
      case passage =>
        exact ⟨gained.length + 0, Nat.le_refl _, provision.passage.trans closing⟩
      case newcomers => exact provision.newcomers
      case balance =>
        rw [marking]
        refine List.Perm.trans ?_ provision.balance
        exact (List.perm_append_singleton connection shut).append_left taken.idle
      case housekeeping => exact statements.1
      case addressed => exact statements.2
      case handing => simpa using provision.handing
      case losing => simp [marked]
      case renewal =>
        intro healthy
        rw [marked] at healthy
        cases healthy
      case shrinking =>
        intro _
        rw [marking]
        exact provision.kept
    · rw [takings_of_ok taking newcomer provision.few, pingLosses, taking]
      dsimp only
      rw [losses_of_run running, if_pos lost]
      simp
    · intro stale other member
      simp [provision.stale rfl stale, member]

end Pool
end Querywright
