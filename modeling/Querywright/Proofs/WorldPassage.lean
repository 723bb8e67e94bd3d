import Querywright.Dialect

/-! What an operation does to the world of engines: how many connections it opens, which it closes,
and which statements it sends on which of them. Messages and addresses asked for are no part of
it. -/
namespace Querywright
namespace World

variable {σ : Type}

def sending? : Event → Option (Nat × Value)
  | .executed connection statement _ => some (connection, statement)
  | _ => none

/-- The statements sent so far, each with its connection. -/
def sent (world : World σ) : List (Nat × Value) :=
  world.events.filterMap sending?

/-- From one world to a later one: connections opened, connections closed, statements sent. -/
structure Passes (before after : World σ) (opened : Nat) (closed : List Nat)
    (sent : List (Nat × Value)) : Prop where
  targets : after.targets.length = before.targets.length + opened
  closings : after.closed = closed.reverse ++ before.closed
  sendings : after.sent = before.sent ++ sent

variable {before between after : World σ} {opened more : Nat} {closed others : List Nat}
  {sent further : List (Nat × Value)}

theorem Passes.refl (world : World σ) : world.Passes world 0 [] [] :=
  ⟨by simp, by simp, by simp⟩

theorem Passes.trans (first : before.Passes between opened closed sent)
    (second : between.Passes after more others further) :
    before.Passes after (opened + more) (closed ++ others) (sent ++ further) := by
  constructor
  · rw [second.targets, first.targets, Nat.add_assoc]
  · rw [second.closings, first.closings, List.reverse_append, List.append_assoc]
  · rw [second.sendings, first.sendings, List.append_assoc]

theorem Passes.closed_of_mem (passage : before.Passes after opened closed sent) {connection : Nat}
    (member : connection ∈ closed) : connection ∈ after.closed := by
  rw [passage.closings]
  exact List.mem_append_left _ (List.mem_reverse.mpr member)

theorem Passes.still_closed (passage : before.Passes after opened closed sent) {connection : Nat}
    (member : connection ∈ before.closed) : connection ∈ after.closed := by
  rw [passage.closings]
  exact List.mem_append_right _ member

/-- The engine may change its mind at any time. -/
theorem outside_passes (outside : σ) (world : World σ) :
    world.Passes { world with outside := outside } 0 [] [] :=
  ⟨by simp, by simp, by simp [World.sent]⟩

theorem note_passes (event : Event) (world : World σ) :
    world.Passes (world.note event) 0 [] (sending? event).toList := by
  refine ⟨by simp [note], by simp [note], ?_⟩
  cases shown : sending? event <;> simp [World.sent, note, shown]

theorem log_passes (severity : Severity) (message : String) (world : World σ) :
    world.Passes (world.log severity message) 0 [] [] :=
  note_passes (.logged severity message) world

theorem resolve_passes (engine : Engine σ) (supplier : Nat) (world : World σ) :
    world.Passes (world.resolve engine supplier).2 0 [] [] := by
  unfold resolve
  obtain ⟨result, outside⟩ := engine.resolve supplier world.outside
  have asked := outside_passes outside world
  cases result with
  | error reason => exact asked
  | ok address => exact asked.trans (note_passes (.resolved address) _)

/-- A new connection takes the next number. -/
theorem connect_passes (engine : Engine σ) (target : Target) (world : World σ) :
    match world.connect engine target with
    | (.ok connection, after) =>
      connection = world.targets.length + 1 ∧ world.Passes after 1 [] []
    | (.error _, after) => world.Passes after 0 [] [] := by
  unfold connect
  obtain ⟨refusal, outside⟩ := engine.connect target world.outside
  have asked := outside_passes outside world
  cases refusal with
  | some fault => exact asked.trans (note_passes (.connected none target) _)
  | none =>
    have added : world.Passes
        { world with outside := outside, targets := world.targets ++ [target] } 1 [] [] :=
      ⟨by simp, by simp, by simp [World.sent]⟩
    exact ⟨rfl, added.trans (note_passes (.connected (some _) target) _)⟩

theorem execute_passes (engine : Engine σ) (connection : Nat) (statement : Value)
    (arguments : List Value) (world : World σ) :
    world.Passes (world.execute engine connection statement arguments).2 0 []
      [(connection, statement)] := by
  unfold execute
  obtain ⟨result, outside⟩ := engine.execute connection statement arguments world.outside
  exact (outside_passes outside world).trans (note_passes (.executed _ _ _) _)

theorem close_passes (engine : Engine σ) (connection : Nat) (world : World σ) :
    world.Passes (world.close engine connection).2 0 [connection] [] := by
  unfold close
  obtain ⟨failure, outside⟩ := engine.close connection world.outside
  have shut : world.Passes
      { world with outside := outside, closed := connection :: world.closed } 0 [connection] [] :=
    ⟨by simp, by simp, by simp [World.sent]⟩
  exact shut.trans (note_passes (.closed connection) _)

theorem discard_passes (engine : Engine σ) (connections : List Nat) (world : World σ) :
    world.Passes (world.discard engine connections) 0 connections [] := by
  induction connections generalizing world with
  | nil => exact .refl world
  | cons connection rest ih =>
    exact (close_passes engine connection world).trans (ih (world.close engine connection).2)

end World

namespace Dialect

variable {σ : Type}

/-- What some engines are sent first on every connection. -/
def foreignKeys : Value :=
  .text "PRAGMA foreign_keys = ON"

/-- Statements sent while connections are opened: the first ones, on connections that are new. -/
def AreFirst (before after : World σ) (sent : List (Nat × Value)) : Prop :=
  ∀ sending ∈ sent, before.targets.length < sending.1 ∧ sending.1 ≤ after.targets.length ∧
    sending.2 = foreignKeys

/-- An attempt to connect gives the next connection or none; an attempt that fails may still have
made one, which nobody receives. -/
inductive Opens (before : World σ) : Except Error (Option Nat) × World σ → Prop where
  | opened (after : World σ) (sent : List (Nat × Value)) (passage : before.Passes after 1 [] sent)
      (first : AreFirst before after sent) :
      Opens before (.ok (some (before.targets.length + 1)), after)
  | failed (result : Except Error (Option Nat)) (after : World σ) (made : Nat)
      (sent : List (Nat × Value)) (absent : ∀ connection, result ≠ .ok (some connection))
      (passage : before.Passes after made [] sent) (first : AreFirst before after sent) :
      Opens before (result, after)

theorem connectSqlite_opens (engine : Engine σ) (address : Address) (world : World σ) :
    Opens world (connectSqlite engine address world) := by
  unfold connectSqlite
  dsimp only
  have logged := World.log_passes .information
    ("Connecting to SQLite database " ++ sqlitePath address) world
  generalize world.log .information _ = ready at logged
  have connecting := World.connect_passes engine (.sqlite (sqlitePath address)) ready
  split at connecting
  · rename_i connection linked asked
    obtain ⟨number, connecting⟩ := connecting
    have executing := World.execute_passes engine connection foreignKeys [] linked
    have passage := (logged.trans connecting).trans executing
    rw [logged.targets, Nat.add_zero] at number
    have first : AreFirst world (linked.execute engine connection foreignKeys []).2
        [(connection, foreignKeys)] := by
      intro sending member
      obtain rfl := List.mem_singleton.mp member
      have size := passage.targets
      exact ⟨by dsimp only; omega, by dsimp only; omega, rfl⟩
    rw [asked]
    dsimp only
    rw [← foreignKeys]
    split
    · rename_i reason left executed
      rw [executed] at passage first
      exact .failed _ _ _ _ (by simp) passage first
    · rename_i answer left executed
      rw [executed] at passage first
      subst number
      exact .opened _ _ passage first
  · rename_i reason left asked
    rw [asked]
    exact .failed _ _ _ _ (by simp) (logged.trans connecting) (by simp [AreFirst])

theorem connectMysql_opens (engine : Engine σ) (address : Address) (world : World σ) :
    Opens world (connectMysql engine address world) := by
  unfold connectMysql
  dsimp only
  have logged := World.log_passes .information ("Connecting to MySQL database " ++ address.name ++
    " on " ++ address.host?.getD "None") world
  generalize world.log .information _ = ready at logged
  split
  · exact .failed _ _ _ _ (by simp) logged (by simp [AreFirst])
  · rename_i target aimed
    have connecting := World.connect_passes engine target ready
    split at connecting
    · rename_i connection linked asked
      obtain ⟨number, connecting⟩ := connecting
      rw [logged.targets, Nat.add_zero] at number
      subst number
      rw [asked]
      exact .opened _ _ (logged.trans connecting) (by simp [AreFirst])
    · rename_i reason left asked
      rw [asked]
      exact .failed _ _ _ _ (by simp) (logged.trans connecting) (by simp [AreFirst])

theorem connect_opens (engine : Engine σ) (dialect : Dialect) (url : String) (world : World σ) :
    Opens world (dialect.connect engine url world) := by
  unfold Dialect.connect
  cases dialect with
  | plain => exact .failed _ _ _ _ (by simp) (.refl world) (by simp [AreFirst])
  | sqlite =>
    dsimp only
    split
    · exact .failed _ _ _ _ (by simp) (.refl world) (by simp [AreFirst])
    · exact connectSqlite_opens engine _ world
  | mysql =>
    dsimp only
    split
    · exact .failed _ _ _ _ (by simp) (.refl world) (by simp [AreFirst])
    · exact connectMysql_opens engine _ world

end Dialect
end Querywright
