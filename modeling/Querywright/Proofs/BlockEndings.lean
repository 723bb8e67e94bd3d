import Querywright.Proofs.TransactionEndings
import Mathlib

/-! Blocks of a transaction. A block begins a transaction, does anything on a builder inside it,
and leaves; it ends its transaction exactly once. What leaves the block is the error of the
statement that ends it, if there is one, and otherwise what the body left with. -/
namespace Querywright

variable {σ : Type}

namespace Session

variable {engine : Engine σ} {number transaction : Nat} {pinned : Pinned}
  {session entered : Session σ} {builder : Builder}

/-- What a builder hands out when it begins works inside a transaction under way. -/
theorem begin_inside {router : Nat} {reply : Reply}
    (backed : builder.backing = some (.router router))
    (begun : (begin engine builder).run session = (.ok reply, entered)) :
    ∃ transaction pinned, reply = .item (.builder session.builders.length) ∧
      pinned.router = router ∧
      entered.IsInside session.builders.length transaction
        (Network.Underway transaction pinned) := by
  unfold begin at begun
  rw [backed] at begun
  dsimp only at begun
  obtain ⟨found, between, behind, begun⟩ := Action.run_bind_success begun
  unfold routerBehind at behind
  rw [run_bind_ok (run_get session), backed, Action.run_ofResult] at behind
  cases behind
  obtain ⟨number, between, beginning, begun⟩ := Action.run_bind_success begun
  obtain ⟨settings, _, renewed, begun⟩ := Action.run_bind_success begun
  rw [Action.run_ofResult] at renewed
  obtain ⟨-, rfl⟩ := Prod.mk.inj renewed
  have acted := Action.run_onNetwork
    (rfl : Network.begin engine router session.network = (_, _))
  rw [acted] at beginning
  obtain ⟨result, rfl⟩ := Prod.mk.inj beginning
  obtain ⟨transaction, under⟩ := Network.begin_underway (Prod.ext result rfl)
  cases begun
  refine ⟨number, ⟨router, transaction⟩, rfl, rfl, ⟨⟨_, List.getElem?_concat_length, rfl⟩, under⟩⟩

theorem activeTransaction_inside {holds : Network σ → Prop}
    (inside : session.IsInside number transaction holds) {builder : Builder}
    (there : session.builders[number]? = some builder) :
    (activeTransaction builder).run session =
      (if session.network.isActive transaction then .ok transaction
        else .error .transactionNotBegun, session) := by
  obtain ⟨own, found, backed⟩ := inside.builder
  rw [there] at found
  cases found
  unfold activeTransaction
  rw [backed]
  dsimp only
  rw [run_bind_ok (run_get session)]
  split <;> rfl

theorem finish_underway (inside : session.IsInside number transaction
      (Network.Underway transaction pinned)) (engine : Engine σ) (ending : Ending)
    (there : session.builders[number]? = some builder) :
    (finish engine ending builder).run session =
      ((session.network.finish engine ending transaction).1.map fun _ => .itself,
        { session with network := (session.network.finish engine ending transaction).2 }) := by
  have active := activeTransaction_inside inside there
  rw [inside.network.isActive, if_pos rfl] at active
  have acted : (Action.onNetwork (Network.finish engine ending transaction)).run session =
      ((session.network.finish engine ending transaction).1,
        { session with network := (session.network.finish engine ending transaction).2 }) :=
    Action.run_onNetwork rfl
  unfold finish
  rw [run_bind_ok active]
  cases result : (session.network.finish engine ending transaction).1 with
  | error reason =>
    rw [result] at acted
    exact run_bind_error acted _
  | ok done =>
    rw [result] at acted
    rw [run_bind_ok acted]
    rfl

theorem finish_finished {result : Except Error Unit} (inside : session.IsInside number transaction
      (Network.Finished transaction pinned result)) (engine : Engine σ) (ending : Ending)
    (there : session.builders[number]? = some builder) :
    (finish engine ending builder).run session = (.error .transactionNotBegun, session) := by
  have inactive := activeTransaction_inside inside there
  rw [inside.network.isActive, if_neg Bool.false_ne_true] at inactive
  unfold finish
  exact run_bind_error inactive _

theorem call_of_ends (engine : Engine σ) (number : Nat) {call : NamedCall}
    (ends : call.ends = true) :
    ∃ ending, ∀ session : Session σ,
      (callBuilder engine number call.name call.arguments).run session =
        (finish engine ending ((session.builders[number]?).getD {})).run session := by
  obtain ⟨name, arguments⟩ := call
  obtain ⟨named, none⟩ : (name = "commit" ∨ name = "rollback") ∧ arguments = [] := by
    simpa [NamedCall.ends] using ends
  subst none
  rcases named with rfl | rfl
  · exact ⟨.commit, fun _ => rfl⟩
  · exact ⟨.rollback, fun _ => rfl⟩

/-- An attempt to end a transaction under way brings it to its end, with the result that the caller
gets. -/
theorem IsInside.ended (inside : session.IsInside number transaction
      (Network.Underway transaction pinned)) (engine : Engine σ) {call : NamedCall}
    (ends : call.ends = true) :
    let outcome := (callBuilder engine number call.name call.arguments).run session
    outcome.2.IsInside number transaction
      (Network.Finished transaction pinned (outcome.1.map fun _ => ())) := by
  intro outcome
  obtain ⟨own, there, backed⟩ := inside.builder
  obtain ⟨ending, same⟩ := call_of_ends engine number ends
  have ran : outcome = _ := same session
  rw [there, Option.getD_some, finish_underway inside engine ending there] at ran
  have finished := (inside.network.finish engine ending).1
  rw [ran]
  refine ⟨⟨own, there, backed⟩, ?_⟩
  cases result : (session.network.finish engine ending transaction).1 with
  | error reason =>
    rw [result] at finished
    exact finished
  | ok done =>
    rw [result] at finished
    exact finished

/-- Behind the end nothing changes it, attempts to end it again included. -/
theorem IsInside.lasting {result : Except Error Unit} (inside : session.IsInside number transaction
      (Network.Finished transaction pinned result)) (engine : Engine σ) (call : NamedCall)
    (within : call.name ∉ outsideNames) :
    ((callBuilder engine number call.name call.arguments).run session).2.IsInside number
      transaction (Network.Finished transaction pinned result) := by
  cases ends : call.ends with
  | false =>
    exact inside.call (Network.finished_steady engine transaction pinned result) call within ends
  | true =>
    obtain ⟨own, there, -⟩ := inside.builder
    obtain ⟨ending, same⟩ := call_of_ends engine number ends
    rw [same, there, Option.getD_some, finish_finished inside engine ending there]
    exact inside

/-- The calls of a body on its builder, one after another, whatever comes of each. -/
def callAll (engine : Engine σ) (number : Nat) : List NamedCall → Session σ → Session σ
  | [], session => session
  | call :: rest, session =>
    callAll engine number rest
      ((callBuilder engine number call.name call.arguments).run session).2

/-- What the first attempt of a body to end its transaction comes to, if there is one. -/
def firstEnding (engine : Engine σ) (number : Nat) :
    List NamedCall → Session σ → Option (Except Error Unit)
  | [], _ => none
  | call :: rest, session =>
    let outcome := (callBuilder engine number call.name call.arguments).run session
    if call.ends then some (outcome.1.map fun _ => ())
    else firstEnding engine number rest outcome.2

theorem firstEnding_eq_none (engine : Engine σ) (number : Nat) (calls : List NamedCall)
    (session : Session σ) :
    firstEnding engine number calls session = none ↔ ∀ call ∈ calls, call.ends = false := by
  induction calls generalizing session with
  | nil => simp [firstEnding]
  | cons call rest ih =>
    rw [firstEnding, List.forall_mem_cons]
    cases call.ends with
    | true => simp
    | false => simp [ih]

theorem callAll_lasting {result : Except Error Unit} (engine : Engine σ) (calls : List NamedCall)
    (within : ∀ call ∈ calls, call.name ∉ outsideNames)
    (inside : session.IsInside number transaction
      (Network.Finished transaction pinned result)) :
    (callAll engine number calls session).IsInside number transaction
      (Network.Finished transaction pinned result) := by
  induction calls generalizing session with
  | nil => exact inside
  | cons call rest ih =>
    obtain ⟨now, later⟩ := List.forall_mem_cons.mp within
    exact ih later (inside.lasting engine call now)

/-- The body of a block: its transaction is under way to the end, or ended by the first attempt. -/
theorem callAll_inside (engine : Engine σ) (calls : List NamedCall)
    (within : ∀ call ∈ calls, call.name ∉ outsideNames)
    (inside : session.IsInside number transaction (Network.Underway transaction pinned)) :
    (firstEnding engine number calls session = none →
        (callAll engine number calls session).IsInside number transaction
          (Network.Underway transaction pinned)) ∧
      ∀ result, firstEnding engine number calls session = some result →
        (callAll engine number calls session).IsInside number transaction
          (Network.Finished transaction pinned result) := by
  induction calls generalizing session with
  | nil => exact ⟨fun _ => inside, nofun⟩
  | cons call rest ih =>
    obtain ⟨now, later⟩ := List.forall_mem_cons.mp within
    rw [firstEnding, callAll]
    cases ends : call.ends with
    | true =>
      rw [if_pos rfl]
      refine ⟨nofun, fun result same => ?_⟩
      cases same
      exact callAll_lasting engine rest later (inside.ended engine ends)
    | false =>
      rw [if_neg Bool.false_ne_true]
      exact ih later
        (inside.call (Network.underway_steady engine transaction pinned) call now ends)

/-- How a block is told that its body has raised an error. -/
def told (raised : Option Error) : List Argument :=
  [⟨.truth raised.isSome, none⟩]

/-- A block of a transaction: what its body raised goes on when it is left, unless leaving fails or
answers that there is nothing to go on with. -/
def block (engine : Engine σ) (number : Nat) (calls : List NamedCall) (raised : Option Error) :
    Action σ Unit := do
  match ← callBuilder engine number "begin" [] with
  | .item (.builder inner) =>
    let _ ← callBuilder engine inner "enter" []
    modify (callAll engine inner calls)
    match ← callBuilder engine inner "exit" (told raised) with
    | .item (.value (.truth true)) => return ()
    | _ => Action.ofResult (raised.elim (.ok ()) .error)
  | _ => wrongArguments

theorem leave_run {holds : Network σ → Prop}
    (inside : session.IsInside number transaction holds) (engine : Engine σ)
    (raised : Option Error) :
    (callBuilder engine number "exit" (told raised)).run session =
      ((session.network.leave engine raised.isSome transaction).1.map fun _ =>
          replyValue (.truth false),
        { session with network :=
          (session.network.leave engine raised.isSome transaction).2 }) := by
  obtain ⟨own, there, backed⟩ := inside.builder
  have acted : (Action.onNetwork (Network.leave engine raised.isSome transaction)).run session =
      ((session.network.leave engine raised.isSome transaction).1,
        { session with network :=
          (session.network.leave engine raised.isSome transaction).2 }) :=
    Action.run_onNetwork rfl
  show (leave engine raised.isSome ((session.builders[number]?).getD {})).run session = _
  rw [there, Option.getD_some]
  unfold leave
  rw [backed]
  dsimp only
  cases result : (session.network.leave engine raised.isSome transaction).1 with
  | error reason =>
    rw [result] at acted
    exact run_bind_error acted _
  | ok done =>
    rw [result] at acted
    rw [run_bind_ok acted]
    rfl

/-- The statement with which a block ends its transaction when its body has not. -/
def lastStatement (raised : Option Error) : Ending :=
  if raised.isSome then .rollback else .commit

/-- Leaving a transaction under way sends one statement on its connection. -/
theorem IsInside.left_underway (inside : session.IsInside number transaction
      (Network.Underway transaction pinned)) (engine : Engine σ) (raised : Option Error) :
    ∃ finishing after,
      (callBuilder engine number "exit" (told raised)).run session =
        (finishing.map fun _ => replyValue (.truth false), after) ∧
      session.network.LastAnswer engine pinned (lastStatement raised) finishing ∧
      after.network.world.sent = session.network.world.sent ++
        [(pinned.transaction.connection, .text (lastStatement raised).statement)] ∧
      after.network.Finished transaction pinned finishing := by
  have leaving := leave_run inside engine raised
  rw [inside.network.leave engine raised.isSome] at leaving
  obtain ⟨finished, answer, sending⟩ := inside.network.finish engine (lastStatement raised)
  exact ⟨_, _, leaving, answer, sending, finished⟩

/-- Leaving a transaction that has come to its end does nothing. -/
theorem IsInside.left_finished {result : Except Error Unit}
    (inside : session.IsInside number transaction (Network.Finished transaction pinned result))
    (engine : Engine σ) (raised : Option Error) :
    (callBuilder engine number "exit" (told raised)).run session =
      (.ok (replyValue (.truth false)), session) := by
  rw [leave_run inside engine raised, inside.network.leave raised.isSome]
  rfl

theorem enter_underway (inside : session.IsInside number transaction
      (Network.Underway transaction pinned)) (engine : Engine σ) :
    (callBuilder engine number "enter" []).run session = (.ok .itself, session) := by
  obtain ⟨own, there, -⟩ := inside.builder
  have active := activeTransaction_inside inside there
  rw [inside.network.isActive, if_pos rfl] at active
  show ((do let _ ← activeTransaction ((session.builders[number]?).getD {}); return .itself) :
    Action σ Reply).run session = _
  rw [there, Option.getD_some, run_bind_ok active]
  rfl

/-- What leaves a block that was entered: an error of the statement that ends it, or else what its
body raised. -/
theorem block_entered {inner : Nat} {calls : List NamedCall} {raised : Option Error}
    {left : Session σ} {finishing : Except Error Unit}
    (begun : (callBuilder engine number "begin" []).run session =
      (.ok (.item (.builder inner)), entered))
    (enter : (callBuilder engine inner "enter" []).run entered = (.ok .itself, entered))
    (exit : (callBuilder engine inner "exit" (told raised)).run
      (callAll engine inner calls entered) =
        (finishing.map fun _ => replyValue (.truth false), left)) :
    (block engine number calls raised).run session =
      (finishing.bind fun _ => raised.elim (.ok ()) .error, left) := by
  have body : (modify (callAll engine inner calls) : Action σ Unit).run entered =
      (.ok (), callAll engine inner calls entered) := rfl
  unfold block
  rw [run_bind_ok begun]
  dsimp only
  rw [run_bind_ok enter, run_bind_ok body]
  cases finishing with
  | error reason => exact run_bind_error exit _
  | ok done =>
    rw [run_bind_ok exit]
    exact Action.run_ofResult _ left

theorem block_refused {reason : Error} (calls : List NamedCall) (raised : Option Error)
    (begun : (callBuilder engine number "begin" []).run session = (.error reason, entered)) :
    (block engine number calls raised).run session = (.error reason, entered) :=
  run_bind_error begun _

/-- A block of a transaction ends it exactly once, whatever its body calls on the builder inside the
transaction, and however these calls and the body end. If the body attempts no end of its own, one
statement ends the transaction when the block is left. If it does, leaving sends nothing any more.
An error of the last statement goes on, and else what the body raised. Behind the block the
transaction is not active. Its connection is idle where it belongs, if the statement that ended it
succeeded and the pool is healthy, and closed otherwise. -/
theorem block_finished_once (engine : Engine σ) {session : Session σ} {number router : Nat}
    {builder : Builder} (there : session.builders[number]? = some builder)
    (backed : builder.backing = some (.router router)) (calls : List NamedCall)
    (within : ∀ call ∈ calls, call.name ∉ outsideNames) (raised : Option Error) :
    let begun := (callBuilder engine number "begin" []).run session
    let behind := (block engine number calls raised).run session
    (∀ reason, begun.1 = .error reason → behind = (.error reason, begun.2)) ∧
    ∀ reply, begun.1 = .ok reply →
      ∃ inner transaction pinned, reply = .item (.builder inner) ∧ pinned.router = router ∧
        begun.2.IsInside inner transaction (Network.Underway transaction pinned) ∧
        behind.2.network.isActive transaction = false ∧
        ((∀ call ∈ calls, call.ends = false) →
          let left := callAll engine inner calls begun.2
          ∃ finishing,
            left.network.LastAnswer engine pinned (lastStatement raised) finishing ∧
            behind.1 = (finishing.bind fun _ => raised.elim (.ok ()) .error) ∧
            behind.2.network.world.sent = left.network.world.sent ++
              [(pinned.transaction.connection, .text (lastStatement raised).statement)] ∧
            Network.Settled pinned finishing behind.2.network) ∧
        ((∃ call ∈ calls, call.ends = true) →
          ∃ finishing, firstEnding engine inner calls begun.2 = some finishing ∧
            behind.1 = raised.elim (.ok ()) .error ∧
            behind.2.network = (callAll engine inner calls begun.2).network ∧
            Network.Settled pinned finishing behind.2.network) := by
  intro begun behind
  refine ⟨fun reason failed => ?_, fun reply succeeded => ?_⟩
  · exact block_refused calls raised (Prod.ext failed rfl)
  have begins : begun = (begin engine builder).run session := by
    show (begin engine ((session.builders[number]?).getD {})).run session = _
    rw [there, Option.getD_some]
  obtain ⟨transaction, pinned, rfl, router, inside⟩ :=
    begin_inside backed (begins.symm.trans (Prod.ext succeeded rfl))
  have enter := enter_underway inside engine
  obtain ⟨underway, finished⟩ := callAll_inside engine calls within inside
  refine ⟨_, transaction, pinned, rfl, router, inside, ?_⟩
  cases attempted : firstEnding engine session.builders.length calls begun.2 with
  | none =>
    obtain ⟨finishing, left, exit, answer, sending, ended⟩ :=
      (underway attempted).left_underway engine raised
    have ran : behind = _ := block_entered (Prod.ext succeeded rfl) enter exit
    have unattempted := (firstEnding_eq_none _ _ _ _).mp attempted
    rw [ran]
    refine ⟨ended.isActive, fun _ => ⟨finishing, answer, rfl, sending, ended.settled⟩, ?_⟩
    rintro ⟨call, member, ends⟩
    rw [unattempted call member] at ends
    cases ends
  | some finishing =>
    have ended := finished finishing attempted
    have exit : _ = (Except.map (fun _ => replyValue (.truth false)) (.ok ()), _) :=
      ended.left_finished engine raised
    have ran : behind = _ := block_entered (Prod.ext succeeded rfl) enter exit
    rw [ran]
    refine ⟨ended.network.isActive, fun unattempted => ?_, fun _ =>
      ⟨finishing, rfl, rfl, rfl, ended.network.settled⟩⟩
    rw [(firstEnding_eq_none _ _ _ _).mpr unattempted] at attempted
    cases attempted

end Session

/-- A builder on a database that does not commit. -/
def Rehearsal.commitless : Session Rehearsal :=
  { network :=
      { world := { outside := { rules := [fullDisk] } }
        routers := [{ configuration := { primaries := [.fixed "sqlite:///a.db"] }
                      primaries := [memberOf "sqlite:///a.db"] }] }
    builders := [{ backing := some (.router 0) }] }
where
  fullDisk : Rule :=
    { part := "COMMIT", outcome := .error ⟨.sqliteOperational, [.text "disk full"]⟩ }

namespace Session

/-- A body that commits and raises what comes of it. -/
def committal : NamedCall :=
  ⟨"commit", []⟩

/-- The begin of that block. -/
def commitlessBegun : Except Error Reply × Session Rehearsal :=
  (callBuilder Rehearsal.engine 0 "begin" []).run Rehearsal.commitless

def diskFull : Error :=
  .fault ⟨.sqliteOperational, [.text "disk full"]⟩

/-- The body of a block commits in vain and raises that: nothing is sent when the block is left. -/
theorem failedCommit_block :
    let behind := (block Rehearsal.engine 0 [committal] (some diskFull)).run Rehearsal.commitless
    Rehearsal.commitless.builders[0]? = some { backing := some (.router 0) } ∧
      (∀ call ∈ [committal], call.name ∉ outsideNames) ∧
      commitlessBegun.1 = .ok (.item (.builder 1)) ∧
      firstEnding Rehearsal.engine 1 [committal] commitlessBegun.2 = some (.error diskFull) ∧
      behind.1 = .error diskFull ∧
      behind.2.network = (callAll Rehearsal.engine 1 [committal] commitlessBegun.2).network ∧
      ∃ (transaction : Nat) (pinned : Pinned), behind.2.network.isActive transaction = false ∧
        pinned.transaction.connection ∈ behind.2.network.world.closed := by
  have within : ∀ call ∈ [committal], call.name ∉ outsideNames := by decide
  have succeeded : commitlessBegun.1 = .ok (.item (.builder 1)) := by cbv
  have attempt : firstEnding Rehearsal.engine 1 [committal] commitlessBegun.2 =
      some (.error diskFull) := by
    cbv
  obtain ⟨inner, transaction, pinned, same, -, -, inactive, -, leaving⟩ :=
    (block_finished_once Rehearsal.engine (rfl : Rehearsal.commitless.builders[0]? = _) rfl
      [committal] within (some diskFull)).2 _ succeeded
  cases same
  obtain ⟨finishing, attempted, raised, kept, settled⟩ := leaving
    ⟨committal, List.mem_singleton.mpr rfl, by decide⟩
  refine ⟨rfl, within, succeeded, attempt, raised, kept, transaction, pinned, inactive, ?_⟩
  cases attempt.symm.trans attempted
  obtain ⟨_, _, -, -, ⟨⟨ok, -⟩, -⟩ | ⟨-, closed⟩⟩ := settled
  · cases ok
  · exact closed

end Session
end Querywright
