import Querywright.Proofs.CallsAsTurns
import Querywright.Proofs.RefusedCalls
import Querywright.Proofs.StatementRouting
import Querywright.Proofs.TerminalLifecycle

/-! Calls on a builder that works inside a transaction. Whatever they are, all that they do to the
network are statements of that transaction; the builder stays in it. So whatever holds of a network
across each statement of the transaction holds across any such call. -/
namespace Querywright
open Work

variable {σ τ α β : Type}

/-- What holds of a network behind each statement of a transaction if it held before. -/
def Network.IsSteady (engine : Engine σ) (transaction : Nat) (holds : Network σ → Prop) : Prop :=
  ∀ network statement parameters, holds network →
    holds (network.execute engine (.transaction transaction) statement parameters).2

namespace TerminalCall

/-- An operation leaves its builder on what it works on, with arguments of any kind. -/
theorem performAs_backing (itself : Bool) (setting : Setting τ) (call : TerminalCall)
    (desk : Desk τ) :
    ((call.performAs itself setting).run desk).2.builder.backing = desk.builder.backing := by
  have harmless (own : Bool) : setting.Answers (IsHarmless Watch.all own False False) :=
    fun _ _ _ _ _ _ _ _ _ => ⟨False.elim, False.elim⟩
  have raw (own : Bool) (text : Value) (values : List Value) :
      Moves (Spared Watch.all False False) (rawQueryBound own setting text values) :=
    (rawQueryBound_scope own setting (harmless own) text values).spares
  have reads (slot : Nat) : Moves (Spared Watch.all False False)
      (Builder.contentOf slot : Work τ Value) :=
    .of_same fun desk => by rw [run_contentOf]
  have binds (destination : Destination) (sink : Sink) : Moves (Spared Watch.all False False)
      (Builder.bindFresh destination sink : Work τ Nat) :=
    fun _ => ⟨rfl, False.elim, False.elim, False.elim, False.elim⟩
  by_cases refused : call.locks = true ∧ setting.locksTables = false
  · rw [call.performAs_unbegun itself setting refused.1 refused.2]
  · have active (locks : call.locks = true) : setting.locksTables = true := by
      cases begun : setting.locksTables with
      | true => rfl
      | false => exact absurd ⟨locks, begun⟩ refused
    have spares : Moves (Spared Watch.all False False) (call.performAs itself setting) := by
      cases call with
      | rawQuery text values => exact .bind (raw itself text values) fun _ => .pure none
      | rawQueryOne text values =>
        exact .bind (.bind (.ofResult _) fun content => raw itself _ values) fun _ => .pure none
      | rawQueryValue text values =>
        refine .bind (.bind (binds _ _) fun slot => ?_) fun _ => .pure _
        refine .bind (.bind (.ofResult _) fun content => ?_) fun _ => reads slot
        exact raw false _ values
      | rawQueryValues text values =>
        refine .bind (.bind (binds _ _) fun slot => ?_) fun _ => .pure _
        exact .bind (raw false text values) fun _ => reads slot
      | _ =>
        refine (performAs_scope itself setting (harmless itself) _ ?_ active).spares
        trivial
    exact (spares desk).backing

variable {engine : Engine σ} {builder : Builder} {transaction : Nat} {session : Session σ}
  {holds : Network σ → Prop}

/-- What is steady across the statements of a transaction holds across an operation inside it. -/
theorem performAs_steady (session : Session σ)
    (steady : Network.IsSteady engine transaction holds)
    (backed : builder.backing = some (.transaction transaction)) (itself : Bool)
    (call : TerminalCall) (desk : Desk (Network σ)) (held : holds desk.outside) :
    holds ((call.performAs itself (Action.setting engine builder session)).run desk).2.outside := by
  let keeps (before after : Desk (Network σ)) : Prop := holds before.outside → holds after.outside
  have : Std.Refl keeps := ⟨fun _ => id⟩
  have : IsTrans (Desk (Network σ)) keeps := ⟨fun _ _ _ first second => second ∘ first⟩
  have present : (Action.setting engine builder session).executor =
      some fun statement arguments network =>
        network.execute engine (.transaction transaction) statement (.tuple arguments) := by
    simp only [Action.setting, backed, Option.map_some]
  have sustained : Sustains keeps itself (Action.setting engine builder session)
      (fun _ => True) call.CanSend :=
    { unnoticed := fun _ _ outside _ _ before => outside ▸ before
      answers := fun _ _ _ _ _ _ _ _ => trivial
      dispatches := fun statement arguments _ => by
        unfold dispatch
        rw [present]
        refine .bind (fun desk before => ?_) fun _ => .pure _
        rw [send_outside]
        exact steady desk.outside statement (.tuple arguments) before
      loads := fun _ _ _ _ => id }
  exact call.performAs_moves sustained desk held

end TerminalCall

namespace BuilderCall

theorem replaceBuilder_aside {change : Desk τ → Except Error Builder}
    (backing : ∀ desk builder, change desk = .ok builder → builder.backing = desk.builder.backing)
    (desk : Desk τ) :
    ((replaceBuilder change).run desk).2.outside = desk.outside ∧
      ((replaceBuilder change).run desk).2.builder.backing = desk.builder.backing := by
  have same := backing desk
  change (replaceBuilder change desk).2.outside = _ ∧
    (replaceBuilder change desk).2.builder.backing = _
  unfold replaceBuilder ExceptT.mk
  dsimp only
  cases changed : change desk with
  | error reason => exact ⟨rfl, rfl⟩
  | ok builder => exact ⟨rfl, same builder changed⟩

theorem boundBuilder_backing {schema : Schema} {slot : Nat} {rule : ElementRule} {desk : Desk τ}
    {builder : Builder} (bound : boundBuilder schema slot rule desk = .ok builder) :
    builder.backing = desk.builder.backing := by
  unfold boundBuilder Builder.bind at bound
  split at bound
  · obtain ⟨sink, -, rfl⟩ := map_success bound
    rfl
  · cases bound

theorem setLockMethod_backing {method : Value} {builder other : Builder}
    (set : builder.setLockMethod method = .ok other) : other.backing = builder.backing := by
  unfold Builder.setLockMethod at set
  split at set
  · cases set
    rfl
  · cases set

/-- The calls that are no operation change the builder only, and not what it works on. -/
theorem perform_aside (setting : Setting τ) (call : BuilderCall)
    (idle : ∀ terminal, call ≠ .terminal terminal) (desk : Desk τ) :
    ((call.perform setting).run desk).2.outside = desk.outside ∧
      ((call.perform setting).run desk).2.builder.backing = desk.builder.backing := by
  have reading (body : Work τ Unit) :
      (((do body; return none) : Work τ (Option Value)).run desk).2 = (body.run desk).2 :=
    run_bind_reading (fun _ _ => rfl) desk
  cases call with
  | terminal call => exact absurd rfl (idle call)
  | clause call =>
    unfold perform
    rw [reading]
    exact ⟨rfl, rfl⟩
  | bind slot rule =>
    unfold perform
    rw [reading]
    exact replaceBuilder_aside (fun _ _ => boundBuilder_backing) desk
  | setLockMethod method =>
    unfold perform
    rw [reading]
    exact replaceBuilder_aside (fun _ _ => setLockMethod_backing) desk
  | setTrace enabled =>
    unfold perform
    rw [reading]
    refine replaceBuilder_aside (fun _ _ same => ?_) desk
    cases same
    rfl

variable {engine : Engine σ} {builder : Builder} {transaction : Nat} {session : Session σ}
  {holds : Network σ → Prop}

theorem performAs_steady (session : Session σ)
    (steady : Network.IsSteady engine transaction holds)
    (backed : builder.backing = some (.transaction transaction)) (itself : Bool)
    (call : BuilderCall) (desk : Desk (Network σ)) (held : holds desk.outside) :
    let after := ((call.performAs itself (Action.setting engine builder session)).run desk).2
    holds after.outside ∧ after.builder.backing = desk.builder.backing := by
  have aside (idle : ∀ terminal, call ≠ .terminal terminal) :
      call.performAs itself (Action.setting engine builder session) =
        call.perform (Action.setting engine builder session) := by
    cases call with
    | terminal call => exact absurd rfl (idle call)
    | _ => rfl
  intro after
  by_cases idle : ∀ terminal, call ≠ .terminal terminal
  · have kept := call.perform_aside (Action.setting engine builder session) idle desk
    rw [← aside idle] at kept
    exact ⟨kept.1 ▸ held, kept.2⟩
  · obtain ⟨terminal, rfl⟩ := not_forall_not.mp idle
    exact ⟨terminal.performAs_steady session steady backed itself desk held,
      terminal.performAs_backing itself _ desk⟩

end BuilderCall

namespace Action

theorem takeOver_own (own : Nat) (builders : List Builder) (destination : Destination) :
    (takeOver own builders destination)[own]? = builders[own]? := by
  unfold takeOver
  split
  · split
    · rfl
    · rename_i number _ _ apart
      have other : number ≠ own := by simpa using apart
      simp [other]
  · rfl

/-- Work on a builder leaves it as the desk has it, whatever rows were loaded into others. -/
theorem work_builder {number : Nat} {builder : Builder} {session : Session σ}
    (there : session.builders[number]? = some builder) (body : Work (Network σ) α) :
    let desk := (body.run ⟨builder, session.destinations, session.network⟩).2
    ((work number body).run session).2.builders[number]? = some desk.builder ∧
      ((work number body).run session).2.network = desk.outside := by
  intro desk
  have own (shelf : Shelf) (builders : List Builder) :
      (shelf.foldl (takeOver number) builders)[number]? = builders[number]? := by
    induction shelf generalizing builders with
    | nil => rfl
    | cons destination rest ih => rw [List.foldl_cons, ih, takeOver_own]
  have ran : ((work number body).run session).2 = { session with
      builders := desk.shelf.foldl (takeOver number) (session.builders.set number desk.builder)
      shelf := desk.shelf
      network := desk.outside } := by
    unfold work ExceptT.run ExceptT.mk
    dsimp only
    rw [there]
    rfl
  rw [ran]
  refine ⟨?_, rfl⟩
  rw [own]
  exact List.getElem?_set_self (List.getElem?_eq_some_iff.mp there).1

/-- An action that only looks at the session, whether it fails or not. -/
def Reads (action : Action σ α) : Prop :=
  ∀ session, (action.run session).2 = session

theorem Reads.pure (value : α) : Reads (pure value : Action σ α) :=
  fun _ => rfl

theorem Reads.throw (reason : Error) : Reads (throw reason : Action σ α) :=
  fun _ => rfl

theorem Reads.ofResult (result : Except Error α) : Reads (ofResult result : Action σ α) :=
  fun session => by rw [run_ofResult]

theorem Reads.bind {first : Action σ α} {next : α → Action σ β} (early : Reads first)
    (late : ∀ value, Reads (next value)) : Reads (first >>= next) := by
  intro session
  have same := early session
  cases ran : first.run session with
  | mk result after =>
    rw [ran] at same
    cases same
    cases result with
    | error reason => rw [run_bind_error ran]
    | ok value => rw [run_bind_ok ran, late value]

theorem run_bind_success {first : Action σ α} {next : α → Action σ β} {session after : Session σ}
    {result : β} (ran : (first >>= next).run session = (.ok result, after)) :
    ∃ value between, first.run session = (.ok value, between) ∧
      (next value).run between = (.ok result, after) := by
  cases opened : first.run session with
  | mk outcome between =>
    cases outcome with
    | error reason =>
      rw [run_bind_error opened] at ran
      cases ran
    | ok value =>
      rw [run_bind_ok opened] at ran
      exact ⟨value, between, rfl, ran⟩

/-- What holds of a session behind a step and is kept by what follows holds behind both. -/
theorem bind_keeps {holds : Session σ → Prop} {first : Action σ α} {next : α → Action σ β}
    {session : Session σ} (early : holds (first.run session).2)
    (late : ∀ value between, holds between → holds ((next value).run between).2) :
    holds ((first >>= next).run session).2 := by
  cases ran : first.run session with
  | mk result after =>
    rw [ran] at early
    cases result with
    | error reason => rwa [run_bind_error ran]
    | ok value =>
      rw [run_bind_ok ran]
      exact late value after early

end Action

namespace Session

/-- A call by name, as it is written down. -/
structure NamedCall where
  name : String
  arguments : List Argument := []

/-- What is not done inside the transaction of a builder: it concerns the pools behind it, or leaves
the block. -/
def outsideNames : List String :=
  ["ping", "connect", "disconnect", "connection", "exit"]

/-- An attempt to end the transaction; with arguments it is refused before it is one. -/
def NamedCall.ends (call : NamedCall) : Bool :=
  (call.name == "commit" || call.name == "rollback") && call.arguments.isEmpty

/-- A builder works inside a transaction, in a network of which something holds. -/
structure IsInside (number transaction : Nat) (holds : Network σ → Prop) (session : Session σ) :
    Prop where
  builder : ∃ builder, session.builders[number]? = some builder ∧
    builder.backing = some (.transaction transaction)
  network : holds session.network

variable {engine : Engine σ} {number transaction : Nat} {holds : Network σ → Prop}
  {session : Session σ}

theorem IsInside.addBuilder (inside : session.IsInside number transaction holds)
    (builder : Builder) :
    ((Action.addBuilder builder).run session).2.IsInside number transaction holds := by
  obtain ⟨⟨own, there, backed⟩, network⟩ := inside
  refine ⟨⟨own, ?_, backed⟩, network⟩
  show (session.builders ++ [builder])[number]? = some own
  rw [List.getElem?_append_left (List.getElem?_eq_some_iff.mp there).1, there]

theorem IsInside.slotOf (inside : session.IsInside number transaction holds)
    (destination : Argument) :
    ((slotOf destination).run session).2.IsInside number transaction holds := by
  have kept := slotOf_kept destination session
  exact ⟨kept.builders ▸ inside.builder, kept.network ▸ inside.network⟩

theorem IsInside.work (steady : Network.IsSteady engine transaction holds)
    (inside : session.IsInside number transaction holds) (itself : Bool) (call : BuilderCall) :
    ((Action.work number (call.performAs itself
      (Action.setting engine ((session.builders[number]?).getD {}) session))).run
        session).2.IsInside number transaction holds := by
  obtain ⟨⟨own, there, backed⟩, network⟩ := inside
  rw [there, Option.getD_some]
  obtain ⟨found, left⟩ := Action.work_builder there
    (call.performAs itself (Action.setting engine own session))
  obtain ⟨held, still⟩ := call.performAs_steady session steady backed itself
    ⟨own, session.destinations, session.network⟩ network
  exact ⟨⟨_, found, still.trans backed⟩, left ▸ held⟩

theorem IsInside.performCall (steady : Network.IsSteady engine transaction holds)
    (inside : session.IsInside number transaction holds) (name : String) (values : List Value) :
    ((performCall engine number name values).run session).2.IsInside number transaction holds := by
  unfold Session.performCall
  split
  · exact inside
  · rename_i result named
    cases result with
    | error reason =>
      rw [run_bind_error (Action.run_ofResult (.error reason) session)]
      exact inside
    | ok call =>
      rw [run_bind_ok (Action.run_ofResult (.ok call) session),
        run_bind_ok (run_builder number session), run_bind_ok (run_get session),
        run_bind_ok (run_get session)]
      refine Action.bind_keeps (inside.work steady _ call) fun value between kept => ?_
      cases value <;> exact kept

theorem IsInside.bindDestination (steady : Network.IsSteady engine transaction holds)
    (inside : session.IsInside number transaction holds) (destination : Argument)
    (rule : ElementRule) :
    ((bindDestination engine number destination rule).run session).2.IsInside number transaction
      holds := by
  unfold Session.bindDestination
  refine Action.bind_keeps (inside.slotOf destination) fun slot between kept => ?_
  rw [run_bind_ok (run_builder number between), run_bind_ok (run_get between)]
  exact Action.bind_keeps (kept.work steady false (.bind slot rule)) fun _ _ last => last

theorem IsInside.reads {action : Action σ α} (reads : action.Reads)
    (inside : session.IsInside number transaction holds) :
    (action.run session).2.IsInside number transaction holds :=
  (reads session).symm ▸ inside

theorem IsInside.bare {values : List Value} {body : Action σ Reply}
    (inside : session.IsInside number transaction holds)
    (kept : values = [] → (body.run session).2.IsInside number transaction holds) :
    ((bare values body).run session).2.IsInside number transaction holds := by
  unfold Session.bare
  split
  · rename_i none
    exact kept (List.isEmpty_iff.mp none)
  · exact inside

theorem activeTransaction_reads (builder : Builder) :
    (activeTransaction builder : Action σ Nat).Reads := by
  unfold activeTransaction
  split
  · refine .bind (fun _ => rfl) fun found => ?_
    split
    · exact .pure _
    · exact .throw _
  · exact .throw _

/-- One case for each call: whatever it is, it keeps its builder inside the transaction and what is
steady across the statements of that. -/
theorem IsInside.call (steady : Network.IsSteady engine transaction holds)
    (inside : session.IsInside number transaction holds) (call : NamedCall)
    (within : call.name ∉ outsideNames) (lasting : call.ends = false) :
    ((callBuilder engine number call.name call.arguments).run session).2.IsInside number
      transaction holds := by
  obtain ⟨name, arguments⟩ := call
  obtain ⟨own, there, backed⟩ := inside.builder
  dsimp only at within ⊢
  unfold callBuilder
  rw [run_bind_ok (run_builder number session), there, Option.getD_some]
  split
  case h_1 =>
    split
    · exact inside.bindDestination steady _ _
    · exact inside.bindDestination steady _ _
    · exact inside
  case h_2 =>
    refine inside.bare fun _ => ?_
    refine Action.bind_keeps (inside.reads (.ofResult _)) fun clone between kept => ?_
    exact Action.bind_keeps (kept.addBuilder clone) fun _ _ last => last
  case h_3 | h_4 | h_5 | h_6 => exact inside
  case h_7 | h_8 | h_9 | h_10 => exact inside.reads (.bind (.ofResult _) fun _ => .pure _)
  case h_11 =>
    split
    · exact inside.reads (.bind (.ofResult _) fun _ => .pure _)
    · exact inside.reads (.bind (.ofResult _) fun _ => .pure _)
    · exact inside
  case h_12 =>
    split
    · exact inside.reads (.bind (.ofResult _) fun _ => .pure _)
    · exact inside
  case h_13 => exact inside.reads (.bind (.ofResult _) fun _ => .pure _)
  case h_14 | h_15 | h_16 | h_17 => exact absurd within (by decide)
  case h_18 =>
    refine inside.bare fun _ => ?_
    unfold begin
    rw [backed]
    exact inside
  case h_19 | h_20 =>
    refine inside.bare fun none => ?_
    simp [NamedCall.ends, List.map_eq_nil_iff.mp none] at lasting
  case h_21 => exact inside.reads (.bind (activeTransaction_reads _) fun _ => .pure _)
  case h_22 => exact absurd within (by decide)
  case h_23 => exact inside.performCall steady name _

end Session
end Querywright
