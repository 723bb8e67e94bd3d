import Querywright.Proofs.LeadingWords
import Querywright.Proofs.NamedDatabases
import Querywright.Proofs.RoundRobin

/-! Which side of a router the statements of a builder reach. What a builder writes goes to the
primaries and what it reads goes to the replicas, its totals included, whatever stands in its
clauses and whatever comes of the statements. -/
namespace Querywright
open Work

variable {σ τ : Type}

namespace Router

variable {router : Router}

theorem sideFor_own (side : Side) (replicated : router.replicas ≠ []) :
    router.sideFor (side == .primary) = side := by
  unfold sideFor
  cases side <;> simp [replicated]

theorem act_elsewhere {α : Type} (place : Place)
    (action : Pool → World σ → Except Error α × Pool × World σ) (router : Router)
    (world : World σ) {other : Side} (apart : other ≠ place.side) :
    (router.act place action world).2.1.pools other = router.pools other := by
  cases there : router.pool? place with
  | none => rw [act_of_none action world there]
  | some pool =>
    rw [act_of_pool? action world there, pools_replace, if_neg apart]

/-- Calls that are all handed to one side of a router, of which the other side sees nothing. -/
structure ServedOn (engine : Engine σ) (side : Side) (calls : List RouterCall) (router : Router)
    (world : World σ) : Prop where
  sides : (router.dispatched engine calls world).map Place.side =
    List.replicate calls.length side
  spared : ∀ other ≠ side,
    (router.performAll engine calls world).1.pools other = router.pools other ∧
      (router.performAll engine calls world).1.turn other = router.turn other

end Router

namespace RouterCall

variable {router : Router} {statement : Value} {side : Side}

theorem execute_place (parameters : Value) (told : isWriting statement = .ok (side == .primary))
    (replicated : router.replicas ≠ []) :
    (RouterCall.execute statement parameters).place? router = some (router.dispatch side).1 := by
  simp only [place?, writes?, told, Except.toOption, Option.map_some,
    Router.sideFor_own side replicated]

theorem execute_elsewhere (engine : Engine σ) (parameters : Value) (world : World σ)
    (told : isWriting statement = .ok (side == .primary)) (replicated : router.replicas ≠ [])
    {other : Side} (apart : other ≠ side) :
    let now := ((RouterCall.execute statement parameters).perform engine router world).1
    now.pools other = router.pools other ∧ now.turn other = router.turn other := by
  intro now
  have turned := router.dispatch_turn side other
  rw [if_neg apart] at turned
  have same := (Router.dispatch_samePools side router).pools other
  have own : (router.dispatch side).1.side = side := by rw [Router.dispatch_index]
  have ran : now = (router.execute engine statement parameters world).2.1 := rfl
  cases read : parameters.items with
  | error reason =>
    rw [ran, execute_unbound engine router world statement parameters _ told reason read,
      Router.sideFor_own side replicated]
    exact ⟨same, turned⟩
  | ok values =>
    rw [ran, execute_bound engine router world statement parameters _ told values read,
      Router.sideFor_own side replicated]
    refine ⟨?_, ?_⟩
    · rw [Router.act_elsewhere _ _ _ _ (own.symm ▸ apart), same]
    · rw [(Router.act_turns _ _ _ world).turn, turned]

end RouterCall

/-- Statements that are told to be for one side are handed to that side, one after the other. -/
theorem Router.performAll_servedOn (engine : Engine σ) (side : Side) (calls : List RouterCall)
    (told : ∀ call ∈ calls, ∃ statement parameters,
      call = .execute statement parameters ∧ isWriting statement = .ok (side == .primary))
    (router : Router) (world : World σ) (replicated : router.replicas ≠ []) :
    Router.ServedOn engine side calls router world := by
  induction calls generalizing router world with
  | nil => exact ⟨rfl, fun _ _ => ⟨rfl, rfl⟩⟩
  | cons call rest ih =>
    obtain ⟨statement, parameters, rfl, writes⟩ := told call List.mem_cons_self
    have step := RouterCall.perform_dispatches engine router world (.execute statement parameters)
    have still :
        ((RouterCall.execute statement parameters).perform engine router world).1.replicas
          ≠ [] := by
      have size := step.size .replica
      intro emptied
      refine replicated (List.length_eq_zero_iff.mp (size.symm.trans ?_))
      exact List.length_eq_zero_iff.mpr emptied
    have later := ih (fun other member => told other (List.mem_cons_of_mem _ member)) _
      ((RouterCall.execute statement parameters).perform engine router world).2 still
    refine ⟨?_, fun other apart => ?_⟩
    · have placed := RouterCall.execute_place parameters writes replicated
      unfold dispatched
      rw [placed, List.map_append, later.sides, Router.dispatch_index]
      rfl
    · have first := RouterCall.execute_elsewhere engine parameters world writes replicated apart
      have second := later.spared other apart
      exact ⟨second.1.trans first.1, second.2.trans first.2⟩

theorem Router.performAll_append (engine : Engine σ) (earlier later : List RouterCall)
    (router : Router) (world : World σ) :
    router.performAll engine (earlier ++ later) world =
      (router.performAll engine earlier world).1.performAll engine later
        (router.performAll engine earlier world).2 := by
  induction earlier generalizing router world with
  | nil => rfl
  | cons call rest ih => exact ih _ _

/-- What a builder without a transaction makes of a statement for its router. -/
def Sent.call (sent : Sent) : RouterCall :=
  .execute sent.statement (.tuple sent.arguments)

namespace Network

/-- The network after calls on one of its routers. -/
def withCalls (engine : Engine σ) (number : Nat) (router : Router) (calls : List RouterCall)
    (network : Network σ) : Network σ :=
  let now := router.performAll engine calls network.world
  { network.setRouter number now.1 with world := now.2 }

variable {engine : Engine σ} {number : Nat} {router : Router} {network : Network σ}

theorem withCalls_nil (there : network.routers[number]? = some router) :
    network.withCalls engine number router [] = network := by
  obtain ⟨inside, rfl⟩ := List.getElem?_eq_some_iff.mp there
  unfold withCalls setRouter Router.performAll
  dsimp only
  rw [List.set_getElem_self]

theorem withCalls_append (earlier later : List RouterCall) :
    network.withCalls engine number router (earlier ++ later) =
      (network.withCalls engine number router earlier).withCalls engine number
        (router.performAll engine earlier network.world).1 later := by
  unfold withCalls setRouter
  rw [Router.performAll_append]
  dsimp only
  rw [List.set_set]

theorem withCalls_routers (there : network.routers[number]? = some router)
    (calls : List RouterCall) :
    (network.withCalls engine number router calls).routers[number]? =
      some (router.performAll engine calls network.world).1 :=
  (setRouter_routers _ there number).trans (if_pos rfl)

end Network

/-- All that has become of the network between two desks are calls on one router, for statements
that are noted down and that may be sent. -/
def RoutesTo (engine : Engine σ) (number : Nat) (sends : Value → Prop)
    (before after : Desk (Network σ × List Sent)) : Prop :=
  ∃ sent, after.outside.2 = before.outside.2 ++ sent ∧ (∀ one ∈ sent, sends one.statement) ∧
    ∀ router, before.outside.1.routers[number]? = some router →
      after.outside.1 = before.outside.1.withCalls engine number router (sent.map Sent.call)

namespace RoutesTo

variable {engine : Engine σ} {number : Nat} {sends : Value → Prop}

theorem unnoticed {before after : Desk (Network σ × List Sent)}
    (outside : after.outside = before.outside) : RoutesTo engine number sends before after := by
  refine ⟨[], by rw [outside, List.append_nil], by simp, fun router there => ?_⟩
  rw [outside]
  exact (Network.withCalls_nil there).symm

instance : Std.Refl (RoutesTo engine number sends) where
  refl _ := unnoticed rfl

instance : IsTrans (Desk (Network σ × List Sent)) (RoutesTo engine number sends) where
  trans before between after first second := by
    obtain ⟨earlier, noted, each, moved⟩ := first
    obtain ⟨later, noted', each', moved'⟩ := second
    refine ⟨earlier ++ later, ?_, ?_, fun router there => ?_⟩
    · rw [noted', noted, List.append_assoc]
    · intro one member
      exact (List.mem_append.mp member).elim (each one) (each' one)
    · have reached := moved router there
      have onwards := moved' _ (reached ▸ Network.withCalls_routers there _)
      rw [onwards, reached, List.map_append, Network.withCalls_append]

end RoutesTo

theorem Work.send_outside (executor : Executor τ) (written : Value) (arguments : List Value)
    (desk : Desk τ) : ((send executor written arguments).run desk).2.outside =
      (executor written arguments desk.outside).2 := by
  change (send executor written arguments desk).2.outside = _
  unfold send ExceptT.mk
  dsimp only
  split
  · split <;> rfl
  · rfl

/-- The setting that a builder works in, its statements being noted. -/
def Action.watchedSetting (engine : Engine σ) (builder : Builder) (session : Session σ) :
    Setting (Network σ × List Sent) :=
  (Action.setting engine builder session).watched

section Backed

variable {engine : Engine σ} {builder : Builder} {number : Nat} {session : Session σ}
  (backed : builder.backing = some (.router number))

include backed

theorem dispatch_routes {sends : Value → Prop} {statement : Value} (sent : sends statement)
    (arguments : List Value) :
    Moves (RoutesTo engine number sends)
      (dispatch (Action.watchedSetting engine builder session) statement arguments) := by
  have present : (Action.watchedSetting engine builder session).executor =
      some (Executor.watched fun statement arguments network =>
        network.execute engine (.router number) statement (.tuple arguments)) := by
    simp only [Action.watchedSetting, Action.setting, Setting.watched, backed, Option.map_some]
  unfold dispatch
  rw [present]
  refine .bind (fun desk => ?_) fun _ => .pure _
  refine ⟨[⟨statement, arguments⟩], ?_, ?_, fun router there => ?_⟩
  · rw [send_outside]
    rfl
  · exact fun one member => List.mem_singleton.mp member ▸ sent
  · rw [send_outside]
    have ran := Network.onRouter_of_some desk.outside.1
      (Router.execute engine statement (.tuple arguments)) there
    exact congrArg Prod.snd ran

theorem TerminalCall.performAs_routes (itself : Bool) (call : TerminalCall) :
    Moves (RoutesTo engine number call.CanSend)
      (call.performAs itself (Action.watchedSetting engine builder session)) := by
  have sustained : Sustains (RoutesTo engine number call.CanSend) itself
      (Action.watchedSetting engine builder session) (fun _ => True) call.CanSend :=
    { unnoticed := fun _ _ outside _ _ => .unnoticed outside
      answers := fun _ _ _ _ _ _ _ _ => trivial
      dispatches := fun _ arguments sent => dispatch_routes backed sent arguments
      loads := fun _ _ _ _ => .unnoticed rfl }
  exact call.performAs_moves sustained

end Backed

/-- Every statement of a call that writes is handed to a primary and every statement of a call that
reads is handed to a replica; for the network it is as if those statements had been executed on the
router and nothing else had happened, and the side that the call is not for is left as it was. -/
theorem statements_reach_side (engine : Engine σ) (session : Session σ) (builder : Builder)
    (number : Nat) (router : Router) (backed : builder.backing = some (.router number))
    (there : session.network.routers[number]? = some router) (replicated : router.replicas ≠ [])
    (itself : Bool) (shelf : Shelf) (call : TerminalCall) (side : Side)
    (sided : call.side? = some side) :
    let setting := Action.watchedSetting engine builder session
    let outcome := (call.performAs itself setting).run ⟨builder, shelf, (session.network, [])⟩
    let calls := outcome.2.outside.2.map Sent.call
    outcome.2.outside.1 = session.network.withCalls engine number router calls ∧
      Router.ServedOn engine side calls router session.network.world := by
  intro setting outcome calls
  have routed : Moves (RoutesTo engine number call.CanSend) (call.performAs itself setting) :=
    call.performAs_routes backed itself
  obtain ⟨sent, noted, each, moved⟩ := routed ⟨builder, shelf, (session.network, [])⟩
  have all : outcome.2.outside.2 = sent := noted.trans (List.nil_append sent)
  have made : calls = sent.map Sent.call := congrArg (List.map Sent.call) all
  refine ⟨made ▸ moved router there, ?_⟩
  refine Router.performAll_servedOn engine side calls ?_ router session.network.world replicated
  intro one member
  obtain ⟨sent', among, rfl⟩ := List.mem_map.mp member
  exact ⟨_, _, rfl, (each sent' (all ▸ among)).isWriting sided⟩

namespace Rehearsal

def memberOf (url : String) : Pool :=
  { source := .fixed url, url := url, dialect := .sqlite }

/-- Two primaries and a replica, none of them asked before. -/
def mirroredRouter : Router :=
  { configuration := mirrored
    primaries := [memberOf "sqlite:///a.db", memberOf "sqlite:///b.db"]
    replicas := [memberOf "sqlite:///c.db"] }

def mirroredSession : Session Rehearsal :=
  { network := { world := { outside := {} }, routers := [mirroredRouter] } }

end Rehearsal

def tableReader : Builder :=
  { clauses := { tables := [.text "INSERT"] }, backing := some (.router 0) }

def readRows : TerminalCall :=
  .get []

def readRowsSent : List (Option String) :=
  (((readRows.performAs false (Action.watchedSetting Rehearsal.engine tableReader
    Rehearsal.mirroredSession)).run ⟨tableReader, [], (Rehearsal.mirroredSession.network, [])⟩
      ).2.outside.2).map (·.statement.asText?)

/-- A select goes to the replica, though its table is called like a keyword that writes. -/
theorem readRows_reaches_replica :
    let setting := Action.watchedSetting Rehearsal.engine tableReader Rehearsal.mirroredSession
    let outcome := (readRows.performAs false setting).run
      ⟨tableReader, [], (Rehearsal.mirroredSession.network, [])⟩
    tableReader.backing = some (.router 0) ∧
      Rehearsal.mirroredSession.network.routers[0]? = some Rehearsal.mirroredRouter ∧
      Rehearsal.mirroredRouter.replicas ≠ [] ∧ readRows.side? = some .replica ∧
      readRowsSent = [some "SELECT * FROM INSERT"] ∧
      Router.ServedOn Rehearsal.engine .replica (outcome.2.outside.2.map Sent.call)
        Rehearsal.mirroredRouter Rehearsal.mirroredSession.network.world := by
  intro setting outcome
  have replicated : Rehearsal.mirroredRouter.replicas ≠ [] := by simp [Rehearsal.mirroredRouter]
  have sent : readRowsSent = [some "SELECT * FROM INSERT"] := by cbv
  have reached := statements_reach_side Rehearsal.engine Rehearsal.mirroredSession tableReader 0
    Rehearsal.mirroredRouter rfl rfl replicated false [] readRows .replica rfl
  exact ⟨rfl, rfl, replicated, rfl, sent, reached.2⟩

end Querywright
