import Querywright.Proofs.PoolOpenings
import Mathlib

/-! A pool holds no more connections than have been in use at one time: each opening is paid for by
somebody who uses a connection while nothing is idle. Takings come as a whole, or in two phases with
others in between. -/
namespace Querywright

variable {σ : Type}

/-- Callers of one router, some of them waiting for a connection that is being opened for them. -/
structure Crowd (σ : Type) where
  traffic : Traffic σ
  waiting : List (Place × Purpose) := []

/-- What comes next of the callers. A connection is taken as a whole, or in two phases: the caller
looks for an idle one, those of a marked pool being dropped, and receives a new one some time
later. -/
inductive Phase where
  | turn (turn : Turn)
  | take (purpose : Purpose) (place : Place)
  | mark (place : Place) (healthy : Bool)
  | seek (purpose : Purpose) (place : Place)
  | receive (number : Nat)

namespace Phase

/-- The moment that a phase comes to, and who is waiting behind it. -/
def course (phase : Phase) (crowd : Crowd σ) : Option Moment × List (Place × Purpose) :=
  match phase with
  | .turn next => (some (.turn next), crowd.waiting)
  | .take purpose place => (some (.take purpose place true), crowd.waiting)
  | .mark place healthy => (some (.mark place healthy), crowd.waiting)
  | .seek purpose place =>
    match crowd.traffic.router.pool? place with
    | none => (none, crowd.waiting)
    | some pool =>
      if pool.healthy && !pool.idle.isEmpty then (some (.take purpose place true), crowd.waiting)
      else (some (.turn (.close place)), crowd.waiting ++ [(place, purpose)])
  | .receive number =>
    match crowd.waiting[number]? with
    | none => (none, crowd.waiting)
    | some (place, purpose) =>
      (some (.take purpose place false), crowd.waiting.eraseIdx number)

variable {engine : Engine σ} {phase : Phase} {crowd : Crowd σ} {place : Place}

/-- The courses of a phase, with what is known about each. -/
inductive Comes (crowd : Crowd σ) (phase : Phase) :
    Option Moment × List (Place × Purpose) → Prop where
  | nothing : Comes crowd phase (none, crowd.waiting)
  | prompt (moment : Moment) (whole : ∀ purpose place, moment ≠ .take purpose place false) :
      Comes crowd phase (some moment, crowd.waiting)
  | joining (purpose : Purpose) (place : Place) (own : phase = .seek purpose place) :
      Comes crowd phase (some (.turn (.close place)), crowd.waiting ++ [(place, purpose)])
  | leaving (number : Nat) (purpose : Purpose) (place : Place) (own : phase = .receive number)
      (waiting : crowd.waiting[number]? = some (place, purpose)) :
      Comes crowd phase (some (.take purpose place false), crowd.waiting.eraseIdx number)

theorem comes (crowd : Crowd σ) (phase : Phase) : Comes crowd phase (phase.course crowd) := by
  unfold course
  cases phase with
  | turn next => exact .prompt _ nofun
  | take purpose place => exact .prompt _ nofun
  | mark place healthy => exact .prompt _ nofun
  | seek purpose place =>
    dsimp only
    split
    · exact .nothing
    · split
      · exact .prompt _ nofun
      · exact .joining purpose place rfl
  | receive number =>
    dsimp only
    split
    · exact .nothing
    · rename_i place purpose waiting
      exact .leaving number purpose place rfl waiting

def perform (engine : Engine σ) (phase : Phase) (crowd : Crowd σ) : Crowd σ where
  traffic := Traffic.run engine (phase.course crowd).1.toList crowd.traffic
  waiting := (phase.course crowd).2

def occurrences (engine : Engine σ) (phase : Phase) (crowd : Crowd σ) : List Occurrence :=
  Traffic.occurrences engine (phase.course crowd).1.toList crowd.traffic

theorem perform_eq (engine : Engine σ) (phase : Phase) (crowd : Crowd σ) :
    phase.perform engine crowd =
      ⟨Traffic.run engine (phase.course crowd).1.toList crowd.traffic, (phase.course crowd).2⟩ :=
  rfl

end Phase

def Occurrence.handsOut (place : Place) : Occurrence → Bool
  | .handedOut there _ => there = place
  | _ => false

/-- How many connections of a place are in use at one time in a phase: those checked out before it,
one for each caller who is left waiting, and those handed out in it. -/
def Phase.inUse (engine : Engine σ) (place : Place) (phase : Phase) (crowd : Crowd σ) : Nat :=
  crowd.traffic.heldAt place + countAt place (phase.perform engine crowd).waiting +
    (phase.occurrences engine crowd).countP (Occurrence.handsOut place)

namespace Crowd

variable {engine : Engine σ} {phase : Phase} {crowd : Crowd σ} {place : Place}

/-- The idle and the held connections of a place, and those to come. -/
def size (place : Place) (crowd : Crowd σ) : Nat :=
  countAt place crowd.traffic.owned + countAt place crowd.waiting

theorem prompt_size (engine : Engine σ) (moment : Moment) (sound : crowd.traffic.IsSound)
    (place : Place) (prompt : ∀ purpose, moment ≠ .take purpose place false) :
    countAt place (moment.perform engine crowd.traffic).2.owned ≤
      max (countAt place crowd.traffic.owned) (crowd.traffic.heldAt place +
        (moment.occurrences engine crowd.traffic).countP (Occurrence.handsOut place)) := by
  rcases Traffic.moment_grown engine sound place prompt with same | ⟨⟨given, handed⟩, grown⟩
  · exact same.trans (Nat.le_max_left _ _)
  · have some : 0 < (moment.occurrences engine crowd.traffic).countP
        (Occurrence.handsOut place) :=
      List.countP_pos_iff.mpr ⟨_, handed, by simp [Occurrence.handsOut]⟩
    omega

theorem countAt_eraseIdx (place : Place) {number : Nat} {entry : Place × Purpose}
    {waiting : List (Place × Purpose)} (found : waiting[number]? = some entry) :
    countAt place (waiting.eraseIdx number) + countAt place [entry] = countAt place waiting := by
  obtain ⟨inside, same⟩ := List.getElem?_eq_some_iff.mp found
  have moved := countAt_perm place (List.getElem_cons_eraseIdx_perm inside)
  rw [same] at moved
  rw [Nat.add_comm, ← countAt_append]
  exact moved

/-- A phase leaves no more than there was, or than is in use in it. -/
theorem phase_size (engine : Engine σ) (phase : Phase) (sound : crowd.traffic.IsSound)
    (place : Place) :
    (phase.perform engine crowd).size place ≤
      max (crowd.size place) (phase.inUse engine place crowd) := by
  have comes := phase.comes crowd
  unfold Phase.inUse Phase.occurrences
  rw [Phase.perform_eq]
  generalize phase.course crowd = course at comes ⊢
  unfold size
  cases comes with
  | nothing => exact Nat.le_max_left _ _
  | prompt moment whole =>
    have grown := prompt_size engine moment sound place fun purpose => whole purpose place
    simp only [Option.toList, Traffic.run_single, Traffic.occurrences_single]
    omega
  | joining purpose there own =>
    have grown := prompt_size engine (.turn (.close there)) sound place nofun
    simp only [Option.toList, Traffic.run_single, Traffic.occurrences_single, countAt_append]
    by_cases same : there = place
    · subst same
      have count := Traffic.countAt_owned there
        ((Moment.turn (.close there)).perform engine crowd.traffic).2
      rw [Traffic.close_emptied, Traffic.heldAt, Traffic.close_held, ← Traffic.heldAt] at count
      simp only [List.length_nil] at count
      omega
    · have none : countAt place [(there, purpose)] = 0 := by simp [countAt, same]
      omega
  | leaving number purpose there own waiting =>
    have grown := Operation.grown_late engine purpose there crowd.traffic place
    have fewer := countAt_eraseIdx place waiting
    simp only [Option.toList, Traffic.run_single]
    have same : ((Moment.take purpose there false).perform engine crowd.traffic).2 =
      ((Operation.take purpose there false).perform engine crowd.traffic).2 := rfl
    rw [same]
    omega

def run (engine : Engine σ) : List Phase → Crowd σ → Crowd σ
  | [], crowd => crowd
  | phase :: rest, crowd => run engine rest (phase.perform engine crowd)

def occurrences (engine : Engine σ) : List Phase → Crowd σ → List Occurrence
  | [], _ => []
  | phase :: rest, crowd =>
    phase.occurrences engine crowd ++ occurrences engine rest (phase.perform engine crowd)

/-- The largest number of connections of a place that were in use at one time in a run. -/
def highwater (engine : Engine σ) (place : Place) : List Phase → Crowd σ → Nat
  | [], _ => 0
  | phase :: rest, crowd =>
    max (phase.inUse engine place crowd) (highwater engine place rest (phase.perform engine crowd))

theorem highwater_le (engine : Engine σ) (place : Place) (bound : Nat) (phases : List Phase)
    (crowd : Crowd σ) (each : ∀ before phase after, phases = before ++ phase :: after →
      phase.inUse engine place (run engine before crowd) ≤ bound) :
    highwater engine place phases crowd ≤ bound := by
  induction phases generalizing crowd with
  | nil => exact Nat.zero_le bound
  | cons phase rest ih =>
    refine Nat.max_le.mpr ⟨each [] phase rest rfl, ih _ fun before next after split => ?_⟩
    exact each (phase :: before) next after (congrArg (phase :: ·) split)

/-- What the phases of a run come to, one after another. -/
def moments (engine : Engine σ) : List Phase → Crowd σ → List Moment
  | [], _ => []
  | phase :: rest, crowd =>
    (phase.course crowd).1.toList ++ moments engine rest (phase.perform engine crowd)

end Crowd

namespace Crowd

theorem run_traffic (engine : Engine σ) (phases : List Phase) (crowd : Crowd σ) :
    (run engine phases crowd).traffic =
        Traffic.run engine (moments engine phases crowd) crowd.traffic ∧
      occurrences engine phases crowd =
        Traffic.occurrences engine (moments engine phases crowd) crowd.traffic := by
  induction phases generalizing crowd with
  | nil => exact ⟨rfl, rfl⟩
  | cons phase rest ih =>
    obtain ⟨state, seen⟩ := ih (phase.perform engine crowd)
    constructor
    · rw [run, state, moments, Traffic.run_append]
      rfl
    · rw [occurrences, seen, moments, Traffic.occurrences_append]
      rfl

/-- The size of a run, by induction on its phases. -/
theorem run_size (engine : Engine σ) (phases : List Phase) {crowd : Crowd σ}
    (sound : crowd.traffic.IsSound) (place : Place) :
    (run engine phases crowd).size place ≤
      max (crowd.size place) (highwater engine place phases crowd) := by
  induction phases generalizing crowd with
  | nil => exact Nat.le_max_left _ _
  | cons phase rest ih =>
    have now := phase_size engine phase sound place
    have later := ih (show (phase.perform engine crowd).traffic.IsSound from
      Traffic.run_sound engine _ sound)
    rw [run, highwater]
    omega

end Crowd

namespace Phase

variable {engine : Engine σ} {phase : Phase} {crowd : Crowd σ} {place : Place}

/-- Who gets a new connection has left nothing idle of what was, or has waited for it. -/
theorem opened_emptied (sound : crowd.traffic.IsSound) {connection : Nat}
    (opened : .opened place connection ∈ phase.occurrences engine crowd) :
    crowd.traffic.Emptied place (phase.perform engine crowd).traffic ∨
      ∃ number purpose, phase = .receive number ∧
        crowd.waiting[number]? = some (place, purpose) := by
  have comes := phase.comes crowd
  unfold occurrences at opened
  rw [perform_eq]
  generalize phase.course crowd = course at comes opened ⊢
  cases comes with
  | nothing => cases opened
  | prompt moment whole =>
    rw [Option.toList, Traffic.occurrences_single] at opened
    exact .inl (Traffic.moment_emptied sound opened fun purpose => whole purpose place)
  | joining purpose there own =>
    rw [Option.toList, Traffic.occurrences_single] at opened
    exact .inl (Traffic.moment_emptied sound opened nofun)
  | leaving number purpose there own waiting =>
    rw [Option.toList, Traffic.occurrences_single] at opened
    have opens : (Operation.take purpose there false).Opens engine crowd.traffic place connection :=
      Operation.opens_of_mem opened
    cases opens.place_of_take
    exact .inr ⟨number, purpose, own, waiting⟩

/-- Who begins to wait has left nothing idle. -/
theorem waiting_emptied (engine : Engine σ) (phase : Phase) (crowd : Crowd σ) :
    (phase.perform engine crowd).waiting.Sublist crowd.waiting ∨
      ∃ purpose place, phase = .seek purpose place ∧
        (phase.perform engine crowd).waiting = crowd.waiting ++ [(place, purpose)] ∧
        (phase.perform engine crowd).traffic.router.idleAt place = [] := by
  have comes := phase.comes crowd
  rw [perform_eq]
  generalize phase.course crowd = course at comes ⊢
  cases comes with
  | nothing | prompt => exact .inl (.refl _)
  | leaving => exact .inl (List.eraseIdx_sublist _ _)
  | joining purpose place own =>
    exact .inr ⟨purpose, place, own, rfl, Traffic.close_emptied engine place crowd.traffic⟩

end Phase

/-- From a router without idle connections, with any callers, whatever comes of their calls, and
also where connecting ends late: a connection is opened only by a caller before whom nothing idle
was left, found so or made so; what is open at a place never exceeds the largest number in use
there at one time so far; and where one at most is in use at a time, one at most is open. -/
theorem pool_bounded_by_use (engine : Engine σ) (router : Router) (world : World σ)
    (phases : List Phase) (place : Place) (empty : ∀ place, router.idleAt place = []) :
    let start : Crowd σ := { traffic := ⟨router, world, []⟩ }
    let crowd := Crowd.run engine phases start
    let seen := Crowd.occurrences engine phases start
    (∀ phase connection, .opened place connection ∈ Phase.occurrences engine phase crowd →
      crowd.traffic.Emptied place (phase.perform engine crowd).traffic ∨
        ∃ number purpose, phase = .receive number ∧
          crowd.waiting[number]? = some (place, purpose)) ∧
      (∀ phase, (Phase.perform engine phase crowd).waiting.Sublist crowd.waiting ∨
        ∃ purpose there, phase = .seek purpose there ∧
          (phase.perform engine crowd).waiting = crowd.waiting ++ [(there, purpose)] ∧
          (phase.perform engine crowd).traffic.router.idleAt there = []) ∧
      (openAt place seen crowd.traffic.world).length ≤ Crowd.highwater engine place phases start ∧
      ((∀ before phase after, phases = before ++ phase :: after →
          Phase.inUse engine place phase (Crowd.run engine before start) ≤ 1) →
        (openAt place seen crowd.traffic.world).length ≤ 1) := by
  intro start crowd seen
  have nothing := Traffic.owned_start world empty
  have begun : start.traffic.IsSound := Traffic.start_sound world empty
  obtain ⟨state, watched⟩ := Crowd.run_traffic engine phases start
  have sound : crowd.traffic.IsSound := by
    show (Crowd.run engine phases start).traffic.IsSound
    rw [state]
    exact Traffic.run_sound engine _ begun
  have bounded : (openAt place seen crowd.traffic.world).length ≤
      Crowd.highwater engine place phases start := by
    obtain ⟨shut, accounts⟩ := Traffic.run_accounts engine (Crowd.moments engine phases start)
      start.traffic
    rw [← state, ← watched] at accounts
    have owned := openAt_owned accounts place
    have size := Crowd.run_size engine phases begun place
    have fresh : start.size place = 0 := by
      unfold Crowd.size
      rw [nothing]
      rfl
    rw [fresh, Nat.zero_max] at size
    exact owned.trans ((Nat.le_add_right _ _).trans size)
  refine ⟨?_, ?_, bounded, fun alone => ?_⟩
  · intro phase connection opened
    exact Phase.opened_emptied sound opened
  · intro phase
    exact Phase.waiting_emptied engine phase crowd
  · exact bounded.trans (Crowd.highwater_le engine place 1 phases start alone)

/-- Two borrowers, the second of whom waits for a connection while the first gives one back. -/
def lateReceipt : List Phase :=
  [.turn (.ping ⟨.primary, 0⟩), .seek (.loan true) ⟨.primary, 0⟩, .seek (.loan true) ⟨.primary, 0⟩,
    .turn (.advance 0), .receive 0]

/-- A database that answers everything, with nobody there. -/
def Rehearsal.deserted : Crowd Rehearsal :=
  { traffic := ⟨(traffic "sqlite:///a.db" .sqlite {}).router,
      (traffic "sqlite:///a.db" .sqlite {}).world, []⟩ }

def Rehearsal.received : Crowd Rehearsal :=
  Crowd.run engine lateReceipt deserted

open Rehearsal in
theorem lateReceipt_bounded :
    (∀ place, deserted.traffic.router.idleAt place = []) ∧
      openAt ⟨.primary, 0⟩ (Crowd.occurrences engine lateReceipt deserted)
        received.traffic.world = [1, 2] ∧
      Crowd.highwater engine ⟨.primary, 0⟩ lateReceipt deserted = 2 ∧
      (openAt ⟨.primary, 0⟩ (Crowd.occurrences engine lateReceipt deserted)
        received.traffic.world).length ≤
          Crowd.highwater engine ⟨.primary, 0⟩ lateReceipt deserted := by
  have empty : ∀ place, deserted.traffic.router.idleAt place = [] :=
    traffic_empty "sqlite:///a.db" .sqlite _
  obtain ⟨-, -, bounded, -⟩ := pool_bounded_by_use engine deserted.traffic.router
    deserted.traffic.world lateReceipt ⟨.primary, 0⟩ empty
  exact ⟨empty, by cbv, by cbv, bounded⟩

end Querywright
