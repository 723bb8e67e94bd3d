import Querywright.Proofs.CallsAsTurns
import Mathlib.Data.Int.CardIntervalMod

/-! Whose turn it is. Each side of a router hands its calls to its members one after the other and
then begins anew; whatever else is done with the router, and however it ends, leaves the turns as
they are. -/
namespace Querywright

variable {σ : Type}

namespace Router

def size (side : Side) (router : Router) : Nat :=
  (router.pools side).length

def turn (side : Side) (router : Router) : Nat :=
  match side with
  | .primary => router.nextPrimary
  | .replica => router.nextReplica

/-- Two states of a router with as many members and the same turns. -/
structure SameTurns (before after : Router) : Prop where
  turn : ∀ side, after.turn side = before.turn side
  size : ∀ side, after.size side = before.size side

variable {before between after router : Router}

theorem SameTurns.refl (router : Router) : SameTurns router router :=
  ⟨fun _ => rfl, fun _ => rfl⟩

theorem SameTurns.trans (first : SameTurns before between) (second : SameTurns between after) :
    SameTurns before after :=
  ⟨fun side => (second.turn side).trans (first.turn side),
    fun side => (second.size side).trans (first.size side)⟩

theorem SamePools.size (same : SamePools before after) (side : Side) :
    after.size side = before.size side := by
  unfold Router.size
  rw [same.pools]

theorem replace_turns (place : Place) (pool : Pool) (router : Router) :
    SameTurns router (router.replace place pool) := by
  obtain ⟨there, index⟩ := place
  constructor
  · intro side
    cases there <;> cases side <;> rfl
  · intro side
    unfold Router.size
    rw [pools_replace]
    split
    · exact List.length_set
    · rfl

theorem act_turns {α : Type} (place : Place)
    (action : Pool → World σ → Except Error α × Pool × World σ) (router : Router)
    (world : World σ) : SameTurns router (router.act place action world).2.1 := by
  cases there : router.pool? place with
  | none =>
    rw [act_of_none action world there]
    exact .refl router
  | some pool =>
    rw [act_of_pool? action world there]
    exact replace_turns place _ router

theorem actAll_turns (action : Pool → World σ → Except Error Unit × Pool × World σ)
    (places : List Place) (router : Router) (world : World σ) :
    SameTurns router (actAll action places router world).2.1 := by
  induction places generalizing router world with
  | nil => exact .refl router
  | cons place rest ih =>
    have first := act_turns place action router world
    unfold actAll
    generalize router.act place action world = outcome at first ⊢
    obtain ⟨result, acted, left⟩ := outcome
    cases result with
    | error reason => exact first
    | ok done => exact first.trans (ih acted left)

theorem giveBack_turns (engine : Engine σ) (place : Place) (connection : Nat) (discarded : Bool)
    (router : Router) (world : World σ) :
    SameTurns router (router.giveBack engine place connection discarded world).1 :=
  act_turns (α := Unit) place (fun pool world =>
    (.ok (), pool.checkin engine connection discarded world)) router world

theorem ping_turns (engine : Engine σ) (router : Router) (world : World σ) :
    SameTurns router (router.ping engine world).2.1 :=
  actAll_turns _ router.places router world

theorem close_turns (engine : Engine σ) (router : Router) (world : World σ) :
    SameTurns router (router.close engine world).1 :=
  actAll_turns _ router.places router world

theorem reconnect_turns (engine : Engine σ) (router : Router) (world : World σ) :
    SameTurns router (router.reconnect engine world).2.1 :=
  (close_turns engine router world).trans (ping_turns engine _ _)

/-- The places to which calls were handed between two states of a router, in their order. -/
inductive Dispatches : Router → List Place → Router → Prop where
  | nothing {before after : Router} (same : SameTurns before after) : Dispatches before [] after
  | dispatch {before after : Router} (side : Side)
      (same : SameTurns (before.dispatch side).2 after) :
      Dispatches before [(before.dispatch side).1] after
  | trans {before between after : Router} {earlier later : List Place}
      (first : Dispatches before earlier between) (second : Dispatches between later after) :
      Dispatches before (earlier ++ later) after

theorem dispatch_index (side : Side) (router : Router) :
    (router.dispatch side).1 = ⟨side, router.turn side % router.size side⟩ := by
  cases side <;> rfl

theorem dispatch_turn (side other : Side) (router : Router) :
    (router.dispatch side).2.turn other =
      if other = side then (router.turn side % router.size side + 1) % router.size side
      else router.turn other := by
  cases side <;> cases other <;> rfl

end Router

/-- The members of one side among places, in the order in which they stand there. -/
def membersOf (side : Side) (places : List Place) : List Nat :=
  (places.filter fun place => place.side == side).map Place.index

@[simp] theorem membersOf_nil (side : Side) : membersOf side [] = [] :=
  rfl

@[simp] theorem membersOf_append (side : Side) (earlier later : List Place) :
    membersOf side (earlier ++ later) = membersOf side earlier ++ membersOf side later := by
  simp [membersOf]

theorem membersOf_single (side : Side) (place : Place) :
    membersOf side [place] = if place.side = side then [place.index] else [] := by
  by_cases mine : place.side = side
  · simp [membersOf, mine]
  · simp [membersOf, mine]

theorem count_membersOf (side : Side) (index : Nat) (places : List Place) :
    (membersOf side places).count index = places.count ⟨side, index⟩ := by
  induction places with
  | nil => rfl
  | cons place rest ih =>
    have split := membersOf_append side [place] rest
    rw [List.singleton_append, membersOf_single] at split
    obtain ⟨there, other⟩ := place
    rw [split, List.count_append, List.count_cons, ih]
    by_cases mine : there = side
    · subst mine
      by_cases same : other = index
      · simp [same, Nat.add_comm]
      · simp [same]
    · simp [mine]

/-- From the member whose turn is the given one, one member after the other. -/
def turnsFrom (first count size : Nat) : List Nat :=
  (List.range' first count).map (· % size)

theorem turnsFrom_append (first count more size : Nat) :
    turnsFrom first (count + more) size =
      turnsFrom first count size ++ turnsFrom (first + count) more size := by
  unfold turnsFrom
  rw [← List.map_append, List.range'_append_1]

@[simp] theorem turnsFrom_length (first count size : Nat) :
    (turnsFrom first count size).length = count := by
  simp [turnsFrom]

theorem count_turnsFrom (total size index : Nat) (inside : index < size) :
    (turnsFrom 0 total size).count index =
      total / size + if index < total % size then 1 else 0 := by
  have positive : 0 < size := by omega
  have counted := Nat.count_modEq_card total positive index
  rw [Nat.mod_eq_of_lt inside] at counted
  rw [← counted]
  clear counted
  induction total with
  | zero => rfl
  | succ total ih =>
    have last := turnsFrom_append 0 total 1 size
    rw [last, List.count_append, ih, Nat.count_succ]
    have single : turnsFrom (0 + total) 1 size = [total % size] := by
      simp [turnsFrom]
    rw [single]
    have residue : total ≡ index [MOD size] ↔ total % size = index := by
      unfold Nat.ModEq
      rw [Nat.mod_eq_of_lt inside]
    by_cases hit : total % size = index
    · simp [residue, hit]
    · simp [residue, hit]

/-- No member is passed over: each has its share of the turns, rounded down or up. -/
theorem turnsFrom_shared (total size index : Nat) (inside : index < size) :
    total / size ≤ (turnsFrom 0 total size).count index ∧
      (turnsFrom 0 total size).count index ≤ (total + size - 1) / size := by
  have positive : 0 < size := by omega
  rw [count_turnsFrom total size index inside]
  constructor
  · exact Nat.le_add_right _ _
  · rw [Nat.le_div_iff_mul_le positive]
    have whole : size * (total / size) + total % size = total := Nat.div_add_mod total size
    rw [Nat.add_mul, Nat.mul_comm (total / size)]
    split
    · rw [Nat.one_mul]
      omega
    · omega

theorem Router.Dispatches.size {before after : Router} {places : List Place}
    (dispatched : before.Dispatches places after) (side : Side) :
    after.size side = before.size side := by
  induction dispatched with
  | nothing same => exact same.size side
  | dispatch other same =>
    exact (same.size side).trans ((Router.dispatch_samePools other _).size side)
  | trans first second earlier later => exact later.trans earlier

/-- Where it is a side's turn after so many calls, the next calls take the turns that follow. -/
theorem Router.Dispatches.turns {before after : Router} {places : List Place}
    (dispatched : before.Dispatches places after) (side : Side) (calls : Nat)
    (due : before.turn side = calls % before.size side) :
    membersOf side places =
        turnsFrom calls (membersOf side places).length (before.size side) ∧
      after.turn side =
        (calls + (membersOf side places).length) % before.size side := by
  induction dispatched generalizing calls with
  | nothing same =>
    refine ⟨rfl, ?_⟩
    rw [same.turn, due]
    rfl
  | @dispatch before after other same =>
    rw [same.turn, Router.dispatch_turn, Router.dispatch_index, membersOf_single]
    by_cases mine : other = side
    · subst mine
      simp [turnsFrom, due, Nat.add_mod]
    · have others : side ≠ other := Ne.symm mine
      simp [mine, others, due, turnsFrom]
  | @trans before between after earlier later first second ihFirst ihSecond =>
    obtain ⟨turns, due⟩ := ihFirst calls due
    have sizes := first.size side
    obtain ⟨more, last⟩ := ihSecond (calls + (membersOf side earlier).length) (by rw [due, sizes])
    rw [sizes] at more last
    rw [membersOf_append, List.length_append, turnsFrom_append, ← turns, ← more]
    refine ⟨rfl, ?_⟩
    rw [last, Nat.add_assoc]

section FromTheFirst

variable {before after : Router} {places : List Place} {side : Side}

theorem Router.Dispatches.in_turn (dispatched : before.Dispatches places after)
    (first : before.turn side = 0) :
    membersOf side places = turnsFrom 0 (membersOf side places).length (before.size side) ∧
      after.turn side = (membersOf side places).length % before.size side := by
  have taken := dispatched.turns side 0 (by rw [first, Nat.zero_mod])
  rwa [Nat.zero_add] at taken

theorem Router.Dispatches.shared (dispatched : before.Dispatches places after)
    (first : before.turn side = 0) {index : Nat} (inside : index < before.size side) :
    (membersOf side places).length / before.size side ≤ places.count ⟨side, index⟩ ∧
      places.count ⟨side, index⟩ ≤
        ((membersOf side places).length + before.size side - 1) / before.size side := by
  have taken := (dispatched.in_turn first).1
  rw [← count_membersOf, taken, turnsFrom_length]
  exact turnsFrom_shared _ _ index inside

end FromTheFirst

end Querywright
