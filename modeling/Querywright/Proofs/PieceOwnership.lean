import Querywright.Proofs.FragmentPieces
import Mathlib.Algebra.GroupWithZero.Nat

/-! To which piece of a statement a placeholder and a value belong. The placeholders are those of
the whole statement, scanned once, whatever quotes the pieces open or close. -/
namespace Querywright
open Placeholder

/-- A sign of a statement: a character, or a value in the place of a placeholder. -/
inductive Mark where
  | character (character : Char)
  | value (value : Value)

namespace Fragment

/-- Values put in the place of placeholders, one after another. -/
def place : List (Char × Bool) → List Value → List Mark
  | [], _ => []
  | scanned :: rest, [] => .character scanned.1 :: place rest []
  | scanned :: rest, value :: others =>
    if isPlaceholder scanned then .value value :: place rest others
    else .character scanned.1 :: place rest (value :: others)

def inPlace (fragment : Fragment) : List Mark :=
  place (scan fragment.text) fragment.arguments

/-- For each character of the statement the number of its piece. -/
def pieceNumbers (start : Nat) (pieces : List Fragment) : List Nat :=
  (pieces.zipIdx start).flatMap fun (piece, number) => piece.text.toList.map fun _ => number

/-- For each placeholder of the statement the number of the piece that it is in. -/
def placeholderOwners (pieces : List Fragment) : List Nat :=
  (((scan (ofPieces pieces).text).zip (pieceNumbers 0 pieces)).filter
    fun (scanned, _) => isPlaceholder scanned).map (·.2)

/-- For each value of the statement the number of the piece that it was supplied with. -/
def valueOwners (pieces : List Fragment) : List Nat :=
  (pieces.zipIdx 0).flatMap fun (piece, number) => piece.arguments.map fun _ => number

/-- Every value stands at a placeholder of its own piece, and every placeholder has one. -/
def KeepsValues (pieces : List Fragment) : Prop :=
  placeholderOwners pieces = valueOwners pieces

/-- How many placeholders each piece has where it stands. -/
def countsFrom (standing : Quoting) : List Fragment → List Nat
  | [] => []
  | piece :: rest =>
    countFrom standing piece.text.toList ::
      countsFrom (standingAfter standing piece.text.toList) rest

/-- As many repetitions of each number, from a first one on, as a list tells. -/
def spread (start : Nat) : List Nat → List Nat
  | [] => []
  | size :: rest => List.replicate size start ++ spread (start + 1) rest

theorem place_append (first second : List (Char × Bool)) (values others : List Value)
    (balanced : first.countP isPlaceholder = values.length) :
    place (first ++ second) (values ++ others) = place first values ++ place second others := by
  induction first generalizing values with
  | nil =>
    have empty : values = [] := List.eq_nil_of_length_eq_zero (by simpa using balanced.symm)
    subst empty
    simp [place]
  | cons scanned rest ih =>
    rw [List.countP_cons] at balanced
    by_cases found : isPlaceholder scanned
    · cases values with
      | nil => simp [found] at balanced
      | cons value values =>
        have fewer : rest.countP isPlaceholder = values.length := by
          simpa [found] using balanced
        simp [place, found, ih values fewer]
    · have same : rest.countP isPlaceholder = values.length := by simpa [found] using balanced
      have next := ih values same
      cases values <;> cases others <;> simp_all [place]

theorem countsFrom_length (standing : Quoting) (pieces : List Fragment) :
    (countsFrom standing pieces).length = pieces.length := by
  induction pieces generalizing standing with
  | nil => rfl
  | cons piece rest ih => simp [countsFrom, ih]

theorem countsFrom_sum (standing : Quoting) (pieces : List Fragment) :
    (countsFrom standing pieces).sum = countFrom standing (ofPieces pieces).text.toList := by
  induction pieces generalizing standing with
  | nil => simp [countsFrom, countFrom]
  | cons piece rest ih =>
    rw [countsFrom, List.sum_cons, ih, ofPieces_cons, String.toList_append, countFrom_append]

theorem spread_above (start : Nat) (sizes : List Nat) :
    ∀ number ∈ spread start sizes, start ≤ number := by
  induction sizes generalizing start with
  | nil => simp [spread]
  | cons size rest ih =>
    intro number member
    rcases List.mem_append.mp member with same | later
    · exact Nat.le_of_eq (List.eq_of_mem_replicate same).symm
    · exact Nat.le_of_succ_le (ih (start + 1) number later)

theorem spread_inj (start : Nat) (first second : List Nat) (size : first.length = second.length)
    (same : spread start first = spread start second) : first = second := by
  induction first generalizing start second with
  | nil => exact (List.eq_nil_of_length_eq_zero size.symm).symm
  | cons head tail ih =>
    cases second with
    | nil => simp at size
    | cons other others =>
      have absent (sizes : List Nat) : (spread (start + 1) sizes).count start = 0 := by
        refine List.count_eq_zero.mpr fun member => ?_
        have := spread_above (start + 1) sizes start member
        omega
      -- Numbers further on are larger, so the first one is counted at the head alone.
      have equal := congrArg (List.count start) same
      simp only [spread, List.count_append, absent, List.count_replicate_self] at equal
      have heads : head = other := by omega
      subst heads
      have tails := List.append_cancel_left (by simpa only [spread] using same)
      rw [ih (start + 1) others (by simpa using size) tails]

theorem values_spread (start : Nat) (pieces : List Fragment) :
    ((pieces.zipIdx start).flatMap fun (piece, number) => piece.arguments.map fun _ => number) =
      spread start (pieces.map (·.arguments.length)) := by
  induction pieces generalizing start with
  | nil => rfl
  | cons piece rest ih =>
    rw [List.zipIdx_cons, List.flatMap_cons, ih]
    simp [spread, List.map_const']

private theorem numbered_placeholders (scanned : List (Char × Bool)) (number : Nat) :
    ((scanned.zip (scanned.map fun _ => number)).filter
      fun (scanned, _) => isPlaceholder scanned).map (·.2) =
      List.replicate (scanned.countP isPlaceholder) number := by
  induction scanned with
  | nil => rfl
  | cons head rest ih =>
    by_cases found : isPlaceholder head
    · simpa [found, List.replicate_succ] using ih
    · simpa [found] using ih

theorem placeholders_spread (standing : Quoting) (start : Nat) (pieces : List Fragment) :
    (((scanFrom standing (ofPieces pieces).text.toList).zip (pieceNumbers start pieces)).filter
      fun (scanned, _) => isPlaceholder scanned).map (·.2) =
      spread start (countsFrom standing pieces) := by
  induction pieces generalizing standing start with
  | nil => simp [pieceNumbers, spread, countsFrom]
  | cons piece rest ih =>
    have numbers : pieceNumbers start (piece :: rest) =
        ((scanFrom standing piece.text.toList).map fun _ => start) ++
          pieceNumbers (start + 1) rest := by
      simp [pieceNumbers, List.zipIdx_cons, List.map_const', scanFrom_length]
    rw [ofPieces_cons, String.toList_append, scanFrom_append, numbers,
      List.zip_append (by simp), List.filter_append, List.map_append, ih, numbered_placeholders]
    rfl

/-- Values are kept exactly when each piece has, where it stands, a placeholder for each of its
values and no other. -/
theorem keepsValues_iff (pieces : List Fragment) :
    KeepsValues pieces ↔ countsFrom .outside pieces = pieces.map (·.arguments.length) := by
  have found := placeholders_spread .outside 0 pieces
  have supplied := values_spread 0 pieces
  constructor
  · intro kept
    apply spread_inj 0
    · simp [countsFrom_length]
    · exact found.symm.trans (kept.trans supplied)
  · intro same
    exact found.trans ((congrArg (spread 0) same).trans supplied.symm)

theorem countsFrom_whole (pieces : List Fragment) (whole : ∀ piece ∈ pieces, piece.IsWhole) :
    countsFrom .outside pieces = pieces.map (·.arguments.length) := by
  induction pieces with
  | nil => rfl
  | cons piece rest ih =>
    have first := whole piece (by simp)
    have closed : standingAfter .outside piece.text.toList = .outside := first.closed
    rw [countsFrom, closed, ih fun other member => whole other (by simp [member])]
    exact congrArg (· :: _) first.balanced

theorem IsWhole.ofPieces {pieces : List Fragment} (whole : ∀ piece ∈ pieces, piece.IsWhole) :
    (ofPieces pieces).IsWhole := by
  induction pieces with
  | nil => exact ⟨rfl, rfl⟩
  | cons piece rest ih =>
    have first := whole piece (by simp)
    have others := ih fun other member => whole other (by simp [member])
    rw [ofPieces_cons]
    refine ⟨first.closed.append others.closed, ?_⟩
    rw [count_append first.closed, first.balanced, others.balanced, List.length_append]

theorem inPlace_ofPieces (pieces : List Fragment) (whole : ∀ piece ∈ pieces, piece.IsWhole) :
    (ofPieces pieces).inPlace = pieces.flatMap inPlace := by
  induction pieces with
  | nil => simp [inPlace, place, scan]
  | cons piece rest ih =>
    have first := whole piece (by simp)
    have closed : standingAfter .outside piece.text.toList = .outside := first.closed
    have others := ih fun other member => whole other (by simp [member])
    rw [List.flatMap_cons, ← others, ofPieces_cons]
    simp only [inPlace, scan, String.toList_append]
    rw [scanFrom_append, closed]
    exact place_append _ _ _ _ first.balanced

end Fragment
end Querywright
