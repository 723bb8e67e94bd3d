import Querywright.Pagination
import Mathlib.Algebra.Order.Field.Power
import Mathlib.Algebra.Order.Floor.Div
import Mathlib.Tactic.Linarith
import Mathlib.Tactic.NormNum
import Mathlib.Tactic.Positivity
import Mathlib.Tactic.Ring

/-! The number of pages, which goes through double precision. A double has 53 bits for the quotient of
total and size. As long as the total itself fits into them, and the size does not lie beneath the
least double, the quotient rounded to a double and then up is the quotient rounded up. -/
namespace Querywright

namespace Number

theorem scaled_ratio (numerator denominator : Nat) (exponent : Int) :
    ((scaled numerator denominator exponent).1 : ℚ) / (scaled numerator denominator exponent).2 =
      (numerator : ℚ) / denominator / 2 ^ exponent := by
  unfold scaled
  split
  · rename_i nonnegative
    obtain ⟨places, rfl⟩ := Int.eq_ofNat_of_zero_le nonnegative
    simp only [Int.toNat_natCast, Nat.shiftLeft_eq, zpow_natCast]
    push_cast
    rw [div_div]
  · rename_i negative
    obtain ⟨places, same⟩ := Int.eq_ofNat_of_zero_le (show 0 ≤ -exponent by omega)
    obtain rfl : exponent = -(places : Int) := by omega
    simp only [neg_neg, Int.toNat_natCast, Nat.shiftLeft_eq, zpow_neg, zpow_natCast, div_inv_eq_mul]
    push_cast
    rw [div_mul_eq_mul_div]

theorem scaled_below_pos (numerator : Nat) {denominator : Nat} (positive : 0 < denominator)
    (exponent : Int) : 0 < (scaled numerator denominator exponent).2 := by
  unfold scaled
  split
  · rw [Nat.shiftLeft_eq]
    positivity
  · exact positive

/-- The quotient of two numbers with so many bits. -/
theorem ratio_bounds {numerator denominator : Nat} (above : 0 < numerator)
    (below : 0 < denominator) :
    (2 : ℚ) ^ ((numerator.log2 : Int) - denominator.log2 - 1) < (numerator : ℚ) / denominator ∧
      (numerator : ℚ) / denominator < 2 ^ ((numerator.log2 : Int) - denominator.log2 + 1) := by
  have two : (2 : ℚ) ≠ 0 := by norm_num
  have least : (2 : ℚ) ^ numerator.log2 ≤ numerator := by
    exact_mod_cast Nat.log2_self_le (by omega)
  have most : (numerator : ℚ) < 2 ^ (numerator.log2 + 1) := by
    exact_mod_cast Nat.lt_log2_self
  have least' : (2 : ℚ) ^ denominator.log2 ≤ denominator := by
    exact_mod_cast Nat.log2_self_le (by omega)
  have most' : (denominator : ℚ) < 2 ^ (denominator.log2 + 1) := by
    exact_mod_cast Nat.lt_log2_self
  have positive : (0 : ℚ) < denominator := by exact_mod_cast below
  constructor
  · rw [lt_div_iff₀ positive]
    calc (2 : ℚ) ^ ((numerator.log2 : Int) - denominator.log2 - 1) * denominator
        < 2 ^ ((numerator.log2 : Int) - denominator.log2 - 1) * 2 ^ (denominator.log2 + 1) :=
          mul_lt_mul_of_pos_left most' (by positivity)
      _ = 2 ^ numerator.log2 := by
          rw [← zpow_natCast, ← zpow_natCast, ← zpow_add₀ two]
          congr 1
          push_cast
          omega
      _ ≤ numerator := least
  · rw [div_lt_iff₀ positive]
    calc (numerator : ℚ) < 2 ^ (numerator.log2 + 1) := most
      _ = 2 ^ ((numerator.log2 : Int) - denominator.log2 + 1) * 2 ^ denominator.log2 := by
          rw [← zpow_natCast, ← zpow_natCast, ← zpow_add₀ two]
          congr 1
          push_cast
          omega
      _ ≤ 2 ^ ((numerator.log2 : Int) - denominator.log2 + 1) * denominator :=
          mul_le_mul_of_nonneg_left least' (by positivity)

/-- The exponent leaves a quotient of 53 bits before the point, or is the least one there is and
leaves fewer. -/
theorem exponentOf_bounds {numerator denominator : Nat} (above : 0 < numerator)
    (below : 0 < denominator) :
    (numerator : ℚ) / denominator / 2 ^ exponentOf numerator denominator < 2 ^ 53 ∧
      (leastExponent < exponentOf numerator denominator →
        2 ^ 52 ≤ (numerator : ℚ) / denominator / 2 ^ exponentOf numerator denominator) := by
  obtain ⟨least, most⟩ := ratio_bounds above below
  set ratio : ℚ := (numerator : ℚ) / denominator with ratio_eq
  set guess : Int := (numerator.log2 : Int) - denominator.log2 - precision with guess_eq
  have two : (2 : ℚ) ≠ 0 := by norm_num
  have positive : 0 < ((scaled numerator denominator guess).2 : ℚ) := by
    exact_mod_cast scaled_below_pos numerator below guess
  have scale := scaled_ratio numerator denominator guess
  rw [← ratio_eq] at scale
  obtain ⟨fitted, same, lower, upper⟩ : ∃ fitted : Int,
      exponentOf numerator denominator = max fitted leastExponent ∧
      2 ^ 52 ≤ ratio / 2 ^ fitted ∧ ratio / 2 ^ fitted < 2 ^ 53 := by
    by_cases fits : (scaled numerator denominator guess).1 / (scaled numerator denominator guess).2 <
        1 <<< precision
    · refine ⟨guess, ?_, ?_, ?_⟩
      · simp only [exponentOf, ← guess_eq, if_pos fits]
      · rw [le_div_iff₀ (by positivity), ← zpow_natCast, ← zpow_add₀ two]
        refine le_of_lt (lt_of_le_of_lt (le_of_eq ?_) least)
        congr 1
        rw [guess_eq, precision]
        push_cast
        omega
      · rw [← scale, div_lt_iff₀ positive]
        have bound := (Nat.div_lt_iff_lt_mul (scaled_below_pos numerator below guess)).mp fits
        exact_mod_cast bound
    · refine ⟨guess + 1, ?_, ?_, ?_⟩
      · simp only [exponentOf, ← guess_eq, if_neg fits]
      · have bound := (Nat.le_div_iff_mul_le (scaled_below_pos numerator below guess)).mp
          (not_lt.mp fits)
        have reached : (2 : ℚ) ^ 53 ≤ ratio / 2 ^ guess := by
          rw [← scale, le_div_iff₀ positive]
          exact_mod_cast bound
        rw [zpow_add_one₀ two, ← div_div]
        linarith
      · rw [div_lt_iff₀ (by positivity), ← zpow_natCast, ← zpow_add₀ two]
        refine lt_of_lt_of_eq most ?_
        congr 1
        rw [guess_eq, precision]
        push_cast
        omega
  rw [same]
  constructor
  · refine lt_of_le_of_lt ?_ upper
    have raised : (2 : ℚ) ^ fitted ≤ 2 ^ max fitted leastExponent :=
      zpow_le_zpow_right₀ (by norm_num) (le_max_left _ _)
    exact div_le_div_of_nonneg_left (by positivity) (by positivity) raised
  · intro higher
    rw [max_eq_left (by omega)]
    exact lower

theorem scaled_bounds {numerator denominator : Nat} (above : 0 < numerator)
    (below : 0 < denominator) :
    let exponent := exponentOf numerator denominator
    let ratio := scaled numerator denominator exponent
    ratio.1 < 2 ^ 53 * ratio.2 ∧ (leastExponent < exponent → 2 ^ 52 * ratio.2 ≤ ratio.1) := by
  intro exponent ratio
  obtain ⟨upper, lower⟩ := exponentOf_bounds above below
  have positive : 0 < ((scaled numerator denominator exponent).2 : ℚ) := by
    exact_mod_cast scaled_below_pos numerator below exponent
  have scale := scaled_ratio numerator denominator exponent
  rw [← scale] at upper lower
  constructor
  · rw [div_lt_iff₀ positive] at upper
    exact_mod_cast upper
  · intro higher
    have reached := lower higher
    rw [le_div_iff₀ positive] at reached
    exact_mod_cast reached

/-- Rounding does not pass a whole number from below. -/
theorem roundedQuotient_le {numerator denominator bound : Nat} (below : 0 < denominator)
    (most : numerator ≤ bound * denominator) : roundedQuotient numerator denominator ≤ bound := by
  have whole : numerator / denominator ≤ bound := Nat.div_le_of_le_mul (by linarith)
  unfold roundedQuotient
  dsimp only
  split
  · rename_i rounds
    have parts := Nat.div_add_mod numerator denominator
    have rest : 0 < numerator % denominator := by
      by_contra none
      simp [show numerator % denominator = 0 by omega] at rounds
      omega
    by_contra high
    obtain rfl : numerator / denominator = bound := by omega
    linarith
  · exact whole

/-- More than a half behind a whole number is rounded beyond it. -/
theorem lt_roundedQuotient {numerator denominator bound : Nat} (below : 0 < denominator)
    (half : denominator < 2 * (numerator - bound * denominator)) :
    bound < roundedQuotient numerator denominator := by
  have parts := Nat.div_add_mod numerator denominator
  have least : bound ≤ numerator / denominator := by
    rw [Nat.le_div_iff_mul_le below]
    omega
  unfold roundedQuotient
  dsimp only
  rcases Nat.lt_or_eq_of_le least with beyond | same
  · split <;> omega
  · have rest : numerator % denominator = numerator - bound * denominator := by
      rw [same, Nat.mul_comm]
      omega
    rw [if_pos (by simp; omega)]
    omega

/-- A total within 53 bits is divided so finely that what is left for the last page, be it one row,
is more than half a step. -/
theorem half_step {total size half pages : Nat} (fits : total ≤ 2 ^ 53) (fine : 0 < half)
    (close : 2 ^ 52 * size ≤ total * (2 * half)) (more : pages * size < total) :
    size < 2 * (2 * half * (total - pages * size)) := by
  obtain ⟨rest, left⟩ : ∃ rest, total = pages * size + (rest + 1) :=
    ⟨total - pages * size - 1, by omega⟩
  rw [show total - pages * size = rest + 1 by omega]
  have most : total * (2 * half) ≤ 2 ^ 53 * (2 * half) := Nat.mul_le_mul_right _ fits
  by_cases wide : size < 4 * half
  · nlinarith
  · -- Only the largest total comes so near, and one row cannot be left of it.
    obtain rfl : size = 4 * half := by omega
    have least : 2 ^ 53 * (2 * half) ≤ total * (2 * half) := by omega
    obtain rfl : total = 2 ^ 53 :=
      le_antisymm fits (Nat.le_of_mul_le_mul_right least (by omega))
    have several : rest ≠ 0 := by
      rintro rfl
      have even : pages * (4 * half) = 4 * (pages * half) := Nat.mul_left_comm pages 4 half
      omega
    obtain ⟨rest, rfl⟩ := Nat.exists_eq_succ_of_ne_zero several
    nlinarith

/-- Coarser steps are not needed but for totals that a page size of one or two divides. -/
theorem divides_of_close {total size : Nat} (below : 0 < size) (fits : total ≤ 2 ^ 53)
    (close : 2 ^ 52 * size ≤ total) : size ∣ total := by
  have few : size = 1 ∨ size = 2 := by omega
  rcases few with rfl | rfl
  · exact one_dvd total
  · obtain rfl : total = 2 ^ 53 := by omega
    decide

theorem roundedQuotient_of_dvd {numerator denominator : Nat} (below : 0 < denominator)
    (divides : denominator ∣ numerator) :
    roundedQuotient numerator denominator = numerator / denominator := by
  unfold roundedQuotient
  dsimp only
  rw [Nat.mod_eq_zero_of_dvd divides, if_neg]
  simp
  omega

theorem Dyadic.ceiling_fine (coefficient places : Nat) (fine : 0 < places) :
    (Dyadic.mk coefficient (-(places : Int))).ceiling = coefficient ⌈/⌉ 2 ^ places := by
  unfold Dyadic.ceiling
  rw [if_neg (by dsimp only; omega), Nat.ceilDiv_eq_add_pred_div]
  simp only [neg_neg, Int.toNat_natCast, Nat.shiftRight_eq_div_pow, Nat.shiftLeft_eq, one_mul]

theorem nearest_positive {total : Nat} (above : 0 < total) (size : Nat) :
    nearest total size =
      ⟨roundedQuotient (scaled total size (exponentOf total size)).1
        (scaled total size (exponentOf total size)).2, exponentOf total size⟩ := by
  unfold nearest
  rw [if_neg (by simp; omega)]

theorem scaled_fine (numerator denominator places : Nat) :
    scaled numerator denominator (-(places : Int)) = (numerator * 2 ^ places, denominator) := by
  unfold scaled
  split
  · obtain rfl : places = 0 := by omega
    simp
  · simp [Nat.shiftLeft_eq]

theorem scaled_coarse (numerator denominator places : Nat) :
    scaled numerator denominator places = (numerator, denominator * 2 ^ places) := by
  simp [scaled, Nat.shiftLeft_eq]

theorem not_overflows {number : Dyadic}
    (fits : number.coefficient * 2 ^ number.exponent.toNat ≤ 2 ^ 53) : number.overflows = false := by
  unfold Dyadic.overflows
  rw [decide_eq_false_iff_not, Nat.one_shiftLeft, Nat.shiftLeft_eq]
  intro reached
  have within := (Nat.pow_le_pow_iff_right (by decide)).mp (reached.trans fits)
  omega

section Quotient

variable {total size : Nat} (fits : total ≤ 2 ^ 53) (above : 0 < total) (below : 0 < size)

include fits above below

/-- The rows of the last page are more than half a step. -/
theorem half_step_exponent (small : size < 2 ^ 1075) {places : Nat} (fine : 0 < places)
    (exponent : exponentOf total size = -(places : Int)) {pages : Nat}
    (more : pages * size < total) : size < 2 * (2 ^ places * (total - pages * size)) := by
  have lower := (scaled_bounds above below).2
  have least : leastExponent ≤ exponentOf total size := le_max_right _ _
  rw [exponent] at lower least
  rw [scaled_fine] at lower
  rcases lt_or_eq_of_le least with higher | lowest
  · obtain ⟨half, rfl⟩ := Nat.exists_eq_succ_of_ne_zero fine.ne'
    have close := lower higher
    dsimp only at close
    rw [Nat.pow_succ 2 half, Nat.mul_comm _ 2] at close ⊢
    exact half_step fits (Nat.two_pow_pos half) close more
  · obtain rfl : places = 1074 := by
      rw [leastExponent] at lowest
      omega
    calc size < 2 ^ 1075 := small
      _ = 2 * (2 ^ 1074 * 1) := by rw [Nat.mul_one, Nat.mul_comm, ← Nat.pow_succ]
      _ ≤ 2 * (2 ^ 1074 * (total - pages * size)) :=
        Nat.mul_le_mul_left 2 (Nat.mul_le_mul_left _ (by omega))

/-- Where the quotient is given in steps below one, rounding it does not take it over a whole number,
neither up nor down. -/
theorem rounded_le_iff (small : size < 2 ^ 1075) {places : Nat} (fine : 0 < places)
    (exponent : exponentOf total size = -(places : Int)) (pages : Nat) :
    roundedQuotient (total * 2 ^ places) size ≤ 2 ^ places * pages ↔ total ≤ size * pages := by
  constructor
  · contrapose!
    intro more
    have rest : total * 2 ^ places - 2 ^ places * pages * size =
        2 ^ places * (total - pages * size) := by
      rw [Nat.mul_sub, Nat.mul_comm total, Nat.mul_assoc]
    refine lt_roundedQuotient below ?_
    rw [rest]
    rw [Nat.mul_comm] at more
    exact half_step_exponent fits above below small fine exponent more
  · intro enough
    refine roundedQuotient_le below ?_
    calc total * 2 ^ places ≤ size * pages * 2 ^ places := Nat.mul_le_mul_right _ enough
      _ = 2 ^ places * pages * size := by ring

theorem nearest_fine (small : size < 2 ^ 1075) {places : Nat} (fine : 0 < places)
    (exponent : exponentOf total size = -(places : Int)) :
    (nearest total size).ceiling = total ⌈/⌉ size ∧
      (nearest total size).overflows = false := by
  have upper := (scaled_bounds above below).1
  rw [exponent, scaled_fine] at upper
  rw [nearest_positive above, exponent, scaled_fine]
  constructor
  · rw [Dyadic.ceiling_fine _ places fine]
    refine eq_of_forall_ge_iff fun pages => ?_
    rw [ceilDiv_le_iff_le_mul (Nat.two_pow_pos places), ceilDiv_le_iff_le_mul below]
    exact rounded_le_iff fits above below small fine exponent pages
  · have most : roundedQuotient (total * 2 ^ places) size ≤ 2 ^ 53 :=
      roundedQuotient_le below upper.le
    exact not_overflows (by simpa using most)

/-- Coarser steps come up only where nothing is lost. -/
theorem nearest_coarse {places : Nat} (exponent : exponentOf total size = places) :
    (nearest total size).ceiling = total ⌈/⌉ size ∧
      (nearest total size).overflows = false := by
  have lower := (scaled_bounds above below).2
  rw [exponent, scaled_coarse] at lower
  have higher : leastExponent < (places : Int) := by
    rw [leastExponent]
    omega
  have positive : 0 < size * 2 ^ places := Nat.mul_pos below (Nat.two_pow_pos places)
  have divides : size * 2 ^ places ∣ total := divides_of_close positive fits (lower higher)
  obtain ⟨share, rfl⟩ := divides
  have quotient : roundedQuotient (size * 2 ^ places * share) (size * 2 ^ places) = share := by
    rw [roundedQuotient_of_dvd positive (Nat.dvd_mul_right _ _), Nat.mul_div_cancel_left _ positive]
  rw [nearest_positive above, exponent, scaled_coarse]
  dsimp only
  rw [quotient]
  have whole : (Dyadic.mk share places).ceiling = 2 ^ places * share := by
    unfold Dyadic.ceiling
    rw [if_pos (Int.natCast_nonneg places)]
    simp [Nat.shiftLeft_eq, Nat.mul_comm]
  constructor
  · rw [whole]
    refine eq_of_forall_ge_iff fun pages => ?_
    rw [ceilDiv_le_iff_le_mul below, Nat.mul_assoc, Nat.mul_le_mul_left_iff below]
  · refine not_overflows ?_
    calc share * 2 ^ places ≤ size * (share * 2 ^ places) := Nat.le_mul_of_pos_left _ below
      _ = size * 2 ^ places * share := by ring
      _ ≤ 2 ^ 53 := fits

end Quotient

theorem nearest_ceiling {total size : Nat} (fits : total ≤ 2 ^ 53) (below : 0 < size)
    (small : size < 2 ^ 1075) :
    (nearest total size).ceiling = total ⌈/⌉ size ∧ (nearest total size).overflows = false := by
  rcases Nat.eq_zero_or_pos total with rfl | above
  · rw [zero_ceilDiv]
    exact ⟨rfl, not_overflows (by simp [nearest])⟩
  · by_cases coarse : 0 ≤ exponentOf total size
    · obtain ⟨places, exponent⟩ := Int.eq_ofNat_of_zero_le coarse
      exact nearest_coarse fits above below exponent
    · obtain ⟨places, same⟩ := Int.eq_ofNat_of_zero_le (show 0 ≤ -exponentOf total size by omega)
      exact nearest_fine fits above below small (show 0 < places by omega) (by omega)

end Number

/-- A quotient is rounded up exactly, given that the total is no larger than doubles can count, and
the size not so large that the quotient vanishes. -/
theorem pagesOf_exact {total size : Nat} (fits : total ≤ 2 ^ 53) (below : 0 < size)
    (small : size < 2 ^ 1075) :
    pagesOf total (.integer size) = .ok ((total ⌈/⌉ size : Nat) : Int) := by
  obtain ⟨ceiling, bounded⟩ := Number.nearest_ceiling fits below small
  have sized : ((size : Int) == 0) = false := by
    rw [beq_eq_false_iff_ne]
    omega
  have signs : (decide ((total : Int) < 0) == decide ((size : Int) < 0)) = true := by
    rw [decide_eq_false (by omega), decide_eq_false (by omega)]
    rfl
  change quotientRoundedUp total size = _
  unfold quotientRoundedUp
  rw [sized, Int.natAbs_natCast, Int.natAbs_natCast]
  dsimp only
  rw [bounded, signs, ceiling]
  rfl

theorem ceilDiv_isLeast {total size : Nat} (below : 0 < size) :
    IsLeast {pages : Nat | total ≤ pages * size} (total ⌈/⌉ size) := by
  have enough (pages : Nat) : total ⌈/⌉ size ≤ pages ↔ total ≤ pages * size := by
    rw [ceilDiv_le_iff_le_mul below, Nat.mul_comm]
  exact ⟨(enough _).mp le_rfl, fun pages covers => (enough pages).mpr covers⟩

end Querywright
