import Querywright.Proofs.PageCount

/-! Where double precision ends. The largest double lies one step below the power of two that it
cannot hold; a quotient that comes within half a step of that power is rounded to it, and is none.
For the number of pages that is one of two ways to fail, the other being a size of zero. -/
namespace Querywright

namespace Number

/-- The least quotient that is rounded beyond every double: half a step above the largest one. -/
def doubleLimit : Nat :=
  2 ^ 1024 - 2 ^ 970

theorem doubleLimit_eq : doubleLimit = (2 * (2 ^ 53 - 1) + 1) * 2 ^ 970 := by
  decide +kernel

/-- Rounding passes an odd number from its half on, the tie included. -/
theorem lt_roundedQuotient_iff {numerator denominator whole : Nat} (below : 0 < denominator)
    (odd : whole % 2 = 1) :
    whole < roundedQuotient numerator denominator ↔
      (2 * whole + 1) * denominator ≤ 2 * numerator := by
  have parts := Nat.div_add_mod numerator denominator
  have rest := Nat.mod_lt numerator below
  rw [Nat.mul_comm denominator] at parts
  unfold roundedQuotient
  dsimp only
  rcases Nat.lt_trichotomy (numerator / denominator) whole with less | rfl | more
  · have bound : (numerator / denominator + 1) * denominator ≤ whole * denominator :=
      Nat.mul_le_mul_right _ less
    rw [Nat.add_mul] at bound ⊢
    rw [Nat.mul_assoc]
    constructor
    · intro beyond
      split at beyond <;> omega
    · intro reached
      omega
  · rw [odd, Nat.add_mul, Nat.mul_assoc]
    split
    · rename_i rounds
      simp at rounds
      omega
    · rename_i stays
      simp at stays
      omega
  · have bound : (whole + 1) * denominator ≤ numerator / denominator * denominator :=
      Nat.mul_le_mul_right _ more
    rw [Nat.add_mul] at bound ⊢
    rw [Nat.mul_assoc]
    constructor
    · intro beyond
      omega
    · intro reached
      split <;> omega

theorem overflows_iff (number : Dyadic) :
    number.overflows = true ↔ 1 <<< 1024 ≤ number.coefficient <<< number.exponent.toNat :=
  decide_eq_true_iff

section Shifts

variable {coefficient places bits top : Nat}

theorem shifted_lt (most : coefficient ≤ 2 ^ bits) (low : bits + places < top) :
    coefficient <<< places < 1 <<< top := by
  rw [Nat.shiftLeft_eq, Nat.shiftLeft_eq, Nat.one_mul]
  calc coefficient * 2 ^ places ≤ 2 ^ bits * 2 ^ places := Nat.mul_le_mul_right _ most
    _ = 2 ^ (bits + places) := (Nat.pow_add 2 bits places).symm
    _ < 2 ^ top := Nat.pow_lt_pow_right (by decide) low

theorem le_shifted (least : 2 ^ bits ≤ coefficient) (high : top ≤ bits + places) :
    1 <<< top ≤ coefficient <<< places := by
  rw [Nat.shiftLeft_eq, Nat.shiftLeft_eq, Nat.one_mul]
  calc 2 ^ top ≤ 2 ^ (bits + places) := Nat.pow_le_pow_right (by decide) high
    _ = 2 ^ bits * 2 ^ places := Nat.pow_add 2 bits places
    _ ≤ coefficient * 2 ^ places := Nat.mul_le_mul_right _ least

theorem le_shifted_iff (same : top = bits + places) :
    1 <<< top ≤ coefficient <<< places ↔ 2 ^ bits ≤ coefficient := by
  rw [Nat.shiftLeft_eq, Nat.shiftLeft_eq, Nat.one_mul, same, Nat.pow_add]
  exact Nat.mul_le_mul_right_iff (Nat.two_pow_pos places)

end Shifts

theorem le_roundedQuotient {numerator denominator bound : Nat} (below : 0 < denominator)
    (least : bound * denominator ≤ numerator) : bound ≤ roundedQuotient numerator denominator := by
  have whole : bound ≤ numerator / denominator := (Nat.le_div_iff_mul_le below).mpr least
  unfold roundedQuotient
  dsimp only
  split <;> omega

section Quotient

variable {total size : Nat} (above : 0 < total) (below : 0 < size)

include above below

/-- In finer steps than the coarsest the quotient stays in the lower half of the range. -/
theorem nearest_within (small : exponentOf total size < 971) :
    (nearest total size).overflows = false ∧ total < size * doubleLimit := by
  obtain ⟨upper, -⟩ := exponentOf_bounds above below
  have positive : (0 : ℚ) < size := by exact_mod_cast below
  constructor
  · have rounded := roundedQuotient_le (scaled_below_pos total below (exponentOf total size))
      (scaled_bounds above below).1.le
    rw [nearest_positive above, Bool.eq_false_iff, ne_eq, overflows_iff, not_le]
    exact shifted_lt rounded (by dsimp only; omega)
  · have quotient : (total : ℚ) / size < 2 ^ 53 * 2 ^ 970 := by
      have steps : (2 : ℚ) ^ exponentOf total size ≤ 2 ^ (970 : Int) :=
        zpow_le_zpow_right₀ (by norm_num) (by omega)
      rw [div_lt_iff₀ (by positivity)] at upper
      calc (total : ℚ) / size < 2 ^ 53 * 2 ^ exponentOf total size := upper
        _ ≤ 2 ^ 53 * 2 ^ (970 : Int) := mul_le_mul_of_nonneg_left steps (by positivity)
        _ = 2 ^ 53 * 2 ^ 970 := by rw [← zpow_natCast 2 970]; rfl
    rw [div_lt_iff₀ positive] at quotient
    calc total < 2 ^ 53 * 2 ^ 970 * size := by exact_mod_cast quotient
      _ ≤ doubleLimit * size := Nat.mul_le_mul_right _ (by decide +kernel)
      _ = size * doubleLimit := Nat.mul_comm _ _

/-- In the coarsest steps of all, where the quotient may be rounded to the limit. -/
theorem nearest_coarsest {places : Nat} (last : places = 970)
    (coarsest : exponentOf total size = (places + 1 : Nat)) :
    (nearest total size).overflows = true ↔ size * doubleLimit ≤ total := by
  have top : 1024 = 53 + (places + 1) := by rw [last]
  have positive : 0 < size * 2 ^ (places + 1) := by positivity
  have passes : 2 ^ 53 - 1 < roundedQuotient total (size * 2 ^ (places + 1)) ↔
      (2 * (2 ^ 53 - 1) + 1) * (size * 2 ^ (places + 1)) ≤ 2 * total :=
    lt_roundedQuotient_iff positive (by decide)
  have reaches : 2 ^ 53 - 1 < roundedQuotient total (size * 2 ^ (places + 1)) ↔
      2 ^ 53 ≤ roundedQuotient total (size * 2 ^ (places + 1)) := by
    omega
  have limit : doubleLimit = (2 * (2 ^ 53 - 1) + 1) * 2 ^ places := by
    rw [last]
    exact doubleLimit_eq
  have halved : (2 * (2 ^ 53 - 1) + 1) * (size * 2 ^ (places + 1)) = 2 * (size * doubleLimit) := by
    rw [limit]
    ring
  rw [reaches, halved, Nat.mul_le_mul_left_iff Nat.two_pos] at passes
  rw [nearest_positive above, coarsest, scaled_coarse, overflows_iff, ← passes]
  exact le_shifted_iff top

/-- In steps that no double has. -/
theorem nearest_beyond {places : Nat} (large : 972 ≤ places)
    (exponent : exponentOf total size = places) :
    (nearest total size).overflows = true ∧ size * doubleLimit ≤ total := by
  have lower := (scaled_bounds above below).2
  rw [exponent, scaled_coarse] at lower
  have reached : 2 ^ 52 * (size * 2 ^ places) ≤ total := lower (by rw [leastExponent]; omega)
  have positive : 0 < size * 2 ^ places := Nat.mul_pos below (Nat.two_pow_pos places)
  constructor
  · rw [nearest_positive above, exponent, scaled_coarse, overflows_iff]
    exact le_shifted (le_roundedQuotient positive reached) (by dsimp only; omega)
  · have steps := Nat.pow_le_pow_right Nat.two_pos large
    calc size * doubleLimit ≤ size * (2 ^ 52 * 2 ^ 972) :=
          Nat.mul_le_mul_left _ (by decide +kernel)
      _ ≤ size * (2 ^ 52 * 2 ^ places) :=
          Nat.mul_le_mul_left _ (Nat.mul_le_mul_left _ steps)
      _ = 2 ^ 52 * (size * 2 ^ places) := Nat.mul_left_comm _ _ _
      _ ≤ total := reached

end Quotient

/-- A quotient is too large for a double from half a step above the largest double on. -/
theorem nearest_overflows (total : Nat) {size : Nat} (below : 0 < size) :
    (nearest total size).overflows = true ↔ size * doubleLimit ≤ total := by
  rcases Nat.eq_zero_or_pos total with rfl | above
  · have limit : 0 < size * doubleLimit := Nat.mul_pos below (by decide +kernel)
    have small : (nearest 0 size).overflows = false := not_overflows (by simp [nearest])
    rw [small]
    exact iff_of_false Bool.false_ne_true (by omega)
  · rcases lt_trichotomy (exponentOf total size) 971 with small | coarsest | large
    · obtain ⟨fits, less⟩ := nearest_within above below small
      rw [fits]
      exact iff_of_false Bool.false_ne_true (by omega)
    · exact nearest_coarsest above below rfl coarsest
    · obtain ⟨places, exponent⟩ := Int.eq_ofNat_of_zero_le (show 0 ≤ exponentOf total size by omega)
      obtain ⟨overflows, more⟩ := nearest_beyond above below (by omega) exponent
      exact iff_of_true overflows more

end Number
end Querywright
