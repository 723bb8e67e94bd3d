import Querywright.Value.Equality
import Mathlib

/-! Equality of keys. Values are one key when they come to the same, numbers to the same amount
whatever their kinds; so keys that are one with a third are one with each other, and a mapping has
each of them under one entry. -/
namespace Querywright

namespace Number

open Float.Model (Format)
open Float.Model.UnpackedFloat

/-- What a number comes to. -/
inductive Measure where
  | infinite (negative : Bool)
  | finite (amount : ℚ)

def amountOf (negative : Bool) (coefficient : Nat) (exponent : Int) : ℚ :=
  (if negative then -(coefficient : ℚ) else coefficient) * 2 ^ exponent

def Reading.measure? : Reading → Option Measure
  | .undefined => none
  | .infinite negative => some (.infinite negative)
  | .finite negative size => some (.finite (amountOf negative size.coefficient size.exponent))

def isNegative : Sign → Bool
  | .negative => true
  | .positive => false

theorem isNegative_inj {sign other : Sign} (same : isNegative sign = isNegative other) :
    sign = other := by
  cases sign <;> cases other <;> first | rfl | cases same

def unpackedMeasure? : Float.Model.UnpackedFloat → Option Measure
  | .notANumber => none
  | .infinity sign => some (.infinite (isNegative sign))
  | .zero _ => some (.finite 0)
  | .finite sign mantissa exponent _ =>
    some (.finite (amountOf (isNegative sign) mantissa exponent))

/-- A fraction of 53 bits, or of fewer at the least exponent. -/
def IsCanonical : Float.Model.UnpackedFloat → Prop
  | .finite _ mantissa exponent _ =>
    mantissa < 2 ^ 53 ∧ leastExponent ≤ exponent ∧ (2 ^ 52 ≤ mantissa ∨ exponent = leastExponent)
  | _ => True

section Bits

variable (bits : BitVec 64)

theorem mantissa_bits :
    (@unpackMantissa Format.binary64 bits).toNat = bits.toNat % 2 ^ 52 := by
  unfold unpackMantissa
  simp

theorem exponent_bits :
    (@unpackExponent Format.binary64 bits).toNat = bits.toNat / 2 ^ 52 % 2048 := by
  unfold unpackExponent
  simp [Nat.shiftRight_eq_div_pow]

theorem sign_bits :
    isNegative (Sign.ofBitVec (@unpackSign Format.binary64 bits)) =
      decide (2 ^ 63 ≤ bits.toNat) := by
  have bound := bits.isLt
  have zero : @unpackSign Format.binary64 bits = 0#1 ↔ bits.toNat < 2 ^ 63 := by
    unfold unpackSign
    rw [← BitVec.toNat_inj]
    simp [Nat.shiftRight_eq_div_pow]
    omega
  unfold Sign.ofBitVec
  by_cases low : bits.toNat < 2 ^ 63
  · rw [if_pos (zero.mpr low), decide_eq_false (by omega)]
    rfl
  · rw [if_neg (mt zero.mp low), decide_eq_true (by omega)]
    rfl

theorem leading_bit (mantissa : BitVec 52) : (1#1 ++ mantissa).toNat = 2 ^ 52 + mantissa.toNat := by
  rw [BitVec.toNat_append, ← Nat.shiftLeft_add_eq_or_of_lt mantissa.isLt]
  rfl

end Bits

theorem finite_read {sign : Sign} {mantissa coefficient : Nat} {exponent place : Int}
    (positive : 0 < mantissa) (size : mantissa = coefficient) (scale : exponent = place)
    (least : leastExponent ≤ place) (most : coefficient < 2 ^ 53)
    (whole : 2 ^ 52 ≤ coefficient ∨ place = leastExponent) :
    (Reading.finite (isNegative sign) ⟨coefficient, place⟩).measure? =
        unpackedMeasure? (.finite sign mantissa exponent positive) ∧
      IsCanonical (.finite sign mantissa exponent positive) := by
  subst size scale
  exact ⟨rfl, most, least, whole⟩

/-- A double is read from its bits as the one that stands in them. -/
theorem reading_unpacked (value : Float) :
    (reading value).measure? = unpackedMeasure? value.toModel.unpack ∧
      IsCanonical value.toModel.unpack := by
  have unpacked : value.toModel.unpack =
      Float.Model.UnpackedFloat.unpack Format.binary64 value.toBits.toBitVec := rfl
  have size : value.toBits.toNat = value.toBits.toBitVec.toNat := rfl
  unfold reading
  rw [unpacked, size]
  clear unpacked size
  generalize value.toBits.toBitVec = bits
  have below : bits.toNat % 2 ^ 52 < 2 ^ 52 := Nat.mod_lt _ (by decide)
  have infinite : @unpackExponent Format.binary64 bits = -1#11 ↔
      bits.toNat / 2 ^ 52 % 2048 = 2047 := by
    rw [← exponent_bits, ← BitVec.toNat_inj]
    rfl
  have small : @unpackExponent Format.binary64 bits = 0#11 ↔
      bits.toNat / 2 ^ 52 % 2048 = 0 := by
    rw [← exponent_bits, ← BitVec.toNat_inj]
    rfl
  have empty : @unpackMantissa Format.binary64 bits = 0#52 ↔ bits.toNat % 2 ^ 52 = 0 := by
    rw [← mantissa_bits, ← BitVec.toNat_inj]
    rfl
  have bias : (Format.binary64.exponentBias : Int) = 1023 := rfl
  unfold Float.Model.UnpackedFloat.unpack
  simp only [Nat.shiftRight_eq_div_pow, Nat.one_shiftLeft, beq_iff_eq, ← sign_bits]
  split
  · rename_i full
    rw [if_pos (infinite.mpr full)]
    split
    · rename_i none
      rw [if_pos (empty.mpr none)]
      exact ⟨rfl, trivial⟩
    · rename_i some
      rw [if_neg (mt empty.mp some)]
      exact ⟨rfl, trivial⟩
  · rename_i bounded
    rw [if_neg (mt infinite.mp bounded)]
    split
    · rename_i low
      rw [if_pos (small.mpr low)]
      split
      · rename_i none
        rw [empty.mp none]
        exact ⟨by simp [Reading.measure?, unpackedMeasure?, amountOf], trivial⟩
      · refine finite_read _ (mantissa_bits bits) ?_ (le_refl _) (by omega) (.inr rfl)
        rw [exponent_bits, low, bias, leastExponent]
        rfl
    · rename_i high
      rw [if_neg (mt small.mp high)]
      refine finite_read _ ?_ ?_ ?_ (by omega) (.inl (by omega))
      · rw [leading_bit, mantissa_bits]
      · rw [exponent_bits, bias]
        omega
      · rw [leastExponent]
        omega

theorem amountOf_neg (negative : Bool) (coefficient : Nat) (exponent : Int) :
    amountOf (!negative) coefficient exponent = -amountOf negative coefficient exponent := by
  cases negative <;> simp [amountOf]

theorem amountOf_pos {coefficient : Nat} (positive : 0 < coefficient) (exponent : Int) :
    0 < amountOf false coefficient exponent := by
  have above : (0 : ℚ) < coefficient := by exact_mod_cast positive
  exact mul_pos above (zpow_pos (by norm_num) exponent)

/-- Two canonical numbers of one size have one coefficient and one exponent. -/
theorem canonical_unique {coefficient other : Nat} {exponent place : Int}
    (size : amountOf false coefficient exponent = amountOf false other place)
    (ordered : exponent ≤ place) (below : coefficient < 2 ^ 53)
    (whole : 2 ^ 52 ≤ other ∨ place = leastExponent) (least : leastExponent ≤ exponent) :
    coefficient = other ∧ exponent = place := by
  obtain ⟨gap, rfl⟩ := Int.le.dest ordered
  have two : (2 : ℚ) ≠ 0 := by norm_num
  have shifted : coefficient = other * 2 ^ gap := by
    have cancelled : (coefficient : ℚ) = other * 2 ^ gap := by
      have power := zpow_ne_zero exponent two
      refine mul_right_cancel₀ power ?_
      rw [mul_assoc, ← zpow_natCast, ← zpow_add₀ two, add_comm (gap : Int)]
      exact size
    exact_mod_cast cancelled
  cases gap with
  | zero => simpa using shifted
  | succ gap =>
    exfalso
    obtain large | lowest := whole
    · have doubled : 2 ^ 52 * 2 ≤ other * 2 ^ (gap + 1) := by
        refine Nat.mul_le_mul large ?_
        rw [Nat.pow_succ]
        exact Nat.le_mul_of_pos_left 2 (Nat.two_pow_pos gap)
      omega
    · omega

theorem amountOf_ne_zero (negative : Bool) {coefficient : Nat} (positive : 0 < coefficient)
    (exponent : Int) : amountOf negative coefficient exponent ≠ 0 := by
  have above := amountOf_pos positive exponent
  have below := amountOf_neg false coefficient exponent
  cases negative with
  | false => exact ne_of_gt above
  | true =>
    rw [Bool.not_false] at below
    rw [below]
    exact neg_ne_zero.mpr (ne_of_gt above)

theorem amountOf_inj {negative other : Bool} {coefficient another : Nat} {exponent place : Int}
    (positive : 0 < coefficient) (present : 0 < another)
    (same : amountOf negative coefficient exponent = amountOf other another place) :
    negative = other ∧ amountOf false coefficient exponent = amountOf false another place := by
  have first := amountOf_pos positive exponent
  have second := amountOf_pos present place
  have below := amountOf_neg false coefficient exponent
  have under := amountOf_neg false another place
  rw [Bool.not_false] at below under
  cases negative <;> cases other
  · exact ⟨rfl, same⟩
  · linarith
  · linarith
  · exact ⟨rfl, by linarith⟩

theorem finite_unique {left right : Float.Model.UnpackedFloat} (fits : IsCanonical left)
    (fits' : IsCanonical right) {amount : ℚ} (here : unpackedMeasure? left = some (.finite amount))
    (there : unpackedMeasure? right = some (.finite amount)) (full : amount ≠ 0) :
    left = right := by
  cases left with
  | notANumber | infinity => cases here
  | zero =>
    cases here
    exact absurd rfl full
  | finite sign mantissa exponent positive =>
    cases right with
    | notANumber | infinity => cases there
    | zero =>
      cases there
      exact absurd rfl full
    | finite sign' mantissa' exponent' positive' =>
      cases here
      obtain ⟨signs, sizes⟩ := amountOf_inj positive' positive
        (Measure.finite.inj (Option.some.inj there))
      obtain ⟨most, least, whole⟩ := fits
      obtain ⟨most', least', whole'⟩ := fits'
      obtain ⟨rfl, rfl⟩ : mantissa = mantissa' ∧ exponent = exponent' := by
        obtain ordered | ordered := le_total exponent exponent'
        · exact canonical_unique sizes.symm ordered most whole' least
        · obtain ⟨first, second⟩ := canonical_unique sizes ordered most' whole least'
          exact ⟨first.symm, second.symm⟩
      rw [isNegative_inj signs]

theorem infinite_unique {left right : Float.Model.UnpackedFloat} {negative : Bool}
    (here : unpackedMeasure? left = some (.infinite negative))
    (there : unpackedMeasure? right = some (.infinite negative)) : left = right := by
  cases left with
  | notANumber | zero | finite => cases here
  | infinity sign =>
    cases right with
    | notANumber | zero | finite => cases there
    | infinity other =>
      cases here
      rw [isNegative_inj (Measure.infinite.inj (Option.some.inj there))]

theorem zero_of_measure {number : Float.Model.UnpackedFloat}
    (nothing : unpackedMeasure? number = some (.finite 0)) : ∃ sign, number = .zero sign := by
  cases number with
  | notANumber | infinity => cases nothing
  | zero sign => exact ⟨sign, rfl⟩
  | finite sign mantissa exponent positive =>
    exact absurd (Measure.finite.inj (Option.some.inj nothing))
      (amountOf_ne_zero _ positive exponent)

/-- Doubles are equal when they come to the same; the two zeros do. -/
theorem beq_iff_measure {left right : Float.Model.UnpackedFloat} (fits : IsCanonical left)
    (fits' : IsCanonical right) :
    left.beq right = true ↔
      ∃ measure, unpackedMeasure? left = some measure ∧ unpackedMeasure? right = some measure := by
  rw [beq_iff_ne_notANumber_and_eq]
  constructor
  · rintro ⟨number, -, rfl | ⟨rfl, rfl⟩ | ⟨rfl, rfl⟩⟩
    · cases left with
      | notANumber => exact absurd rfl number
      | infinity | zero | finite => exact ⟨_, rfl, rfl⟩
    · exact ⟨_, rfl, rfl⟩
    · exact ⟨_, rfl, rfl⟩
  · rintro ⟨measure, here, there⟩
    have number : left ≠ .notANumber := by
      rintro rfl
      cases here
    have number' : right ≠ .notANumber := by
      rintro rfl
      cases there
    refine ⟨number, number', ?_⟩
    cases measure with
    | infinite negative =>
      exact .inl (infinite_unique here there)
    | finite amount =>
      by_cases full : amount = 0
      · subst full
        obtain ⟨sign, rfl⟩ := zero_of_measure here
        obtain ⟨sign', rfl⟩ := zero_of_measure there
        cases sign <;> cases sign' <;> simp
      · exact .inl (finite_unique fits fits' here there full)

theorem beq_iff_reading (left right : Float) :
    (left == right) = true ↔
      ∃ measure, (reading left).measure? = some measure ∧
        (reading right).measure? = some measure := by
  obtain ⟨here, fits⟩ := reading_unpacked left
  obtain ⟨there, fits'⟩ := reading_unpacked right
  rw [here, there]
  exact beq_iff_measure fits fits'

end Number

open Number (Measure)

/-- A whole number times a power of two. -/
def scaledBy (number : Int × Int) : ℚ :=
  number.1 * 2 ^ number.2

theorem equalNumbers_iff (left right : Int × Int) :
    equalNumbers left right = true ↔ scaledBy left = scaledBy right := by
  have two : (2 : ℚ) ≠ 0 := by norm_num
  have shifted (number : Int × Int) (least : Int) (reached : least ≤ number.2) :
      ((number.1 <<< (number.2 - least).toNat : Int) : ℚ) * 2 ^ least = scaledBy number := by
    obtain ⟨places, same⟩ := Int.le.dest reached
    rw [scaledBy, ← same, add_sub_cancel_left, Int.toNat_natCast, Int.shiftLeft_eq,
      zpow_add₀ two, zpow_natCast]
    push_cast
    ring
  have first := shifted left (min left.2 right.2) (min_le_left _ _)
  have second := shifted right (min left.2 right.2) (min_le_right _ _)
  unfold equalNumbers
  rw [beq_iff_eq, ← first, ← second]
  constructor
  · intro same
    rw [same]
  · intro same
    exact_mod_cast mul_right_cancel₀ (zpow_ne_zero _ two) same

def Value.measure? : Value → Option Measure
  | .integer value => some (.finite value)
  | .truth value => some (.finite (if value then 1 else 0))
  | .decimal value => (Number.reading value).measure?
  | _ => none

theorem Value.number?_iff (value : Value) (amount : ℚ) :
    (∃ number, value.number? = some number ∧ scaledBy number = amount) ↔
      value.measure? = some (.finite amount) := by
  unfold number? measure?
  cases value with
  | integer value => simp [scaledBy]
  | truth value => cases value <;> simp [scaledBy]
  | decimal value =>
    dsimp only
    cases Number.reading value with
    | undefined => simp [Number.Reading.measure?]
    | infinite negative => simp [Number.Reading.measure?]
    | finite negative size =>
      cases negative <;> simp [Number.Reading.measure?, Number.amountOf, scaledBy]
  | _ => simp

namespace FieldType

mutual

/-- A type without the ways in which its unions are written. -/
def unformed : FieldType → FieldType
  | .listOf element => .listOf element.unformed
  | .rowOf element => .rowOf element.unformed
  | .union _ branches => .union .named (unformedAll branches)
  | type => type

def unformedAll : List FieldType → List FieldType
  | [] => []
  | type :: rest => type.unformed :: unformedAll rest

end

mutual

theorem same_iff (left right : FieldType) :
    left.same right = true ↔ left.unformed = right.unformed := by
  match left with
  | .listOf element | .rowOf element =>
    cases right <;> simp [same, unformed, same_iff element]
  | .union _ branches => cases right <;> simp [same, unformed, sameAll_iff branches]
  | .integer | .text | .decimal | .truth | .octets | .anything | .mapping | .sequence | .absent
  | .choice _ | .record _ => cases right <;> simp [same, unformed]

theorem sameAll_iff (lefts rights : List FieldType) :
    sameAll lefts rights = true ↔ unformedAll lefts = unformedAll rights := by
  match lefts with
  | [] => cases rights <;> simp [sameAll, unformedAll]
  | left :: rest =>
    cases rights with
    | nil => simp [sameAll, unformedAll]
    | cons right others =>
      simp [sameAll, unformedAll, same_iff left right, sameAll_iff rest others]

end

end FieldType

/-- What a value comes to as a key. -/
inductive Key where
  | null
  | number (measure : Measure)
  | text (value : String)
  | octets (value : List UInt8)
  | tuple (items : List Key)
  | set (items : List Key)
  | declared (type : FieldType)
  | supplier (number : Nat)
  | connection (number : Nat)

mutual

def Value.key? : Value → Option Key
  | .null => some .null
  | .text value => some (.text value)
  | .octets value => some (.octets value)
  | .tuple items => (Value.keys? items).map .tuple
  | .set _ items => (Value.keys? items).map .set
  | .declared type => some (.declared type.reduced.unformed)
  | .supplier number => some (.supplier number)
  | .connection number => some (.connection number)
  | value => value.measure?.map .number

def Value.keys? : List Value → Option (List Key)
  | [] => some []
  | value :: rest => value.key?.bind fun key => (Value.keys? rest).map (key :: ·)

end

namespace Value

def sameNumber (left right : Value) : Bool :=
  match left.number?, right.number? with
  | some first, some second => equalNumbers first second
  | _, _ => false

theorem sameNumber_iff (left right : Value) :
    left.sameNumber right = true ↔
      ∃ amount, left.measure? = some (.finite amount) ∧ right.measure? = some (.finite amount) := by
  simp only [← number?_iff]
  unfold sameNumber
  cases left.number? with
  | none => simp
  | some first =>
    cases right.number? with
    | none => simp
    | some second =>
      rw [equalNumbers_iff]
      constructor
      · intro same
        exact ⟨scaledBy second, ⟨first, rfl, same⟩, second, rfl, rfl⟩
      · rintro ⟨amount, ⟨number, here, rfl⟩, ⟨other, there, same⟩⟩
        cases here
        cases there
        exact same.symm

theorem key?_number {value : Value} {measure : Measure} :
    value.key? = some (.number measure) ↔ value.measure? = some measure := by
  cases value <;> simp [key?, measure?]

theorem keys_of_numbers {left right : Value} (number : left.key? = left.measure?.map .number) :
    (∃ key, left.key? = some key ∧ right.key? = some key) ↔
      ∃ measure, left.measure? = some measure ∧ right.measure? = some measure := by
  constructor
  · rintro ⟨key, here, there⟩
    rw [number] at here
    obtain ⟨measure, found, rfl⟩ := Option.map_eq_some_iff.mp here
    exact ⟨measure, found, key?_number.mp there⟩
  · rintro ⟨measure, here, there⟩
    exact ⟨.number measure, key?_number.mpr here, key?_number.mpr there⟩

theorem sameNumber_keys {left right : Value} {amount : ℚ}
    (number : left.key? = left.measure?.map .number)
    (finite : left.measure? = some (.finite amount) ∨
      ∀ measure, right.measure? = some measure → measure = .finite amount) :
    left.sameNumber right = true ↔ ∃ key, left.key? = some key ∧ right.key? = some key := by
  rw [sameNumber_iff, keys_of_numbers number]
  constructor
  · rintro ⟨amount, same⟩
    exact ⟨.finite amount, same⟩
  · rintro ⟨measure, here, there⟩
    obtain known | known := finite
    · rw [known] at here
      cases here
      exact ⟨amount, known, there⟩
    · obtain rfl := known measure there
      exact ⟨amount, here, there⟩

theorem mapped_keys {form : List Key → Key} (apart : Function.Injective form)
    (left right : Option (List Key)) :
    (∃ key, left.map form = some key ∧ right.map form = some key) ↔
      ∃ keys, left = some keys ∧ right = some keys := by
  cases left with
  | none => simp
  | some keys => cases right <;> simp [apart.eq_iff, eq_comm]

theorem keys?_cons {left right : Value} {rest others : List Value} :
    (∃ keys, keys? (left :: rest) = some keys ∧ keys? (right :: others) = some keys) ↔
      (∃ key, left.key? = some key ∧ right.key? = some key) ∧
        ∃ keys, keys? rest = some keys ∧ keys? others = some keys := by
  rw [keys?, keys?]
  constructor
  · rintro ⟨keys, here, there⟩
    obtain ⟨key, first, here⟩ := Option.bind_eq_some_iff.mp here
    obtain ⟨more, others, rfl⟩ := Option.map_eq_some_iff.mp here
    obtain ⟨key', first', there⟩ := Option.bind_eq_some_iff.mp there
    obtain ⟨more', others', same⟩ := Option.map_eq_some_iff.mp there
    cases same
    exact ⟨⟨key, first, first'⟩, more, others, others'⟩
  · rintro ⟨⟨key, first, first'⟩, more, others, others'⟩
    rw [first, first', others, others']
    exact ⟨key :: more, rfl, rfl⟩

mutual

theorem sameKey_iff (left right : Value) :
    left.sameKey right = true ↔ ∃ key, left.key? = some key ∧ right.key? = some key := by
  match left with
  | .tuple lefts =>
    cases right with
    | tuple rights =>
      exact (sameKeys_iff lefts rights).trans (mapped_keys (fun _ _ => Key.tuple.inj) _ _).symm
    | _ => simp [sameKey, key?, number?, measure?]
  | .set _ lefts =>
    cases right with
    | set _ rights =>
      exact (sameKeys_iff lefts rights).trans (mapped_keys (fun _ _ => Key.set.inj) _ _).symm
    | _ => simp [sameKey, key?, number?, measure?]
  | .integer here =>
    have whole : sameKey (.integer here) right = sameNumber (.integer here) right := by
      cases right <;> rfl
    rw [whole]
    exact sameNumber_keys rfl (.inl rfl)
  | .truth here =>
    have whole : sameKey (.truth here) right = sameNumber (.truth here) right := by
      cases right <;> rfl
    rw [whole]
    exact sameNumber_keys rfl (.inl rfl)
  | .decimal here =>
    cases right with
    | decimal there =>
      rw [keys_of_numbers rfl]
      exact Number.beq_iff_reading here there
    | integer there => exact sameNumber_keys rfl (.inr fun measure same => by cases same; rfl)
    | truth there => exact sameNumber_keys rfl (.inr fun measure same => by cases same; rfl)
    | _ => simp [sameKey, key?, number?, measure?]
  | .declared here =>
    cases right with
    | declared there =>
      simp [sameKey, key?, FieldType.same_iff, @eq_comm _ there.reduced.unformed]
    | _ => simp [sameKey, key?, number?, measure?]
  | .text here =>
    cases right with
    | text there => simp [sameKey, key?, @eq_comm _ there here]
    | _ => simp [sameKey, key?, number?, measure?]
  | .octets here =>
    cases right with
    | octets there => simp [sameKey, key?, @eq_comm _ there here]
    | _ => simp [sameKey, key?, number?, measure?]
  | .supplier here =>
    cases right with
    | supplier there => simp [sameKey, key?, @eq_comm _ there here]
    | _ => simp [sameKey, key?, number?, measure?]
  | .connection here =>
    cases right with
    | connection there => simp [sameKey, key?, @eq_comm _ there here]
    | _ => simp [sameKey, key?, number?, measure?]
  | .null => cases right <;> simp [sameKey, key?, number?, measure?]
  | .list _ | .mapping _ | .record .. | .holder _ | .expression _ | .thing .. | .shared _ =>
    cases right <;> simp [sameKey, key?, number?, measure?]

theorem sameKeys_iff (lefts rights : List Value) :
    sameKeys lefts rights = true ↔ ∃ keys, keys? lefts = some keys ∧ keys? rights = some keys := by
  match lefts with
  | [] => cases rights <;> simp [sameKeys, keys?, Option.bind_eq_some_iff]
  | left :: rest =>
    cases rights with
    | nil => simp [sameKeys, keys?, Option.bind_eq_some_iff]
    | cons right others =>
      rw [sameKeys, Bool.and_eq_true, sameKey_iff left right, sameKeys_iff rest others]
      exact keys?_cons.symm

end

variable {left between right : Value}

theorem sameKey_symm (same : left.sameKey right = true) : right.sameKey left = true := by
  rw [sameKey_iff] at same ⊢
  obtain ⟨key, here, there⟩ := same
  exact ⟨key, there, here⟩

theorem sameKey_trans (first : left.sameKey between = true)
    (second : between.sameKey right = true) : left.sameKey right = true := by
  rw [sameKey_iff] at first second ⊢
  obtain ⟨key, here, middle⟩ := first
  obtain ⟨other, middle', there⟩ := second
  rw [middle] at middle'
  cases middle'
  exact ⟨key, here, there⟩

/-- What is one key with a value is one with whatever the value is one with. -/
theorem sameKey_congr (same : left.sameKey right = true) (other : Value) :
    other.sameKey left = other.sameKey right := by
  rw [Bool.eq_iff_iff]
  exact ⟨fun first => sameKey_trans first same,
    fun first => sameKey_trans first (sameKey_symm same)⟩

end Value

namespace Entries

variable {α : Type} {key other : Value} {value : α} {entries : List (Value × α)}

theorem get?_congr (same : key.sameKey other = true) (entries : List (Value × α)) :
    get? key entries = get? other entries := by
  induction entries with
  | nil => rfl
  | cons entry rest ih =>
    obtain ⟨first, found⟩ := entry
    simp only [get?, Value.sameKey_congr same first, ih]

/-- What is found is found under a value that is one key with itself. -/
theorem sameKey_of_get? (found : get? key entries = some value) : key.sameKey key = true := by
  induction entries with
  | nil => cases found
  | cons entry rest ih =>
    obtain ⟨first, there⟩ := entry
    rw [get?] at found
    by_cases known : first.sameKey key = true
    · exact Value.sameKey_trans (Value.sameKey_symm known) known
    · rw [if_neg known] at found
      exact ih found

theorem get?_put (key : Value) (value : α) (other : Value) (entries : List (Value × α)) :
    get? other (put key value entries) =
      if key.sameKey other then some value else get? other entries := by
  induction entries with
  | nil => rfl
  | cons entry rest ih =>
    obtain ⟨first, found⟩ := entry
    unfold put
    by_cases known : first.sameKey key = true
    · rw [if_pos known, get?, get?]
      by_cases same : key.sameKey other = true
      · rw [if_pos (Value.sameKey_trans known same), if_pos same]
      · have apart : ¬first.sameKey other = true := fun reached =>
          same (Value.sameKey_trans (Value.sameKey_symm known) reached)
        rw [if_neg apart, if_neg apart, if_neg same]
    · rw [if_neg known, get?, get?, ih]
      by_cases same : key.sameKey other = true
      · have apart : ¬first.sameKey other = true := fun reached =>
          known (Value.sameKey_trans reached (Value.sameKey_symm same))
        rw [if_neg apart, if_pos same, if_pos same]
      · rw [if_neg same, if_neg same]

/-- What is found behind an insertion is what has been inserted, or what was found before. -/
theorem get?_put_some {found : α} :
    get? other (put key value entries) = some found ↔
      key.sameKey other = true ∧ value = found ∨
        ¬key.sameKey other = true ∧ get? other entries = some found := by
  rw [get?_put]
  by_cases same : key.sameKey other = true
  · simp [same]
  · simp [same]

theorem get?_erase (key other : Value) (entries : List (Value × α)) :
    get? other (erase key entries) =
      if key.sameKey other then none else get? other entries := by
  induction entries with
  | nil => simp [erase, get?]
  | cons entry rest ih =>
    obtain ⟨first, found⟩ := entry
    unfold erase at ih ⊢
    by_cases known : first.sameKey key = true
    · rw [List.filter_cons_of_neg (by simpa using known), ih, get?]
      by_cases same : key.sameKey other = true
      · rw [if_pos same, if_pos same]
      · have apart : ¬first.sameKey other = true := fun reached =>
          same (Value.sameKey_trans (Value.sameKey_symm known) reached)
        rw [if_neg same, if_neg same, if_neg apart]
    · rw [List.filter_cons_of_pos (by simpa using known), get?, get?, ih]
      by_cases same : key.sameKey other = true
      · have apart : ¬first.sameKey other = true := fun reached =>
          known (Value.sameKey_trans reached (Value.sameKey_symm same))
        rw [if_neg apart, if_pos same, if_pos same]
      · rw [if_neg same, if_neg same]

end Entries
end Querywright
