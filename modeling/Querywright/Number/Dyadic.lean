/-! Exact arithmetic behind double precision: a finite double is a natural number times a power
of two, with a sign, and a quotient of naturals has one nearest such number, ties going to the
even one. -/
namespace Querywright.Number

/-- The number `coefficient * 2 ^ exponent`. -/
structure Dyadic where
  coefficient : Nat
  exponent : Int
deriving DecidableEq, Repr

def leastExponent : Int := -1074

def precision : Nat := 53

/-- Numerator and denominator of `numerator / denominator * 2 ^ (-exponent)`. -/
def scaled (numerator denominator : Nat) (exponent : Int) : Nat × Nat :=
  if 0 ≤ exponent then (numerator, denominator <<< exponent.toNat)
  else (numerator <<< (-exponent).toNat, denominator)

/-- The quotient rounded to the nearest natural number, a tie going to the even neighbour. -/
def roundedQuotient (numerator denominator : Nat) : Nat :=
  let whole := numerator / denominator
  let doubled := 2 * (numerator % denominator)
  if denominator < doubled || (doubled == denominator && whole % 2 == 1) then whole + 1 else whole

/-- The exponent that leaves `precision` bits before the point, or the least one there is. -/
def exponentOf (numerator denominator : Nat) : Int :=
  let guess : Int := (numerator.log2 : Int) - denominator.log2 - precision
  let (above, below) := scaled numerator denominator guess
  let fitted := if above / below < 1 <<< precision then guess else guess + 1
  max fitted leastExponent

def nearest (numerator denominator : Nat) : Dyadic :=
  if numerator == 0 then ⟨0, 0⟩ else
  let exponent := exponentOf numerator denominator
  let (above, below) := scaled numerator denominator exponent
  ⟨roundedQuotient above below, exponent⟩

/-- No finite double is this large. -/
def Dyadic.overflows (number : Dyadic) : Bool :=
  1 <<< 1024 ≤ number.coefficient <<< number.exponent.toNat

def Dyadic.floor (number : Dyadic) : Nat :=
  if 0 ≤ number.exponent then number.coefficient <<< number.exponent.toNat
  else number.coefficient >>> (-number.exponent).toNat

def Dyadic.ceiling (number : Dyadic) : Nat :=
  if 0 ≤ number.exponent then number.coefficient <<< number.exponent.toNat
  else
    let places := (-number.exponent).toNat
    (number.coefficient + (1 <<< places) - 1) >>> places

def Dyadic.isWhole (number : Dyadic) : Bool :=
  number.floor == number.ceiling

def Dyadic.toFloat (number : Dyadic) (negative : Bool) : Float :=
  let size := if number.overflows then 1.0 / 0.0
    else Float.scaleB (Float.ofNat number.coefficient) number.exponent
  if negative then -size else size

inductive Reading where
  | undefined
  | infinite (negative : Bool)
  | finite (negative : Bool) (size : Dyadic)

def reading (value : Float) : Reading :=
  let bits := value.toBits.toNat
  let negative : Bool := 1 <<< 63 ≤ bits
  let raised : Nat := (bits >>> 52) % 2048
  let fraction : Nat := bits % (1 <<< 52)
  if raised == 2047 then
    if fraction == 0 then .infinite negative else .undefined
  else if raised == 0 then .finite negative ⟨fraction, leastExponent⟩
  else .finite negative ⟨(1 <<< 52) + fraction, (raised : Int) - 1075⟩

def floatOfInt? (value : Int) : Option Float :=
  let size := nearest value.natAbs 1
  if size.overflows then none else some (size.toFloat (value < 0))

def tenTo (exponent : Nat) : Nat :=
  Nat.pow 10 exponent

/-- The double nearest to `coefficient * 10 ^ exponent`; an exponent past every double is not
expanded. -/
def floatOfDecimal (negative : Bool) (coefficient : Nat) (exponent : Int) : Float :=
  let size : Dyadic :=
    if coefficient == 0 then ⟨0, 0⟩
    else
      let reach := exponent + (Nat.toDigits 10 coefficient).length
      if 400 < reach then ⟨1, 1024⟩
      else if reach < -400 then ⟨0, 0⟩
      else if 0 ≤ exponent then nearest (coefficient * tenTo exponent.toNat) 1
      else nearest coefficient (tenTo (-exponent).toNat)
  size.toFloat negative

end Querywright.Number
