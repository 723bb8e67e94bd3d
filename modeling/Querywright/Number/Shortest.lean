import Querywright.Number.Dyadic

/-! The fewest decimal digits that read back as a given double, and of those the nearest. The
reals that round to the double form an interval whose ends belong to it when the coefficient is
even; each decimal grid in turn is tried at the two points around the double. -/
namespace Querywright.Number

/-- Twice the interval of a double over one denominator: its ends, the double itself. -/
structure Neighbourhood where
  least : Nat
  centre : Nat
  most : Nat
  closed : Bool
  denominator : Nat

def neighbourhood (size : Dyadic) : Neighbourhood :=
  let spread := if size.coefficient == 1 <<< 52 && leastExponent < size.exponent then 1 else 2
  let scale := if 0 ≤ size.exponent then 1 <<< size.exponent.toNat else 1
  { least := (4 * size.coefficient - spread) * scale
    centre := 4 * size.coefficient * scale
    most := (4 * size.coefficient + 2) * scale
    closed := size.coefficient % 2 == 0
    denominator := if 0 ≤ size.exponent then 4 else 4 <<< (-size.exponent).toNat }

/-- Whether `digits * 10 ^ power` rounds to the double; both sides are brought over one
denominator. -/
def Neighbourhood.holds (around : Neighbourhood) (digits : Nat) (power : Int) : Bool :=
  let raise := tenTo (-power).toNat
  let point := digits * tenTo power.toNat * around.denominator
  if around.closed then around.least * raise ≤ point && point ≤ around.most * raise
  else around.least * raise < point && point < around.most * raise

/-- The distance of a grid point from the double, in a unit that depends on the grid only. -/
def Neighbourhood.distance (around : Neighbourhood) (digits : Nat) (power : Int) : Nat :=
  let raise := tenTo (-power).toNat
  let point := digits * tenTo power.toNat * around.denominator
  let centre := around.centre * raise
  (point - centre) + (centre - point)

def Neighbourhood.floorOn (around : Neighbourhood) (power : Int) : Nat :=
  around.centre * tenTo (-power).toNat / (around.denominator * tenTo power.toNat)

def Neighbourhood.hit? (around : Neighbourhood) (power : Int) : Option Nat :=
  let lower := around.floorOn power
  match around.holds lower power, around.holds (lower + 1) power with
  | true, true =>
    let below := around.distance lower power
    let above := around.distance (lower + 1) power
    if below < above || (below == above && lower % 2 == 0) then some lower else some (lower + 1)
  | true, false => some lower
  | false, true => some (lower + 1)
  | false, false => none

/-- The least power of ten above the double, found near the estimate from its binary size. -/
def pointPosition (size : Dyadic) (around : Neighbourhood) : Int :=
  let estimate := ((size.coefficient.log2 : Int) + size.exponent) * 30103 / 100000
  let candidates := [estimate - 1, estimate, estimate + 1, estimate + 2]
  (candidates.find? fun power => around.floorOn power == 0).getD (estimate + 3)

def withoutTrailingZeros (digits : List Char) : List Char :=
  (digits.reverse.dropWhile (· == '0')).reverse

/-- Digits `d₁ d₂ …` and a position `p` with the double near `0.d₁d₂… * 10 ^ p`. -/
def shortestDigits (size : Dyadic) : List Char × Int :=
  if size.coefficient == 0 then (['0'], 1) else
  let around := neighbourhood size
  let position := pointPosition size around
  let found := (List.range 18).findSome? fun (count : Nat) =>
    let power : Int := position - (count : Int)
    (around.hit? power).map fun digits => (digits, power)
  match found with
  | none => (['0'], 1)
  | some (digits, power) =>
    let shown := Nat.toDigits 10 digits
    (withoutTrailingZeros shown, power + shown.length)

end Querywright.Number
