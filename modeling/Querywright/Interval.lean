import Querywright.Error
import Querywright.Text.Blank
import Querywright.Text.Digit

/-! Intervals such as `+1Y` and `-2h`, and the present moment shifted by them. An interval is a
sign, decimal digits of any script and the letter of a unit, with blanks allowed around it. -/
namespace Querywright

inductive TimeUnit where
  | year
  | month
  | day
  | week
  | hour
  | minute
  | second
deriving DecidableEq, Repr

namespace TimeUnit

def ofLetter? : Char → Option TimeUnit
  | 'Y' => some .year
  | 'M' => some .month
  | 'D' => some .day
  | 'W' => some .week
  | 'h' => some .hour
  | 'm' => some .minute
  | 's' => some .second
  | _ => none

def keyword : TimeUnit → String
  | .year => "YEAR"
  | .month => "MONTH"
  | .day => "DAY"
  | .week => "WEEK"
  | .hour => "HOUR"
  | .minute => "MINUTE"
  | .second => "SECOND"

end TimeUnit

structure Interval where
  forward : Bool
  digits : List Nat
  unit : TimeUnit
deriving DecidableEq, Repr

namespace Interval

def digitLimit : Nat := 4300

def isForward? : Char → Option Bool
  | '+' => some true
  | '-' => some false
  | _ => none

def ofCharacters? : List Char → Option Interval
  | [] => none
  | sign :: rest => do
    let forward ← isForward? sign
    let letter ← rest.getLast?
    let unit ← TimeUnit.ofLetter? letter
    let digits ← rest.dropLast.mapM Text.decimalDigit?
    if digits.isEmpty then none else some ⟨forward, digits, unit⟩

def ofText? (text : String) : Option Interval :=
  ofCharacters? (Text.trimWhere Text.isBlank text.toList)

def amount (interval : Interval) : Nat :=
  Text.decimalValue interval.digits

def text (interval : Interval) : String :=
  (if interval.forward then "+" else "-") ++ " INTERVAL " ++ toString interval.amount ++ " " ++
    interval.unit.keyword

def parse (value : Value) : Except Error Interval :=
  match value.asText?.bind ofText? with
  | none => .error (.invalidInterval value.plain)
  | some interval =>
    if digitLimit < interval.digits.length then .error (.misuse .tooManyDigits)
    else .ok interval

end Interval

def now (intervals : List Value) : Except Error Expression := do
  let shifts ← intervals.mapM Interval.parse
  return .function (" ".intercalate ("NOW()" :: shifts.map Interval.text)) []

end Querywright
