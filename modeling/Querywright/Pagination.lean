import Querywright.Error
import Querywright.Number.Numeral

/-! Totals and pages. A total is read from whatever a count query returned; the number of pages is
the quotient of total and page size in double precision, rounded up; a page is a window of the
rows, given by an offset and a size. -/
namespace Querywright

def totalOfReading (shown : String) : Number.IntegerReading → Except Error Int
  | .whole value => .ok value
  | .tooLong => .error (.misuse .tooManyDigits)
  | .unreadable => .error (.misuse (.unreadableNumber shown))

def wholePart (value : Float) : Except Error Int :=
  match Number.reading value with
  | .undefined => .error (.misuse .notFinite)
  | .infinite _ => .error (.misuse .infinite)
  | .finite negative size => .ok (Number.withSign negative size.floor)

def roundedUp (value : Float) : Except Error Int :=
  match Number.reading value with
  | .undefined => .error (.misuse .notFinite)
  | .infinite _ => .error (.misuse .infinite)
  | .finite true size => .ok (-(size.floor : Int))
  | .finite false size => .ok size.ceiling

def totalOf (value : Value) : Except Error Int :=
  match value with
  | .integer total => .ok total
  | .truth total => .ok (if total then 1 else 0)
  | .decimal total => wholePart total
  | .text text => totalOfReading value.shown (Number.readTotal Text.decimalDigit? text)
  | .octets octets =>
    totalOfReading value.shown (if octets.all (· < 0x80)
      then Number.readTotal Number.asciiDigit?
        (String.ofList (octets.map fun octet => Char.ofNat octet.toNat))
      else .unreadable)
  | other => .error (.misuse (.notNumber other.kindName))

/-- The quotient of two whole numbers as the nearest double, rounded up to a whole number. -/
def quotientRoundedUp (total size : Int) : Except Error Int :=
  if size == 0 then .error (.misuse .divisionByZero)
  else
    let quotient := Number.nearest total.natAbs size.natAbs
    if quotient.overflows then .error (.misuse .quotientTooLarge)
    else if (total < 0) == (size < 0) then .ok quotient.ceiling
    else .ok (-(quotient.floor : Int))

def pagesOf (total : Int) (pageLimit : Value) : Except Error Int :=
  match pageLimit, pageLimit.asInteger? with
  | _, some size => quotientRoundedUp total size
  | .decimal size, none =>
    match Number.floatOfInt? total with
    | none => .error (.misuse .numberTooLarge)
    | some dividend =>
      if size == 0.0 then .error (.misuse .divisionByZero) else roundedUp (dividend / size)
  | other, none => .error (.misuse (.notNumber other.kindName))

def isPositive (pageLimit : Value) : Except Error Bool :=
  match pageLimit, pageLimit.asInteger? with
  | _, some size => .ok (0 < size)
  | .decimal size, none => .ok (!(size ≤ 0.0))
  | other, none => .error (.misuse (.unordered other.kindName "int"))

def offsetOf (pagesBefore : Int) (pageLimit : Value) : Except Error Value :=
  match pageLimit, pageLimit.asInteger? with
  | _, some size => .ok (.integer (pagesBefore * size))
  | .decimal size, none =>
    match Number.floatOfInt? pagesBefore with
    | none => .error (.misuse .numberTooLarge)
    | some factor => .ok (.decimal (factor * size))
  | other, none => .error (.misuse (.notNumber other.kindName))

/-- The window of a page, pages being numbered from one. -/
def pageWindow (page pageLimit : Value) : Except Error (List Value) := do
  if !(← isPositive pageLimit) then .error .pageLimitNotPositive
  else match page with
    | .integer number =>
      if number < 1 then .error (.invalidPage page.shown)
      else return [← offsetOf (number - 1) pageLimit, pageLimit]
    | _ => .error (.invalidPage page.shown)

end Querywright
