import Querywright.Number.Dyadic
import Querywright.Text.Blank
import Querywright.Text.Digit

/-! Reading numbers from text. Single underscores may stand between digits. A field reads ASCII
digits and forgives a fraction of zeros and zeros in front; a total reads whole numbers in the
digits of any script. -/
namespace Querywright.Number

def asciiDigit? (character : Char) : Option Nat :=
  if '0' ≤ character && character ≤ '9' then some (character.toNat - '0'.toNat) else none

/-- Digits in groups with one underscore between two groups. -/
def groupedDigits? (digit? : Char → Option Nat) (characters : List Char) : Option (List Nat) :=
  let groups := Text.pieces (· == '_') characters
  if groups.any (·.isEmpty) then none else groups.flatten.mapM digit?

def signed : List Char → Bool × List Char
  | '-' :: rest => (true, rest)
  | '+' :: rest => (false, rest)
  | characters => (false, characters)

def withSign (negative : Bool) (size : Nat) : Int :=
  if negative then -(size : Int) else size

/-- The blanks that are ignored around a number; separators of files and groups are not among
them. -/
def isMargin (character : Char) : Bool :=
  Text.isBlank character && !(0x1C ≤ character.toNat && character.toNat ≤ 0x1F)

def digitLimit : Nat := 4300

inductive IntegerReading where
  | whole (value : Int)
  | tooLong
  | unreadable

/-- The whole part before a point that zeros follow, and nothing else. -/
def withoutZeroFraction (characters : List Char) : List Char :=
  match characters.dropWhile (· != '.') with
  | '.' :: '0' :: zeros =>
    if zeros.all (· == '0') then characters.takeWhile (· != '.') else characters
  | _ => characters

def isPositiveDigit (character : Char) : Bool :=
  '1' ≤ character && character ≤ '9'

/-- What follows zeros and underscores. The last of these, `kept`, stays where nothing follows or a
point does; a minus sign may follow as well as a digit. -/
def afterZeros (kept : Char) : List Char → Option (List Char)
  | [] => some [kept]
  | character :: rest =>
    if character == '0' || character == '_' then afterZeros character rest
    else if character == '.' then some (kept :: character :: rest)
    else if character == '-' || isPositiveDigit character then some (character :: rest)
    else none

def withoutLeadingZeros? : List Char → Option (List Char)
  | [] => none
  | first :: rest =>
    if first == '0' then afterZeros first rest
    else if first == '-' || isPositiveDigit first then some (first :: rest)
    else none

/-- The sign that is kept, and what follows it. A plus sign says nothing; a minus sign behind it is
too much. -/
def cutSign? : List Char → Option (List Char × List Char)
  | '+' :: '-' :: _ => none
  | '+' :: rest => some ([], rest)
  | '-' :: rest => some (['-'], rest)
  | characters => some ([], characters)

/-- Underscores are dropped where no two meet and none stands at an end. -/
def withoutUnderscores? (characters : List Char) : Option (List Char) :=
  let groups := Text.pieces (· == '_') characters
  if groups.any (·.isEmpty) then none else some groups.flatten

/-- A number without what is forgiven: blanks around it, a plus sign, zeros behind the sign, a
fraction of zeros, underscores. -/
def tidied? (characters : List Char) : Option (List Char) := do
  let (sign, size) ← cutSign? (Text.trimWhere isMargin characters)
  let size ← withoutLeadingZeros? size
  withoutUnderscores? (withoutZeroFraction (sign ++ size))

/-- Digits without a zero in front of others, and not too many of them. -/
def readSize? (digits : List Char) : Option Nat :=
  if digitLimit < digits.length then none
  else if digits == ['0'] || (digits.head?.map isPositiveDigit).getD false then
    (digits.mapM asciiDigit?).map Text.decimalValue
  else none

def readWhole? : List Char → Option Int
  | '-' :: digits => (readSize? digits).map (withSign true)
  | digits => (readSize? digits).map (withSign false)

/-- Whether a text begins with more digits than are read, be it with a minus sign in front. -/
def beginsTooLong (characters : List Char) : Bool :=
  let digits := (match characters with
    | '-' :: rest => rest
    | _ => characters).takeWhile fun character => (asciiDigit? character).isSome
  (digits.head?.map isPositiveDigit).getD false && digitLimit < digits.length

/-- A text that is a number as it stands may be too long; one that has to be tidied first is
unreadable then. -/
def readFieldInteger (text : String) : IntegerReading :=
  if beginsTooLong text.toList then .tooLong
  else match (tidied? text.toList).bind readWhole? with
    | some value => .whole value
    | none => .unreadable

def readTotal (digit? : Char → Option Nat) (text : String) : IntegerReading :=
  let (negative, size) := signed (Text.trimWhere isMargin text.toList)
  match groupedDigits? digit? size with
  | none => .unreadable
  | some digits =>
    if digitLimit < digits.length then .tooLong
    else .whole (withSign negative (Text.decimalValue digits))

/-- The digits of a text, none where there are none, or nothing when another character occurs. -/
def plainDigits? (characters : List Char) : Option (List Nat) :=
  characters.mapM asciiDigit?

def exponent? (characters : List Char) : Option Int := do
  let (negative, size) := signed characters
  let digits ← plainDigits? size
  if digits.isEmpty then none else some (withSign negative (Text.decimalValue digits))

def readMeasure? (negative : Bool) (characters : List Char) : Option Float := do
  let isMark := fun character : Char => character == 'e' || character == 'E'
  let mantissa := characters.takeWhile (!isMark ·)
  let power ← match characters.dropWhile (!isMark ·) with
    | [] => some (0 : Int)
    | _ :: rest => exponent? rest
  let whole ← plainDigits? (mantissa.takeWhile (· != '.'))
  let fraction ← plainDigits? ((mantissa.dropWhile (· != '.')).drop 1)
  if whole.isEmpty && fraction.isEmpty then none
  else some (floatOfDecimal negative (Text.decimalValue (whole ++ fraction))
    (power - (fraction.length : Int)))

def readDecimalList? (characters : List Char) : Option Float :=
  let (negative, size) := signed characters
  match String.ofList (size.map Char.toLower) with
  | "inf" | "infinity" => some (if negative then -(1.0 / 0.0) else 1.0 / 0.0)
  | "nan" => some (0.0 / 0.0)
  | _ => readMeasure? negative size

def readFieldDecimal? (text : String) : Option Float :=
  (readDecimalList? (Text.trimWhere isMargin text.toList)).or
    ((withoutUnderscores? text.toList).bind readDecimalList?)

def readTruth? (text : String) : Option Bool :=
  let word := String.ofList (text.toList.map Char.toLower)
  if ["0", "f", "n", "no", "off", "false"].contains word then some false
  else if ["1", "t", "y", "yes", "on", "true"].contains word then some true
  else none

end Querywright.Number
