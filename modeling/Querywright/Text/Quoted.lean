import Querywright.Text.Printable

/-! Quoted forms of text and of octets. Single quotes are used unless the content holds one and
no double quote; what cannot be shown is escaped by code, in as few digits as the code fits. -/
namespace Querywright.Text

def hexDigits (width code : Nat) : List Char :=
  let digits := Nat.toDigits 16 code
  List.replicate (width - digits.length) '0' ++ digits

def quoteFor (characters : List Char) : Char :=
  if characters.contains '\'' && !characters.contains '"' then '"' else '\''

def escapedByCode (code : Nat) : List Char :=
  if code < 0x100 then '\\' :: 'x' :: hexDigits 2 code
  else if code < 0x10000 then '\\' :: 'u' :: hexDigits 4 code
  else '\\' :: 'U' :: hexDigits 8 code

def quotedCharacter (quote : Char) (isShown : Char → Bool) (character : Char) : List Char :=
  if character == quote || character == '\\' then ['\\', character]
  else if character == '\t' then ['\\', 't']
  else if character == '\n' then ['\\', 'n']
  else if character == '\r' then ['\\', 'r']
  else if isShown character then [character]
  else escapedByCode character.toNat

def quotedList (isShown : Char → Bool) (characters : List Char) : List Char :=
  let quote := quoteFor characters
  quote :: characters.flatMap (quotedCharacter quote isShown) ++ [quote]

def quoted (text : String) : String :=
  String.ofList (quotedList isPrintable text.toList)

/-- Octets are shown as the characters of their codes where those are visible in ASCII. -/
def quotedOctets (octets : List UInt8) : String :=
  let isShown := fun character : Char => 0x20 ≤ character.toNat && character.toNat < 0x7F
  String.ofList ('b' :: quotedList isShown (octets.map fun octet => Char.ofNat octet.toNat))

end Querywright.Text
