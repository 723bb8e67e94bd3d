/-! Text as octets and back. Reading marks each longest broken beginning of a character once, so
that a strict reader refuses the marks and a lenient one replaces them. -/
namespace Querywright.Text

def octetsOf (text : String) : List UInt8 :=
  text.toUTF8.toList

/-- How many octets follow a leading one, and the bounds of the first that follows. -/
def sequenceOf (lead : Nat) : Option (Nat × Nat × Nat) :=
  if 0xC2 ≤ lead && lead ≤ 0xDF then some (1, 0x80, 0xBF)
  else if lead == 0xE0 then some (2, 0xA0, 0xBF)
  else if lead == 0xED then some (2, 0x80, 0x9F)
  else if 0xE1 ≤ lead && lead ≤ 0xEF then some (2, 0x80, 0xBF)
  else if lead == 0xF0 then some (3, 0x90, 0xBF)
  else if lead == 0xF4 then some (3, 0x80, 0x8F)
  else if 0xF1 ≤ lead && lead ≤ 0xF3 then some (3, 0x80, 0xBF)
  else none

/-- The unfinished character: its bits so far, how many octets are due, the bounds of the next. -/
structure Unfinished where
  bits : Nat
  due : Nat
  least : Nat
  most : Nat

/-- Starts a character at an octet: a finished one, an unfinished one or a broken octet. -/
def startCharacter (octet : Nat) : Option Unfinished × List (Option Char) :=
  if octet < 0x80 then (none, [some (Char.ofNat octet)])
  else match sequenceOf octet with
    | none => (none, [none])
    | some (due, least, most) =>
      (some ⟨octet % (1 <<< (6 - due)), due, least, most⟩, [])

/-- Each character read, or `none` where octets belong to no character. -/
def readCharacters : Option Unfinished → List UInt8 → List (Option Char)
  | none, [] => []
  | some _, [] => [none]
  | none, octet :: rest =>
    let (pending, read) := startCharacter octet.toNat
    read ++ readCharacters pending rest
  | some pending, octet :: rest =>
    let code := octet.toNat
    if pending.least ≤ code && code ≤ pending.most then
      let bits := pending.bits * 64 + code % 64
      if pending.due == 1 then some (Char.ofNat bits) :: readCharacters none rest
      else readCharacters (some ⟨bits, pending.due - 1, 0x80, 0xBF⟩) rest
    else
      let (next, read) := startCharacter code
      none :: (read ++ readCharacters next rest)

def ofOctets? (octets : List UInt8) : Option String :=
  ((readCharacters none octets).mapM id).map String.ofList

def replacementCharacter : Char := Char.ofNat 0xFFFD

def ofOctetsReplacing (octets : List UInt8) : String :=
  String.ofList ((readCharacters none octets).map (·.getD replacementCharacter))

end Querywright.Text
