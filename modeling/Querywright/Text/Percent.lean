import Querywright.Text.Utf8

/-! Percent encoding. A percent sign with two hexadecimal digits stands for an octet; a run of
such octets is read as UTF-8, and every other character stands for itself. -/
namespace Querywright.Text

def hexValue? (character : Char) : Option Nat :=
  if '0' ≤ character && character ≤ '9' then some (character.toNat - '0'.toNat)
  else if 'a' ≤ character && character ≤ 'f' then some (character.toNat - 'a'.toNat + 10)
  else if 'A' ≤ character && character ≤ 'F' then some (character.toNat - 'A'.toNat + 10)
  else none

/-- Octets written as pairs of hexadecimal digits; an odd digit at the end is dropped. -/
def ofHexList : List Char → List UInt8
  | high :: low :: rest =>
    (((hexValue? high).getD 0) * 16 + (hexValue? low).getD 0).toUInt8 :: ofHexList rest
  | _ => []

def ofHex (text : String) : List UInt8 :=
  ofHexList text.toList

/-- The octet written at the head of a text, with the rest behind it. -/
def escapedOctet? : List Char → Option (UInt8 × List Char)
  | '%' :: high :: low :: rest => do
    let octet := (← hexValue? high) * 16 + (← hexValue? low)
    return (octet.toUInt8, rest)
  | _ => none

theorem escapedOctet?_length {characters rest : List Char} {octet : UInt8}
    (found : escapedOctet? characters = some (octet, rest)) :
    rest.length < characters.length := by
  unfold escapedOctet? at found
  split at found
  · rename_i high low tail
    cases first : hexValue? high <;> cases second : hexValue? low <;>
      simp_all [bind, Option.bind, pure]
    omega
  · simp at found

/-- `octets` holds the run read so far, the last one first. -/
def percentDecodedFrom (octets : List UInt8) (characters : List Char) : List Char :=
  match found : escapedOctet? characters with
  | some (octet, rest) => percentDecodedFrom (octet :: octets) rest
  | none =>
    (ofOctetsReplacing octets.reverse).toList ++
      match characters with
      | [] => []
      | character :: rest => character :: percentDecodedFrom [] rest
termination_by characters.length
decreasing_by
  · exact escapedOctet?_length found
  · simp

def percentDecoded (text : String) : String :=
  String.ofList (percentDecodedFrom [] text.toList)

end Querywright.Text
