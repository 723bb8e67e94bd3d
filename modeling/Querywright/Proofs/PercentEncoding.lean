import Querywright.Address
import Mathlib.Data.List.Basic

/-! Percent encoding undone. Every character but a few is written as the octets of its UTF-8 form,
each as a percent sign and two digits; decoding reads any text back from that. -/
namespace Querywright.Text

/-- Characters that an encoded text holds as they are. -/
def isUnreserved (character : Char) : Bool :=
  Address.isAsciiLetter character || Address.isAsciiDigit character || character == '_' ||
    character == '.' || character == '-' || character == '~'

def hexDigit (value : Nat) : Char :=
  (Nat.digitChar value).toUpper

def escapedOctet (octet : UInt8) : List Char :=
  ['%', hexDigit (octet.toNat / 16), hexDigit (octet.toNat % 16)]

def encodedCharacter (character : Char) : List Char :=
  if isUnreserved character then [character]
  else (String.utf8EncodeChar character).flatMap escapedOctet

def percentEncoded (text : String) : String :=
  String.ofList (text.toList.flatMap encodedCharacter)

section Octets

variable {bits least most value : Nat} {octet : UInt8} (rest : List UInt8)

theorem readCharacters_last (above : least ≤ octet.toNat) (below : octet.toNat ≤ most) :
    readCharacters (some ⟨bits, 1, least, most⟩) (octet :: rest) =
      some (Char.ofNat (bits * 64 + octet.toNat % 64)) :: readCharacters none rest := by
  rw [readCharacters]
  simp [above, below]

theorem readCharacters_between {due : Nat} (more : due ≠ 0) (above : least ≤ octet.toNat)
    (below : octet.toNat ≤ most) :
    readCharacters (some ⟨bits, due + 1, least, most⟩) (octet :: rest) =
      readCharacters (some ⟨bits * 64 + octet.toNat % 64, due, 0x80, 0xBF⟩) rest := by
  rw [readCharacters]
  simp [above, below, more]

theorem readCharacters_lead {due size : Nat} (large : 0x80 ≤ octet.toNat)
    (leads : sequenceOf octet.toNat = some (due, least, most)) (sized : 1 <<< (6 - due) = size) :
    readCharacters none (octet :: rest) =
      readCharacters (some ⟨octet.toNat % size, due, least, most⟩) rest := by
  rw [readCharacters, startCharacter, if_neg (by omega), leads, ← sized]
  rfl

/-- The lead of two octets, where their value does not fit in one. -/
theorem sequenceOf_two (least : 0x80 ≤ value) (most : value ≤ 0x7FF) :
    sequenceOf (value / 64 % 32 + 192) = some (1, 0x80, 0xBF) := by
  rw [sequenceOf, if_pos (by simp; omega)]

/-- The lead of three octets bounds the next one, so that no fewer octets would do and no half of a
pair of code units is written. -/
theorem sequenceOf_three (least : 0x800 ≤ value) (most : value ≤ 0xFFFF)
    (scalar : value < 0xD800 ∨ 0xDFFF < value) :
    ∃ lower upper, sequenceOf (value / 4096 % 16 + 224) = some (2, lower, upper) ∧
      lower ≤ value / 64 % 64 + 128 ∧ value / 64 % 64 + 128 ≤ upper := by
  rw [sequenceOf, if_neg (by simp)]
  split
  · rename_i first
    exact ⟨_, _, rfl, by simp at first; omega, by omega⟩
  split
  · rename_i thirteenth
    exact ⟨_, _, rfl, by omega, by simp at thirteenth; omega⟩
  rw [if_pos (by simp at *; omega)]
  exact ⟨_, _, rfl, by omega, by omega⟩

/-- The lead of four octets bounds the next one, so that no fewer octets would do and the value
stays in the range of characters. -/
theorem sequenceOf_four (least : 0x10000 ≤ value) (most : value < 0x110000) :
    ∃ lower upper, sequenceOf (value / 262144 % 8 + 240) = some (3, lower, upper) ∧
      lower ≤ value / 4096 % 64 + 128 ∧ value / 4096 % 64 + 128 ≤ upper := by
  rw [sequenceOf, if_neg (by simp), if_neg (by simp), if_neg (by simp), if_neg (by simp)]
  split
  · rename_i first
    exact ⟨_, _, rfl, by simp at first; omega, by omega⟩
  split
  · rename_i last
    exact ⟨_, _, rfl, by omega, by simp at last; omega⟩
  rw [if_pos (by simp at *; omega)]
  exact ⟨_, _, rfl, by omega, by omega⟩

/-- The octets of a character are read back, whatever follows. -/
theorem readCharacters_character (character : Char) :
    readCharacters none (String.utf8EncodeChar character ++ rest) =
      some character :: readCharacters none rest := by
  have scalar : character.val.toNat < 0xD800 ∨
      0xDFFF < character.val.toNat ∧ character.val.toNat < 0x110000 := character.valid
  have back : Char.ofNat character.val.toNat = character := Char.ofNat_toNat character
  have plain {number : Nat} (small : number < 256) : (UInt8.ofNat number).toNat = number :=
    UInt8.toNat_ofNat_of_lt small
  unfold String.utf8EncodeChar
  generalize character.val.toNat = value at scalar back
  have second := plain (show value / 4096 % 64 + 128 < 256 by omega)
  have third := plain (show value / 64 % 64 + 128 < 256 by omega)
  have last := plain (show value % 64 + 128 < 256 by omega)
  simp only
  split
  · have octet := plain (show value < 256 by omega)
    rw [List.singleton_append, readCharacters, startCharacter, octet, if_pos (by omega), back]
    rfl
  split
  · rename_i _ two
    have lead := plain (show value / 64 % 32 + 192 < 256 by omega)
    have whole : (value / 64 % 32 + 192) % 32 * 64 + (value % 64 + 128) % 64 = value := by omega
    simp only [List.cons_append, List.nil_append]
    rw [readCharacters_lead _ (by omega) (by rw [lead]; exact sequenceOf_two (by omega) two)
        (show 1 <<< (6 - 1) = 32 from rfl),
      readCharacters_last _ (by omega) (by omega), lead, last, whole, back]
  split
  · rename_i three
    have lead := plain (show value / 4096 % 16 + 224 < 256 by omega)
    obtain ⟨lower, upper, leads, above, below⟩ := sequenceOf_three (by omega) three (by omega)
    have whole : ((value / 4096 % 16 + 224) % 16 * 64 + (value / 64 % 64 + 128) % 64) * 64 +
        (value % 64 + 128) % 64 = value := by omega
    simp only [List.cons_append, List.nil_append]
    rw [readCharacters_lead _ (by omega) (by rw [lead]; exact leads)
        (show 1 <<< (6 - 2) = 16 from rfl),
      readCharacters_between _ (by omega) (by omega) (by omega),
      readCharacters_last _ (by omega) (by omega), lead, third, last, whole, back]
  · have lead := plain (show value / 262144 % 8 + 240 < 256 by omega)
    obtain ⟨lower, upper, leads, above, below⟩ :=
      sequenceOf_four (show 0x10000 ≤ value by omega) (by omega)
    have whole : (((value / 262144 % 8 + 240) % 8 * 64 + (value / 4096 % 64 + 128) % 64) * 64 +
        (value / 64 % 64 + 128) % 64) * 64 + (value % 64 + 128) % 64 = value := by omega
    simp only [List.cons_append, List.nil_append]
    rw [readCharacters_lead _ (by omega) (by rw [lead]; exact leads)
        (show 1 <<< (6 - 3) = 8 from rfl),
      readCharacters_between _ (by omega) (by omega) (by omega),
      readCharacters_between _ (by omega) (by omega) (by omega),
      readCharacters_last _ (by omega) (by omega), lead, second, third, last, whole, back]

end Octets

/-- The octets of a text are read back as the text, with nothing replaced. -/
theorem ofOctetsReplacing_flatMap (characters : List Char) :
    ofOctetsReplacing (characters.flatMap String.utf8EncodeChar) = String.ofList characters := by
  have read : readCharacters none (characters.flatMap String.utf8EncodeChar) =
      characters.map some := by
    induction characters with
    | nil => rfl
    | cons character rest ih =>
      rw [List.flatMap_cons, readCharacters_character, ih, List.map_cons]
  rw [ofOctetsReplacing, read, List.map_map]
  congr 1
  exact List.map_id characters

theorem hexValue?_hexDigit : ∀ value < 16, hexValue? (hexDigit value) = some value := by
  decide

theorem escapedOctet?_escapedOctet (octet : UInt8) (rest : List Char) :
    escapedOctet? (escapedOctet octet ++ rest) = some (octet, rest) := by
  have small := octet.toNat_lt
  have high := hexValue?_hexDigit (octet.toNat / 16) (by omega)
  have low := hexValue?_hexDigit (octet.toNat % 16) (by omega)
  have whole : octet.toNat / 16 * 16 + octet.toNat % 16 = octet.toNat := by omega
  simp only [escapedOctet, List.cons_append, List.nil_append, escapedOctet?, high, low]
  show some ((octet.toNat / 16 * 16 + octet.toNat % 16).toUInt8, rest) = some (octet, rest)
  rw [whole, Nat.toUInt8, UInt8.ofNat_toNat]

theorem escapedOctet?_unreserved {character : Char} (plain : isUnreserved character = true)
    (rest : List Char) : escapedOctet? (character :: rest) = none := by
  unfold escapedOctet?
  split
  · rename_i same
    cases same
    exact absurd plain (by decide)
  · rfl

theorem percentDecodedFrom_escaped (read octets : List UInt8) (rest : List Char) :
    percentDecodedFrom read (octets.flatMap escapedOctet ++ rest) =
      percentDecodedFrom (octets.reverse ++ read) rest := by
  induction octets generalizing read with
  | nil => rfl
  | cons octet octets ih =>
    rw [List.flatMap_cons, List.append_assoc, percentDecodedFrom]
    split
    · rename_i found
      rw [escapedOctet?_escapedOctet] at found
      cases found
      rw [ih, List.reverse_cons, List.append_assoc]
      rfl
    · rename_i found
      rw [escapedOctet?_escapedOctet] at found
      cases found

/-- Encoded characters are read back behind those whose octets are still held. -/
theorem percentDecodedFrom_encoded (held characters : List Char) :
    percentDecodedFrom (held.flatMap String.utf8EncodeChar).reverse
      (characters.flatMap encodedCharacter) = held ++ characters := by
  induction characters generalizing held with
  | nil =>
    rw [List.flatMap_nil, percentDecodedFrom]
    simp [escapedOctet?, ofOctetsReplacing_flatMap]
  | cons character rest ih =>
    rw [List.flatMap_cons, encodedCharacter]
    split
    · rename_i plain
      rw [List.singleton_append, percentDecodedFrom]
      split
      · rename_i found
        rw [escapedOctet?_unreserved plain] at found
        cases found
      · have onward := ih []
        rw [List.flatMap_nil, List.reverse_nil, List.nil_append] at onward
        rw [List.reverse_reverse, ofOctetsReplacing_flatMap, String.toList_ofList]
        exact congrArg (fun decoded => held ++ character :: decoded) onward
    · rw [percentDecodedFrom_escaped, ← List.reverse_append]
      have longer := ih (held ++ [character])
      rw [List.flatMap_append, List.flatMap_singleton, List.append_assoc] at longer
      exact longer

theorem percentDecoded_percentEncoded (text : String) :
    percentDecoded (percentEncoded text) = text := by
  have back := percentDecodedFrom_encoded [] text.toList
  rw [List.flatMap_nil, List.reverse_nil, List.nil_append] at back
  rw [percentDecoded, percentEncoded, String.toList_ofList, back, String.ofList_toList]

theorem percentEncoded_ne_empty {text : String} (full : text ≠ "") : percentEncoded text ≠ "" := by
  intro empty
  apply full
  have none : percentEncoded "" = "" := by rw [percentEncoded, String.toList_empty]; rfl
  have back := percentDecoded_percentEncoded text
  rw [empty, ← none, percentDecoded_percentEncoded] at back
  exact back.symm

/-- An encoded text holds nothing but unreserved characters and percent signs. -/
theorem mem_percentEncoded {text : String} {character : Char}
    (member : character ∈ (percentEncoded text).toList) :
    isUnreserved character = true ∨ character = '%' := by
  rw [percentEncoded, String.toList_ofList] at member
  obtain ⟨original, -, member⟩ := List.mem_flatMap.mp member
  unfold encodedCharacter at member
  split at member
  · rename_i plain
    cases List.mem_singleton.mp member
    exact .inl plain
  · obtain ⟨octet, -, member⟩ := List.mem_flatMap.mp member
    have digits : ∀ value < 16, isUnreserved (hexDigit value) = true := by decide
    have small := octet.toNat_lt
    simp only [escapedOctet, List.mem_cons, List.not_mem_nil, or_false] at member
    obtain rfl | rfl | rfl := member
    · exact .inr rfl
    · exact .inl (digits _ (by omega))
    · exact .inl (digits _ (by omega))

theorem utf8EncodeChar_ne_nil (character : Char) : String.utf8EncodeChar character ≠ [] := by
  unfold String.utf8EncodeChar
  simp only
  split_ifs <;> exact List.cons_ne_nil _ _

/-- A reserved character takes more room encoded. -/
theorem length_encodedCharacter (character : Char) :
    1 ≤ (encodedCharacter character).length ∧
      (isUnreserved character = false → 1 < (encodedCharacter character).length) := by
  unfold encodedCharacter
  split
  · rename_i plain
    exact ⟨Nat.le_refl _, fun reserved => absurd plain (by rw [reserved]; decide)⟩
  · obtain ⟨octet, octets, written⟩ := List.exists_cons_of_ne_nil (utf8EncodeChar_ne_nil character)
    rw [written, List.flatMap_cons, List.length_append]
    have three : (escapedOctet octet).length = 3 := rfl
    exact ⟨by omega, fun _ => by omega⟩

theorem length_flatMap_encodedCharacter (characters : List Char) :
    characters.length ≤ (characters.flatMap encodedCharacter).length ∧
      ((characters.flatMap encodedCharacter).length = characters.length →
        ∀ character ∈ characters, isUnreserved character = true) := by
  induction characters with
  | nil => exact ⟨Nat.le_refl _, fun _ _ none => absurd none List.not_mem_nil⟩
  | cons first rest ih =>
    obtain ⟨some, more⟩ := length_encodedCharacter first
    rw [List.flatMap_cons, List.length_append, List.length_cons]
    refine ⟨by omega, fun same character member => ?_⟩
    cases member with
    | head =>
      by_contra reserved
      have longer := more (Bool.eq_false_iff.mpr reserved)
      omega
    | tail _ later => exact ih.2 (by omega) character later

/-- A text is its own encoding where it has unreserved characters only. -/
theorem percentEncoded_eq_self {text : String} :
    percentEncoded text = text ↔ ∀ character ∈ text.toList, isUnreserved character = true := by
  constructor
  · intro same
    refine (length_flatMap_encodedCharacter text.toList).2 ?_
    rw [← String.toList_ofList (l := text.toList.flatMap encodedCharacter)]
    exact congrArg (fun encoded => encoded.toList.length) same
  · intro plain
    have alone : text.toList.flatMap encodedCharacter = text.toList.flatMap ([·]) :=
      List.flatMap_congr fun character member => by rw [encodedCharacter, if_pos (plain _ member)]
    rw [percentEncoded, alone, List.flatMap_singleton', String.ofList_toList]

end Querywright.Text
