import Mathlib
import Querywright.Proofs.SpelledWords
import Querywright.Router

/-! Layout in front of a statement: blanks of every kind and opening parentheses. Of these the
lead-in alone is passed over before the first word is taken, so a parenthesis behind any other blank
belongs to that word, and behind such blanks there may be no word at all. In every other case a
statement is told by its keyword, whatever stands in front of it and in whatever case it is
written. -/
namespace Querywright

def isLayout (character : Char) : Bool :=
  Text.isBlank character || character == '('

def layoutOf (text : String) : List Char :=
  text.toList.takeWhile isLayout

def behindLayout (text : String) : List Char :=
  text.toList.dropWhile isLayout

/-- The part of the layout that is no lead-in, from the first blank on that is none. -/
def layoutLeft (text : String) : List Char :=
  (layoutOf text).dropWhile isLeadIn

/-- The capitals of what stands between the layout and the next blank. -/
def keywordBehind (text : String) : String :=
  Text.upper (String.ofList ((behindLayout text).takeWhile (!Text.isBlank ·)))

theorem isLayout_of_isLeadIn {character : Char} (leads : isLeadIn character = true) :
    isLayout character = true := by
  have blanks : Text.isBlank ' ' = true ∧ Text.isBlank '\t' = true ∧ Text.isBlank '\r' = true ∧
      Text.isBlank '\n' = true := by
    decide +kernel
  simp only [isLeadIn, Bool.or_eq_true, beq_iff_eq] at leads
  rcases leads with (((rfl | rfl) | rfl) | rfl) | rfl
  · simp [isLayout, blanks.1]
  · simp [isLayout, blanks.2.1]
  · simp [isLayout, blanks.2.2.1]
  · simp [isLayout, blanks.2.2.2]
  · simp [isLayout]

theorem behindLayout_starts {text : String} {character : Char} {rest : List Char}
    (shape : behindLayout text = character :: rest) : isLayout character = false := by
  have kept := List.head?_dropWhile_not isLayout text.toList
  rw [behindLayout] at shape
  rw [shape] at kept
  simpa using kept

/-- Without its lead-in a text is what is left of the layout and what stands behind it. -/
theorem dropWhile_isLeadIn (text : String) :
    text.toList.dropWhile isLeadIn = layoutLeft text ++ behindLayout text := by
  have parts : text.toList = layoutOf text ++ behindLayout text :=
    List.takeWhile_append_dropWhile.symm
  rw [parts, List.dropWhile_append]
  split
  · rename_i gone
    rw [List.isEmpty_iff] at gone
    rw [layoutLeft, gone, List.nil_append]
    cases shape : behindLayout text with
    | nil => rfl
    | cons character rest =>
      have solid := behindLayout_starts shape
      have still : isLeadIn character = false := by
        refine Bool.eq_false_iff.mpr fun leads => ?_
        rw [isLayout_of_isLeadIn leads] at solid
        cases solid
      rw [List.dropWhile_cons, still]
      rfl
  · rfl

namespace Text

theorem wordLists_append {blanks : List Char} (parts : ∀ blank ∈ blanks, isBlank blank = true)
    (rest : List Char) : wordLists (blanks ++ rest) = wordLists rest := by
  induction blanks with
  | nil => rfl
  | cons blank others ih =>
    rw [List.cons_append, wordLists_blank (parts blank List.mem_cons_self)]
    exact ih fun other member => parts other (List.mem_cons_of_mem _ member)

/-- A text that does not begin with a blank has a first word, which goes to its first blank. -/
theorem wordLists_solid {character : Char} (solid : isBlank character = false)
    (rest : List Char) :
    ∃ others, wordLists (character :: rest) =
      (character :: rest.takeWhile (!isBlank ·)) :: others := by
  rcases word_cases (character :: rest) with empty | ⟨blank, others, shape, parts⟩ | isWord |
      ⟨word, blank, others, shape, isWord, parts⟩
  · cases empty
  · obtain ⟨rfl, rfl⟩ := List.cons.inj shape
    simp [parts] at solid
  · refine ⟨[], ?_⟩
    have whole : rest.takeWhile (!isBlank ·) = rest := by
      rw [List.takeWhile_eq_self_iff]
      intro other member
      simpa using isWord.solid other (List.mem_cons_of_mem _ member)
    rw [wordLists_word isWord, whole]
  · refine ⟨wordLists others, ?_⟩
    have stops : (word ++ blank :: others).takeWhile (!isBlank ·) = word := by
      rw [List.takeWhile_append_of_pos]
      · simp [parts]
      · intro other member
        simpa using isWord.solid other member
    rw [← shape, List.takeWhile_cons, solid] at stops
    rw [shape, wordLists_cons isWord parts, ← stops]
    rfl

end Text

/-- No keyword begins with a parenthesis. -/
theorem parenthesized_unknown (word : List Char) :
    writeKeywords.contains (Text.upper (String.ofList ('(' :: word))) = false := by
  have begins : (Text.upper (String.ofList ('(' :: word))).toList.head? = some '(' := by
    rw [Text.toList_upper, String.toList_ofList]
    rfl
  refine Bool.eq_false_iff.mpr fun known => ?_
  have other : ∀ keyword ∈ writeKeywords, keyword.toList.head? ≠ some '(' := by decide
  exact other _ (List.contains_iff_mem.mp known) begins

section Told

variable {text : String}

theorem isLayout_of_left {character : Char} (member : character ∈ layoutLeft text) :
    isLayout character = true := by
  have among : character ∈ layoutOf text := (List.dropWhile_sublist isLeadIn).mem member
  exact List.all_eq_true.mp List.all_takeWhile character among

theorem blank_of_left {character : Char} (member : character ∈ layoutLeft text)
    (other : character ≠ '(') : Text.isBlank character = true := by
  have layout := isLayout_of_left member
  rw [isLayout, Bool.or_eq_true, beq_iff_eq] at layout
  exact layout.resolve_right other

theorem told_by_words {word : List Char} {others : List (List Char)}
    (words : Text.wordLists (layoutLeft text ++ behindLayout text) = word :: others) :
    isWriteStatement text =
      .ok (writeKeywords.contains (Text.upper (String.ofList word))) := by
  unfold isWriteStatement
  rw [dropWhile_isLeadIn]
  split
  · rename_i nothing
    rw [nothing] at words
    cases words
  · rw [words]

/-- A parenthesis that is left begins the first word, if another one does not. -/
theorem told_parenthesized (left : '(' ∈ layoutLeft text) : isWriteStatement text = .ok false := by
  obtain ⟨blanks, rest, shape, first⟩ := List.eq_append_cons_of_mem left
  have parts : ∀ blank ∈ blanks, Text.isBlank blank = true := by
    intro blank member
    refine blank_of_left (by rw [shape]; exact List.mem_append_left _ member) ?_
    rintro rfl
    exact first member
  obtain ⟨others, words⟩ := Text.wordLists_solid (by decide +kernel : Text.isBlank '(' = false)
    (rest ++ behindLayout text)
  rw [← Text.wordLists_append parts, ← List.cons_append, ← List.append_assoc, ← shape] at words
  rw [told_by_words words, parenthesized_unknown]

theorem told_clear (clear : '(' ∉ layoutLeft text) : isWriteStatement text =
    if layoutLeft text ≠ [] ∧ behindLayout text = [] then .error (.misuse .rowTooShort)
    else .ok (writeKeywords.contains (keywordBehind text)) := by
  have blanks : ∀ blank ∈ layoutLeft text, Text.isBlank blank = true := by
    intro blank member
    refine blank_of_left member ?_
    rintro rfl
    exact clear member
  have words := Text.wordLists_append blanks (behindLayout text)
  cases shape : behindLayout text with
  | cons character rest =>
    have solid : Text.isBlank character = false := by
      have outside := behindLayout_starts shape
      rw [isLayout, Bool.or_eq_false_iff] at outside
      exact outside.1
    obtain ⟨others, first⟩ := Text.wordLists_solid solid rest
    rw [shape, first] at words
    rw [← shape] at words
    rw [told_by_words words, if_neg (by simp), keywordBehind, shape, List.takeWhile_cons, solid]
    rfl
  | nil =>
    unfold isWriteStatement
    rw [dropWhile_isLeadIn, shape, List.append_nil]
    cases left : layoutLeft text with
    | nil =>
      have empty : writeKeywords.contains (keywordBehind text) = false := by
        rw [keywordBehind, shape]
        decide +kernel
      rw [if_neg (by simp), empty]
    | cons first rest =>
      rw [shape, List.append_nil, left] at words
      dsimp only
      rw [if_pos ⟨by simp, rfl⟩, words]
      rfl

/-- Told by the first word, unless a parenthesis is left of the layout, or blanks and nothing
else. -/
theorem isWriteStatement_eq (text : String) : isWriteStatement text =
    if '(' ∈ layoutLeft text then .ok false
    else if layoutLeft text ≠ [] ∧ behindLayout text = [] then .error (.misuse .rowTooShort)
    else .ok (writeKeywords.contains (keywordBehind text)) := by
  split
  · rename_i left
    exact told_parenthesized left
  · rename_i clear
    exact told_clear clear

end Told

section Case

/-- The same characters, ASCII letters in any case. -/
def Text.SameButCase (first second : String) : Prop :=
  first.toList.map Char.caseFoldAsciiOnly = second.toList.map Char.caseFoldAsciiOnly

theorem ascii_upper {character : Char} (upper : character.isUpper = true) :
    character.toNat < 0x80 := by
  simp only [Char.isUpper, decide_eq_true_eq, UInt32.le_iff_toNat_le] at upper
  exact Nat.lt_of_le_of_lt upper.2 (by decide)

theorem isLeadIn_folded (character : Char) :
    isLeadIn character.caseFoldAsciiOnly = isLeadIn character := by
  have ascii : ∀ code < 0x80,
      isLeadIn (Char.ofNat code).toLower = isLeadIn (Char.ofNat code) := by
    decide +kernel
  by_cases upper : character.isUpper = true
  · have same := ascii character.toNat (ascii_upper upper)
    rwa [Char.ofNat_toNat] at same
  · rw [Char.caseFoldAsciiOnly, Char.toLower_eq_of_not_isUpper upper]

theorem dropWhile_folded (characters : List Char) :
    (characters.map Char.caseFoldAsciiOnly).dropWhile isLeadIn =
      (characters.dropWhile isLeadIn).map Char.caseFoldAsciiOnly := by
  have same : isLeadIn ∘ Char.caseFoldAsciiOnly = isLeadIn := funext isLeadIn_folded
  rw [List.dropWhile_map, same]

/-- Only the capitals of the first word count. -/
theorem isWriteStatement_told (text : String) : isWriteStatement text =
    if text.toList.dropWhile isLeadIn = [] then .ok false
    else (Text.wordLists (Text.capitals (text.toList.dropWhile isLeadIn))).head?.elim
      (.error (.misuse .rowTooShort))
      fun capitals => .ok (writeKeywords.contains (String.ofList capitals)) := by
  unfold isWriteStatement
  rw [Text.wordLists_capitals]
  cases text.toList.dropWhile isLeadIn with
  | nil => rfl
  | cons character rest =>
    dsimp only
    rw [if_neg (List.cons_ne_nil character rest)]
    cases Text.wordLists (character :: rest) with
    | nil => rfl
    | cons word others =>
      have raised : Text.upper (String.ofList word) = String.ofList (Text.capitals word) := by
        rw [Text.upper, String.toList_ofList]
        rfl
      dsimp only
      rw [raised]
      rfl

theorem told_in_any_case {first second : String} (same : Text.SameButCase first second) :
    isWriteStatement first = isWriteStatement second := by
  have stripped : (first.toList.dropWhile isLeadIn).map Char.caseFoldAsciiOnly =
      (second.toList.dropWhile isLeadIn).map Char.caseFoldAsciiOnly := by
    rw [← dropWhile_folded, same, dropWhile_folded]
  have capitals : Text.capitals (first.toList.dropWhile isLeadIn) =
      Text.capitals (second.toList.dropWhile isLeadIn) := by
    rw [← Text.capitals_folded, stripped, Text.capitals_folded]
  have empty : first.toList.dropWhile isLeadIn = [] ↔ second.toList.dropWhile isLeadIn = [] := by
    rw [← Text.capitals_eq_nil_iff, capitals, Text.capitals_eq_nil_iff]
  simp only [isWriteStatement_told, empty, capitals]

end Case

section Lead

variable {lead : String}

theorem layoutOf_append (text : String)
    (leads : ∀ character ∈ lead.toList, isLayout character = true) :
    layoutOf (lead ++ text) = lead.toList ++ layoutOf text := by
  rw [layoutOf, String.toList_append, List.takeWhile_append_of_pos leads]
  rfl

theorem behindLayout_append (text : String)
    (leads : ∀ character ∈ lead.toList, isLayout character = true) :
    behindLayout (lead ++ text) = behindLayout text := by
  rw [behindLayout, String.toList_append, List.dropWhile_append_of_pos leads]
  rfl

/-- What is put in front can only leave more of the layout. -/
theorem layoutLeft_suffix (text : String)
    (leads : ∀ character ∈ lead.toList, isLayout character = true) :
    layoutLeft text <:+ layoutLeft (lead ++ text) := by
  rw [layoutLeft, layoutLeft, layoutOf_append text leads, List.dropWhile_append]
  split
  · exact List.suffix_rfl
  · exact (List.dropWhile_suffix isLeadIn).trans (List.suffix_append ..)

theorem told_behind_lead {text : String}
    (leads : ∀ character ∈ lead.toList, isLayout character = true)
    (clear : '(' ∉ layoutLeft (lead ++ text))
    (told : behindLayout text ≠ [] ∨ layoutLeft (lead ++ text) = []) :
    isWriteStatement (lead ++ text) = isWriteStatement text := by
  have behind := behindLayout_append text leads
  have fewer := layoutLeft_suffix text leads
  have kept : '(' ∉ layoutLeft text := fun member => clear (fewer.mem member)
  have own : ¬(layoutLeft text ≠ [] ∧ behindLayout text = []) := by
    rintro ⟨left, nothing⟩
    rcases told with something | none
    · exact something nothing
    · exact left (List.suffix_nil.mp (none ▸ fewer))
  have longer : ¬(layoutLeft (lead ++ text) ≠ [] ∧ behindLayout (lead ++ text) = []) := by
    rintro ⟨left, nothing⟩
    exact told.elim (fun something => something (behind ▸ nothing)) left
  rw [told_clear clear, told_clear kept, if_neg own, if_neg longer, keywordBehind, keywordBehind,
    behind]

end Lead

/-- A statement is told apart unless blanks that are no lead-in are all there is behind the lead-in.
It is told alike in any case, and behind any layout that hides no parenthesis behind such a blank
and leaves something to tell it by. -/
theorem statements_told_by_keyword (text : String) :
    ((∃ writes, isWriteStatement text = .ok writes) ↔
      behindLayout text ≠ [] ∨ '(' ∈ layoutLeft text ∨ layoutLeft text = []) ∧
    (∀ other, Text.SameButCase text other → isWriteStatement other = isWriteStatement text) ∧
    ∀ lead : String, (∀ character ∈ lead.toList, isLayout character = true) →
      '(' ∉ layoutLeft (lead ++ text) →
      (behindLayout text ≠ [] ∨ layoutLeft (lead ++ text) = []) →
      isWriteStatement (lead ++ text) = isWriteStatement text := by
  refine ⟨?_, fun other same => (told_in_any_case same).symm, fun lead => told_behind_lead⟩
  rw [isWriteStatement_eq]
  split
  · rename_i left
    simp [left]
  · rename_i clear
    split
    · rename_i lost
      simp [clear, lost]
    · rename_i found
      rw [not_and_or, not_not] at found
      simpa [clear, or_comm] using found

theorem deletion_told_behind_blanks :
    isWriteStatement "(\t(\u00a0\u3000\u2003delete from T" =
        isWriteStatement "\u2003delete from T" ∧
      isWriteStatement "\u2003delete from T" = isWriteStatement "\u2003DELETE from T" ∧
      isWriteStatement "\u2003DELETE from T" = .ok true := by
  obtain ⟨-, cases, leads⟩ := statements_told_by_keyword "\u2003delete from T"
  refine ⟨?_, (cases "\u2003DELETE from T" ?_).symm, ?_⟩
  · exact leads "(\t(\u00a0\u3000" (List.all_eq_true.mp (by cbv)) (by decide +kernel)
      (.inl (by decide +kernel))
  · unfold Text.SameButCase
    decide +kernel
  · cbv

/-- A vertical tab alone cannot be told, and a parenthesis behind a no-break space hides the
keyword. -/
theorem statements_lost_in_layout :
    isWriteStatement "\x0b" = .error (.misuse .rowTooShort) ∧
      (∀ character ∈ "\u00a0(".toList, isLayout character = true) ∧
      isWriteStatement "INSERT INTO T" = .ok true ∧
      isWriteStatement "\u00a0(INSERT INTO T" = .ok false := by
  refine ⟨?_, List.all_eq_true.mp ?_, ?_, ?_⟩ <;> cbv

end Querywright
