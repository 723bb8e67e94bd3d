import Mathlib
import Querywright.Text.Keyword

/-! Words of a text and their capitals. A blank has no case and no capital of another character is
blank, so the words of a text in capitals are the capitals of its words; trimming loses none of
them. -/
namespace Querywright.Text

section Pieces

variable {isCut : Char → Bool}

theorem pieces_exists (isCut : Char → Bool) (characters : List Char) :
    ∃ piece others, pieces isCut characters = piece :: others := by
  cases characters with
  | nil => exact ⟨[], [], rfl⟩
  | cons character rest =>
    unfold pieces
    split
    · exact ⟨[], _, rfl⟩
    · split
      · exact ⟨[character], [], rfl⟩
      · exact ⟨_, _, rfl⟩

/-- What stands in front of the first cut belongs to the first piece. -/
theorem pieces_append {word rest piece : List Char} {others : List (List Char)}
    (whole : ∀ character ∈ word, isCut character = false)
    (cut : pieces isCut rest = piece :: others) :
    pieces isCut (word ++ rest) = (word ++ piece) :: others := by
  induction word with
  | nil => exact cut
  | cons character word ih =>
    have inner := ih fun other member => whole other (List.mem_cons_of_mem _ member)
    have kept := whole character List.mem_cons_self
    simp [pieces, kept, inner]

/-- A cut parts the pieces in front of it from those behind it. -/
theorem pieces_break {cut : Char} (cuts : isCut cut = true) (front rest : List Char) :
    pieces isCut (front ++ cut :: rest) = pieces isCut front ++ pieces isCut rest := by
  induction front with
  | nil => simp [pieces, cuts]
  | cons character front ih =>
    obtain ⟨piece, others, shape⟩ := pieces_exists isCut front
    rw [List.cons_append, pieces, pieces, ih, shape]
    split <;> rfl

theorem pieces_whole {word : List Char} (whole : ∀ character ∈ word, isCut character = false) :
    pieces isCut word = [word] := by
  simpa using pieces_append whole (rfl : pieces isCut [] = [] :: [])

theorem pieces_cut {cut : Char} (cuts : isCut cut = true)
    {word : List Char} (whole : ∀ character ∈ word, isCut character = false) (rest : List Char) :
    pieces isCut (word ++ cut :: rest) = word :: pieces isCut rest := by
  rw [pieces_break cuts, pieces_whole whole, List.singleton_append]

theorem pieces_uncut {characters piece : List Char} (member : piece ∈ pieces isCut characters) :
    ∀ character ∈ piece, isCut character = false := by
  induction characters generalizing piece with
  | nil =>
    rw [pieces, List.mem_singleton] at member
    simp [member]
  | cons character rest ih =>
    obtain ⟨first, others, shape⟩ := pieces_exists isCut rest
    rw [shape] at ih
    by_cases cuts : isCut character = true
    · simp only [pieces, cuts, if_true, shape, List.mem_cons] at member
      rcases member with rfl | later
      · simp
      · exact ih (by simpa using later)
    · have kept : isCut character = false := by simpa using cuts
      simp only [pieces, kept, shape, Bool.false_eq_true, if_false, List.mem_cons] at member
      rcases member with rfl | later
      · simpa [kept] using ih List.mem_cons_self
      · exact ih (List.mem_cons_of_mem _ later)

/-- A change that keeps every cut and makes none keeps the pieces, each of them changed. -/
theorem pieces_flatMap {change : Char → List Char}
    (fixed : ∀ character, isCut character = true → change character = [character])
    (uncut : ∀ character, isCut character = false → ∀ made ∈ change character, isCut made = false)
    (characters : List Char) :
    pieces isCut (characters.flatMap change) =
      (pieces isCut characters).map (List.flatMap change) := by
  induction characters with
  | nil => rfl
  | cons character rest ih =>
    obtain ⟨piece, others, shape⟩ := pieces_exists isCut rest
    rw [shape, List.map_cons] at ih
    rw [List.flatMap_cons]
    by_cases cuts : isCut character = true
    · rw [fixed character cuts]
      simp [pieces, cuts, ih, shape]
    · have kept : isCut character = false := by simpa using cuts
      rw [pieces_append (uncut character kept) ih]
      simp [pieces, kept, shape]

end Pieces

theorem wordLists_break {blank : Char} (parts : isBlank blank = true) (front rest : List Char) :
    wordLists (front ++ blank :: rest) = wordLists front ++ wordLists rest := by
  simp only [wordLists, pieces_break parts, List.filter_append]

theorem wordLists_blank {blank : Char} (parts : isBlank blank = true) (rest : List Char) :
    wordLists (blank :: rest) = wordLists rest :=
  wordLists_break parts [] rest

theorem wordLists_snoc {blank : Char} (parts : isBlank blank = true) (characters : List Char) :
    wordLists (characters ++ [blank]) = wordLists characters := by
  rw [wordLists_break parts]
  exact List.append_nil _

/-- Characters that make one word wherever they stand between blanks. -/
structure IsWord (word : List Char) : Prop where
  present : word ≠ []
  solid : ∀ character ∈ word, isBlank character = false

theorem IsWord.of_all {word : List Char} (present : word ≠ [])
    (each : word.all (!isBlank ·) = true) : IsWord word :=
  ⟨present, by simpa using each⟩

theorem wordLists_word {word : List Char} (isWord : IsWord word) : wordLists word = [word] := by
  simp [wordLists, pieces_whole isWord.solid, isWord.present]

theorem wordLists_cons {word : List Char} (isWord : IsWord word) {blank : Char}
    (parts : isBlank blank = true) (rest : List Char) :
    wordLists (word ++ blank :: rest) = word :: wordLists rest := by
  rw [wordLists_break parts, wordLists_word isWord, List.singleton_append]

/-- A text begins with a blank, ends with its first word, or has a blank behind it. -/
theorem word_cases (characters : List Char) :
    characters = [] ∨ (∃ blank rest, characters = blank :: rest ∧ isBlank blank = true) ∨
      IsWord characters ∨
      ∃ word blank rest, characters = word ++ blank :: rest ∧ IsWord word ∧
        isBlank blank = true := by
  induction characters with
  | nil => exact .inl rfl
  | cons character rest ih =>
    by_cases blank : isBlank character = true
    · exact .inr (.inl ⟨character, rest, rfl, blank⟩)
    have solid : isBlank character = false := by simpa using blank
    have grown {word : List Char} (others : ∀ other ∈ word, isBlank other = false) :
        IsWord (character :: word) :=
      ⟨List.cons_ne_nil _ _, by simpa [solid] using others⟩
    refine .inr (.inr ?_)
    rcases ih with rfl | ⟨space, others, rfl, parts⟩ | isWord | ⟨word, space, others, rfl, isWord, parts⟩
    · exact .inl (grown (by simp))
    · exact .inr ⟨[character], space, others, rfl, grown (by simp), parts⟩
    · exact .inl (grown isWord.solid)
    · exact .inr ⟨character :: word, space, others, rfl, grown isWord.solid, parts⟩

section Capitals

def isBlankCode (code : Nat) : Bool :=
  blankSpans.any (·.holds code)

/-- No span of letters, and no span of their capitals, meets a span of blanks. -/
theorem upperShifts_unblank : upperShifts.toList.all (fun shift =>
    0 ≤ shift.first + shift.offset && blankSpans.toList.all fun span =>
      (shift.last < span.1 || span.2 < shift.first) &&
        (shift.last + shift.offset < span.1 || span.2 < shift.first + shift.offset)) = true := by
  decide +kernel

theorem upperExpansions_unblank : upperExpansions.all (fun expansion =>
    !isBlankCode expansion.1 && !expansion.2.isEmpty &&
      (expansion.2.map Char.ofNat).all (!isBlank ·)) = true := by
  decide +kernel

theorem isBlank_ofNat {code : Nat} (blank : isBlank (Char.ofNat code) = true) :
    isBlankCode code = true := by
  have read : isBlankCode (Char.ofNat code).toNat = true := blank
  rw [Char.toNat_ofNat] at read
  split at read
  · exact read
  · exact absurd read (by decide +kernel)

theorem Shift.shifted?_unblank {shift : Shift} (known : shift ∈ upperShifts) {code : Nat}
    {capital : Char} (shifted : shift.shifted? code = some capital) :
    isBlankCode code = false ∧ isBlank capital = false := by
  have apart := List.all_eq_true.mp upperShifts_unblank shift known.val
  rw [Bool.and_eq_true, decide_eq_true_eq, List.all_eq_true] at apart
  obtain ⟨reached, apart⟩ := apart
  unfold Shift.shifted? at shifted
  split at shifted
  case isFalse => cases shifted
  rename_i within
  simp only [Bool.and_eq_true, decide_eq_true_eq] at within
  cases shifted
  constructor
  · refine Bool.eq_false_iff.mpr fun blank => ?_
    obtain ⟨span, member, held⟩ := Array.any_eq_true'.mp blank
    have away := apart span member.val
    simp only [Span.holds, Bool.and_eq_true, Bool.or_eq_true, decide_eq_true_eq] at held away
    omega
  · refine Bool.eq_false_iff.mpr fun blank => ?_
    obtain ⟨span, member, held⟩ := Array.any_eq_true'.mp (isBlank_ofNat blank)
    have away := apart span member.val
    simp only [Span.holds, Bool.and_eq_true, Bool.or_eq_true, decide_eq_true_eq] at held away
    omega

/-- A character is its own capital, or neither it nor any of its capitals is blank. -/
theorem upperCharacter_cases (character : Char) :
    upperCharacter character = [character] ∨
      (isBlank character = false ∧ upperCharacter character ≠ [] ∧
        ∀ capital ∈ upperCharacter character, isBlank capital = false) := by
  have ascii : ∀ code < 0x80, (Char.ofNat code).toUpper = Char.ofNat code ∨
      (isBlank (Char.ofNat code) = false ∧ isBlank (Char.ofNat code).toUpper = false) := by
    decide +kernel
  unfold upperCharacter
  split
  · rename_i small
    have found := ascii character.toNat small
    rw [Char.ofNat_toNat] at found
    rcases found with same | solid
    · exact .inl (by rw [same])
    · exact .inr (by simpa using solid)
  unfold mapped
  split
  · rename_i code capitals found
    have apart := Array.all_eq_true'.mp upperExpansions_unblank _ (Array.mem_of_find?_eq_some found)
    have same := Array.find?_some found
    simp only [Bool.and_eq_true, Bool.not_eq_true', List.all_eq_true, List.isEmpty_eq_false_iff,
      beq_iff_eq] at apart same
    subst same
    exact .inr ⟨apart.1.1, by simpa using apart.1.2, apart.2⟩
  · cases found : upperShifts.findSome? (·.shifted? character.toNat) with
    | none => exact .inl rfl
    | some capital =>
      obtain ⟨shift, known, shifted⟩ := Array.exists_of_findSome?_eq_some found
      have solid := Shift.shifted?_unblank known shifted
      exact .inr ⟨solid.1, by simp, by simpa using solid.2⟩

theorem upperCharacter_blank {character : Char} (blank : isBlank character = true) :
    upperCharacter character = [character] := by
  rcases upperCharacter_cases character with same | ⟨solid, -⟩
  · exact same
  · simp [blank] at solid

theorem upperCharacter_solid {character : Char} (solid : isBlank character = false) :
    upperCharacter character ≠ [] ∧ ∀ capital ∈ upperCharacter character, isBlank capital = false := by
  rcases upperCharacter_cases character with same | ⟨-, capitals⟩
  · simpa [same] using solid
  · exact capitals

/-- The case of a letter is of no account for its capitals. -/
theorem upperCharacter_folded (character : Char) :
    upperCharacter character.caseFoldAsciiOnly = upperCharacter character := by
  by_cases upper : character.isUpper = true
  · have small : ∀ code < 0x80, (Char.ofNat code).toLower.toNat < 0x80 := by decide +kernel
    have own : character.toNat < 0x80 := by
      simp only [Char.isUpper, decide_eq_true_eq, UInt32.le_iff_toNat_le] at upper
      exact Nat.lt_of_le_of_lt upper.2 (by decide)
    have lower : character.toLower.toNat < 0x80 := by simpa using small character.toNat own
    simp [upperCharacter, own, lower]
  · rw [Char.caseFoldAsciiOnly, Char.toLower_eq_of_not_isUpper upper]

theorem upperCharacter_ne_nil (character : Char) : upperCharacter character ≠ [] := by
  rcases upperCharacter_cases character with same | ⟨-, some, -⟩
  · simp [same]
  · exact some

def capitals (characters : List Char) : List Char :=
  characters.flatMap upperCharacter

@[simp] theorem capitals_nil : capitals [] = [] :=
  rfl

@[simp] theorem capitals_append (first second : List Char) :
    capitals (first ++ second) = capitals first ++ capitals second :=
  List.flatMap_append

theorem capitals_blank {blank : Char} (isBlank : isBlank blank = true) (rest : List Char) :
    capitals (blank :: rest) = blank :: capitals rest := by
  rw [capitals, List.flatMap_cons, upperCharacter_blank isBlank]
  rfl

@[simp] theorem capitals_eq_nil_iff {characters : List Char} :
    capitals characters = [] ↔ characters = [] := by
  cases characters with
  | nil => simp
  | cons character rest => simp [capitals, upperCharacter_ne_nil]

theorem capitals_folded (word : List Char) :
    capitals (word.map Char.caseFoldAsciiOnly) = capitals word := by
  simp [capitals, List.flatMap_map, upperCharacter_folded]

theorem IsWord.capitals {word : List Char} (isWord : IsWord word) :
    IsWord (Text.capitals word) := by
  refine ⟨by simpa using isWord.present, fun capital member => ?_⟩
  obtain ⟨character, present, made⟩ := List.mem_flatMap.mp member
  exact (upperCharacter_solid (isWord.solid character present)).2 capital made

theorem wordLists_capitals (characters : List Char) :
    wordLists (capitals characters) = (wordLists characters).map capitals := by
  have pieces : Text.pieces isBlank (capitals characters) =
      (Text.pieces isBlank characters).map capitals :=
    pieces_flatMap (fun _ => upperCharacter_blank) (fun _ solid => (upperCharacter_solid solid).2)
      characters
  have kept : (fun piece : List Char => !piece.isEmpty) ∘ capitals = (!·.isEmpty) := by
    funext piece
    cases piece with
    | nil => rfl
    | cons character rest => simp
  rw [wordLists, pieces, List.filter_map, kept]
  rfl

end Capitals

section Words

variable {characters : List Char}

theorem blank_of_wordLists_nil (none : wordLists characters = []) :
    ∀ character ∈ characters, isBlank character = true := by
  induction characters with
  | nil => simp
  | cons character rest ih =>
    rcases word_cases (character :: rest) with empty | ⟨blank, others, shape, isBlank⟩ | isWord |
        ⟨word, blank, others, shape, isWord, parts⟩
    · cases empty
    · cases shape
      rw [wordLists_blank isBlank] at none
      simpa [isBlank] using ih none
    · simp [wordLists_word isWord] at none
    · simp [shape, wordLists_cons isWord parts] at none

theorem wordLists_eq_nil_iff :
    wordLists characters = [] ↔ ∀ character ∈ characters, isBlank character = true := by
  refine ⟨blank_of_wordLists_nil, fun blanks => ?_⟩
  induction characters with
  | nil => rfl
  | cons character rest ih =>
    rw [wordLists_blank (blanks character List.mem_cons_self)]
    exact ih fun other member => blanks other (List.mem_cons_of_mem _ member)

theorem isBlankText_iff (text : String) :
    isBlankText text = true ↔ wordLists text.toList = [] := by
  rw [wordLists_eq_nil_iff, isBlankText, List.all_eq_true]

theorem isWord_of_mem {word : List Char} (member : word ∈ wordLists characters) : IsWord word := by
  obtain ⟨piece, present⟩ := List.mem_filter.mp member
  exact ⟨by simpa using present, pieces_uncut piece⟩

/-- Words with a space between them are the words of the text that they make. -/
theorem wordLists_intercalate {words : List (List Char)} (each : ∀ word ∈ words, IsWord word) :
    wordLists ([' '].intercalate words) = words := by
  induction words with
  | nil => rfl
  | cons word rest ih =>
    have isWord := each word List.mem_cons_self
    have others := ih fun other member => each other (List.mem_cons_of_mem _ member)
    cases rest with
    | nil => simpa using wordLists_word isWord
    | cons next more =>
      rw [List.intercalate_cons_cons, List.append_assoc]
      have led := wordLists_cons isWord (by decide +kernel : isBlank ' ' = true)
        ([' '].intercalate (next :: more))
      rw [others] at led
      exact led

theorem capitals_intercalate (words : List (List Char)) :
    capitals ([' '].intercalate words) = [' '].intercalate (words.map capitals) := by
  have space : capitals [' '] = [' '] := by decide +kernel
  induction words with
  | nil => rfl
  | cons word rest ih =>
    cases rest with
    | nil => simp
    | cons next more =>
      rw [List.intercalate_cons_cons, capitals_append, capitals_append, ih, space]
      simp only [List.map_cons, List.intercalate_cons_cons]

end Words

section Trimming

/-- Nothing blank stands at either end. -/
structure IsTrimmed (characters : List Char) : Prop where
  starts : ∀ character rest, characters = character :: rest → isBlank character = false
  ends : ∀ character rest, characters = rest ++ [character] → isBlank character = false

variable {characters : List Char}

theorem wordLists_dropWhile (characters : List Char) :
    wordLists (characters.dropWhile isBlank) = wordLists characters := by
  induction characters with
  | nil => rfl
  | cons character rest ih =>
    rw [List.dropWhile_cons]
    split
    · rename_i blank
      rw [ih, wordLists_blank blank]
    · rfl

theorem wordLists_dropWhile_reverse (characters : List Char) :
    wordLists (characters.dropWhile isBlank).reverse = wordLists characters.reverse := by
  induction characters with
  | nil => rfl
  | cons character rest ih =>
    rw [List.dropWhile_cons]
    split
    · rename_i blank
      rw [ih, List.reverse_cons, wordLists_snoc blank]
    · rfl

theorem wordLists_trim (characters : List Char) :
    wordLists (trimWhere isBlank characters) = wordLists characters := by
  rw [trimWhere, wordLists_dropWhile_reverse, List.reverse_reverse, wordLists_dropWhile]

theorem dropWhile_starts {character : Char} {rest : List Char}
    (shape : characters.dropWhile isBlank = character :: rest) : isBlank character = false := by
  have kept := List.head?_dropWhile_not isBlank characters
  rw [shape] at kept
  simpa using kept

theorem trimWhere_trimmed (characters : List Char) : IsTrimmed (trimWhere isBlank characters) := by
  constructor
  · intro character rest shape
    obtain ⟨dropped, whole⟩ := (List.dropWhile_suffix isBlank :
      (characters.dropWhile isBlank).reverse.dropWhile isBlank <:+ (characters.dropWhile isBlank).reverse)
    have front := congrArg List.reverse whole
    rw [List.reverse_append, List.reverse_reverse] at front
    rw [trimWhere] at shape
    rw [shape] at front
    exact dropWhile_starts front.symm
  · intro character rest shape
    have back := congrArg List.reverse shape
    rw [trimWhere, List.reverse_reverse, List.reverse_append] at back
    exact dropWhile_starts back

namespace IsTrimmed

theorem nil_of_blank (trimmed : IsTrimmed characters)
    (blanks : ∀ character ∈ characters, isBlank character = true) : characters = [] := by
  cases characters with
  | nil => rfl
  | cons character rest =>
    have solid := trimmed.starts character rest rfl
    simp [blanks character List.mem_cons_self] at solid

/-- Behind a blank inside a trimmed text there is another word. -/
theorem word_behind {front rest : List Char} {blank : Char}
    (trimmed : IsTrimmed (front ++ blank :: rest)) (parts : isBlank blank = true) :
    ∃ word others, wordLists rest = word :: others := by
  cases found : wordLists rest with
  | cons word others => exact ⟨word, others, rfl⟩
  | nil =>
    rcases List.eq_nil_or_concat rest with rfl | ⟨inner, last, rfl⟩
    · simp [trimmed.ends blank front rfl] at parts
    · have solid := trimmed.ends last (front ++ blank :: inner) (by simp)
      simp [blank_of_wordLists_nil found last (by simp)] at solid

theorem eq_of_lone_word (trimmed : IsTrimmed characters) {word : List Char}
    (lone : wordLists characters = [word]) : characters = word := by
  rcases word_cases characters with rfl | ⟨blank, rest, rfl, parts⟩ | isWord |
      ⟨first, blank, rest, rfl, isWord, parts⟩
  · cases lone
  · simp [trimmed.starts blank rest rfl] at parts
  · rw [wordLists_word isWord] at lone
    exact (List.cons.inj lone).1
  · obtain ⟨next, others, more⟩ := trimmed.word_behind parts
    simp [wordLists_cons isWord parts, more] at lone

/-- A blank keeps its place among the capitals, so a trimmed text has the capitals of its words
with a space between them only if a space is what stands between them. -/
theorem eq_spaced {words : List (List Char)} (trimmed : IsTrimmed characters)
    (found : wordLists characters = words)
    (spaced : capitals characters = [' '].intercalate (words.map capitals)) :
    characters = [' '].intercalate words := by
  induction words generalizing characters with
  | nil => exact trimmed.nil_of_blank (blank_of_wordLists_nil found)
  | cons word more ih =>
    rcases word_cases characters with rfl | ⟨blank, rest, rfl, parts⟩ | isWord |
        ⟨first, blank, rest, rfl, isWord, parts⟩
    · cases found
    · simp [trimmed.starts blank rest rfl] at parts
    · rw [wordLists_word isWord] at found
      cases found
      simp
    rw [wordLists_cons isWord parts] at found
    obtain ⟨rfl, behind⟩ := List.cons.inj found
    obtain ⟨next, later, rfl⟩ : ∃ next later, more = next :: later :=
      behind ▸ trimmed.word_behind parts
    simp only [capitals_append, capitals_blank parts, List.map_cons, List.intercalate_cons_cons,
      List.append_assoc, List.append_cancel_left_eq, List.cons_append, List.nil_append,
      List.cons.injEq] at spaced ⊢
    obtain ⟨rfl, spaced⟩ := spaced
    refine ⟨rfl, ih ⟨fun character others shape => ?_, fun character others shape =>
      trimmed.ends character (first ++ ' ' :: others) (by simp [shape])⟩ behind (by simpa using spaced)⟩
    -- a second blank would have to be the first character of the next word in capitals
    subst shape
    refine Bool.eq_false_iff.mpr fun again => ?_
    have nextWord : IsWord (capitals next) :=
      (isWord_of_mem (behind ▸ List.mem_cons_self)).capitals
    obtain ⟨capital, tail, capital_first⟩ := List.exists_cons_of_ne_nil nextWord.present
    have solid := nextWord.solid capital (capital_first ▸ List.mem_cons_self)
    have front : ([' '].intercalate (capitals next :: later.map capitals)).head? = some capital := by
      cases later <;> simp [capital_first, List.intercalate_cons_cons]
    have same : character = capital := by
      simpa [capitals_blank again, ← spaced] using front
    simp [same, solid] at again

end IsTrimmed

/-- Text with nothing but one space between its words, once it is trimmed. -/
def IsSingleSpaced (text : String) : Prop :=
  trim text = " ".intercalate (words text)

instance (text : String) : Decidable (IsSingleSpaced text) :=
  inferInstanceAs (Decidable (_ = _))

theorem toList_upper (text : String) : (upper text).toList = capitals text.toList :=
  String.toList_ofList

theorem toList_trim (text : String) : (trim text).toList = trimWhere isBlank text.toList :=
  String.toList_ofList

theorem toList_keyword (text : String) :
    (keyword text).toList = [' '].intercalate ((wordLists text.toList).map capitals) := by
  rw [keyword, String.toList_intercalate, words, toList_upper, wordLists_capitals, List.map_map]
  simp [Function.comp_def]

theorem keyword_trim (text : String) : keyword (trim text) = keyword text := by
  rw [String.ext_iff, toList_keyword, toList_keyword, toList_trim, wordLists_trim]

/-- The capitals of a trimmed text are its keyword exactly if single spaces part its words. -/
theorem upper_trim_iff (text : String) : upper (trim text) = keyword text ↔ IsSingleSpaced text := by
  have trimmed := trimWhere_trimmed text.toList
  have sameWords := wordLists_trim text.toList
  rw [IsSingleSpaced, String.ext_iff, String.ext_iff, toList_upper, toList_keyword, toList_trim,
    String.toList_intercalate, words, List.map_map]
  simp only [Function.comp_def, String.toList_ofList, List.map_id']
  constructor
  · exact trimmed.eq_spaced sameWords
  · intro spaced
    exact (congrArg capitals spaced).trans (capitals_intercalate _)

/-- A text whose keyword is a single word has nothing but blanks around that word. -/
theorem singleSpaced_of_word {text word : String} (isWord : IsWord word.toList)
    (known : keyword text = word) : IsSingleSpaced text := by
  have each (piece : List Char) (member : piece ∈ (wordLists text.toList).map capitals) :
      IsWord piece := by
    obtain ⟨found, present, rfl⟩ := List.mem_map.mp member
    exact (isWord_of_mem present).capitals
  have inCapitals : (wordLists text.toList).map capitals = [word.toList] := by
    rw [← wordLists_intercalate each, ← toList_keyword, known, wordLists_word isWord]
  obtain ⟨lone, rest, shape, -, none⟩ := List.map_eq_cons_iff.mp inCapitals
  rw [List.map_eq_nil_iff] at none
  subst none
  have alone := (trimWhere_trimmed text.toList).eq_of_lone_word ((wordLists_trim _).trans shape)
  rw [IsSingleSpaced, String.ext_iff, toList_trim, alone, String.toList_intercalate, words, shape]
  simp

end Trimming
end Querywright.Text
