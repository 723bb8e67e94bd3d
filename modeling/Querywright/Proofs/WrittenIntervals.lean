import Mathlib.Data.Nat.Digits.Defs
import Querywright.Interval
import Querywright.Proofs.FailureFamilies
import Querywright.Proofs.MatchedPieces
import Querywright.Proofs.SpelledWords

/-! The intervals that a moment can be shifted by, told by how they are written: blanks, a sign,
decimal digits of any script, the letter of a unit and blanks again. Every text so written is read,
no other value is, and what is made of it has plain figures and nothing a caller wrote. -/
namespace Querywright

namespace TimeUnit

def letter : TimeUnit → Char
  | .year => 'Y'
  | .month => 'M'
  | .day => 'D'
  | .week => 'W'
  | .hour => 'h'
  | .minute => 'm'
  | .second => 's'

theorem ofLetter?_letter (unit : TimeUnit) : ofLetter? unit.letter = some unit := by
  cases unit <;> rfl

theorem eq_letter {character : Char} {unit : TimeUnit} (read : ofLetter? character = some unit) :
    character = unit.letter := by
  unfold ofLetter? at read
  split at read <;> cases read <;> rfl

theorem letter_solid (unit : TimeUnit) : Text.isBlank unit.letter = false := by
  cases unit <;> decide +kernel

end TimeUnit

namespace Interval

def signOf (forward : Bool) : Char :=
  if forward then '+' else '-'

theorem isForward?_signOf (forward : Bool) : isForward? (signOf forward) = some forward := by
  cases forward <;> rfl

theorem eq_signOf {character : Char} {forward : Bool}
    (read : isForward? character = some forward) : character = signOf forward := by
  unfold isForward? at read
  split at read <;> cases read <;> rfl

theorem signOf_solid (forward : Bool) : Text.isBlank (signOf forward) = false := by
  cases forward <;> decide +kernel

end Interval

/-- One digit for each figure, of whichever script that is. -/
def Figures (figures : List Char) (digits : List Nat) : Prop :=
  List.Forall₂ (fun figure digit => Text.decimalDigit? figure = some digit) figures digits

theorem figures_iff {figures : List Char} {digits : List Nat} :
    Figures figures digits ↔ figures.mapM Text.decimalDigit? = some digits := by
  induction figures generalizing digits with
  | nil =>
    rw [Figures, List.forall₂_nil_left_iff, List.mapM_nil]
    exact ⟨fun none => none ▸ rfl, fun none => (Option.some.inj none).symm⟩
  | cons figure rest ih =>
    rw [List.mapM_cons, Option.bind_eq_bind, Option.bind_eq_some_iff]
    constructor
    · intro read
      obtain ⟨digit, others, first, later, rfl⟩ := List.forall₂_cons_left_iff.mp read
      exact ⟨digit, first, by rw [ih.mp later]; rfl⟩
    · rintro ⟨digit, first, read⟩
      rw [Option.bind_eq_bind, Option.bind_eq_some_iff] at read
      obtain ⟨others, later, whole⟩ := read
      cases whole
      exact .cons first (ih.mpr later)

/-- A way to write an interval. -/
structure WrittenInterval where
  before : List Char
  forward : Bool
  figures : List Char
  digits : List Nat
  unit : TimeUnit
  after : List Char
  blankBefore : ∀ blank ∈ before, Text.isBlank blank = true
  blankAfter : ∀ blank ∈ after, Text.isBlank blank = true
  read : Figures figures digits
  present : figures ≠ []

/-- A number in the ten ASCII figures, with no zero in front. -/
def numeral (number : Nat) : String :=
  if number = 0 then "0" else String.ofList ((Nat.digits 10 number).reverse.map Nat.digitChar)

namespace WrittenInterval

def core (written : WrittenInterval) : List Char :=
  Interval.signOf written.forward :: (written.figures ++ [written.unit.letter])

def text (written : WrittenInterval) : String :=
  String.ofList (written.before ++ written.core ++ written.after)

def argument (written : WrittenInterval) : Value :=
  .text written.text

def value (written : WrittenInterval) : Nat :=
  Nat.ofDigits 10 written.digits.reverse

def shift (written : WrittenInterval) : String :=
  String.singleton (Interval.signOf written.forward) ++ " INTERVAL " ++ numeral written.value ++
    " " ++ written.unit.keyword

end WrittenInterval

theorem toDigits_eq {number : Nat} (positive : number ≠ 0) :
    Nat.toDigits 10 number = (Nat.digits 10 number).reverse.map Nat.digitChar := by
  induction number using Nat.strong_induction_on with
  | _ number ih =>
    by_cases small : number < 10
    · rw [Nat.toDigits_of_lt_base small, Nat.digits_of_lt 10 number positive small]
      rfl
    · have front := ih (number / 10) (by omega) (by omega)
      have parts : Nat.digits 10 number = number % 10 :: Nat.digits 10 (number / 10) :=
        Nat.digits_def' (by omega) (by omega)
      rw [Nat.toDigits_of_base_le (by omega) (by omega), front, parts, List.reverse_cons,
        List.map_append]
      rfl

theorem toString_eq_numeral (number : Nat) : toString number = numeral number := by
  rw [Nat.toString_eq_repr, Nat.repr_eq_ofList_toDigits, numeral]
  split
  · rename_i zero
    rw [zero, Nat.toDigits_zero]
  · rename_i positive
    rw [toDigits_eq positive]

theorem decimalValue_eq (digits : List Nat) :
    Text.decimalValue digits = Nat.ofDigits 10 digits.reverse := by
  rw [Nat.ofDigits_eq_foldr, Text.decimalValue, List.foldl_eq_foldr_reverse]
  congr 1
  funext digit value
  exact Nat.add_comm ..

section Trimming

/-- Trimming takes away blanks only. -/
theorem Text.exists_trimmed (characters : List Char) :
    ∃ before after, characters = before ++ Text.trimWhere Text.isBlank characters ++ after ∧
      (∀ blank ∈ before, Text.isBlank blank = true) ∧
      ∀ blank ∈ after, Text.isBlank blank = true := by
  have front := List.takeWhile_append_dropWhile (p := Text.isBlank) (l := characters)
  have back := List.takeWhile_append_dropWhile (p := Text.isBlank)
    (l := (characters.dropWhile Text.isBlank).reverse)
  refine ⟨characters.takeWhile Text.isBlank,
    ((characters.dropWhile Text.isBlank).reverse.takeWhile Text.isBlank).reverse, ?_, ?_, ?_⟩
  · rw [Text.trimWhere, List.append_assoc, ← List.reverse_append, back, List.reverse_reverse, front]
  · exact fun blank member => List.all_eq_true.mp List.all_takeWhile blank member
  · intro blank member
    exact List.all_eq_true.mp List.all_takeWhile blank (List.mem_reverse.mp member)

/-- Blanks around what neither begins nor ends with one are all that is trimmed. -/
theorem Text.trimWhere_around {before middle after : List Char} {first last : Char}
    (blankBefore : ∀ blank ∈ before, Text.isBlank blank = true)
    (blankAfter : ∀ blank ∈ after, Text.isBlank blank = true)
    (starts : Text.isBlank first = false) (ends : Text.isBlank last = false) :
    Text.trimWhere Text.isBlank (before ++ first :: (middle ++ [last]) ++ after) =
      first :: (middle ++ [last]) := by
  have front : (before ++ first :: (middle ++ [last]) ++ after).dropWhile Text.isBlank =
      first :: (middle ++ [last]) ++ after := by
    rw [List.append_assoc, List.dropWhile_append_of_pos blankBefore, List.cons_append,
      List.dropWhile_cons_of_neg (by simp [starts])]
  have back : (after.reverse ++ last :: (first :: middle).reverse).dropWhile Text.isBlank =
      last :: (first :: middle).reverse := by
    have blanks : ∀ blank ∈ after.reverse, Text.isBlank blank = true :=
      fun blank member => blankAfter blank (List.mem_reverse.mp member)
    rw [List.dropWhile_append_of_pos blanks, List.dropWhile_cons_of_neg (by simp [ends])]
  have turned : (first :: (middle ++ [last]) ++ after).reverse =
      after.reverse ++ last :: (first :: middle).reverse := by
    simp
  rw [Text.trimWhere, front, turned, back]
  simp

end Trimming

namespace WrittenInterval

variable (written : WrittenInterval)

def interval : Interval :=
  ⟨written.forward, written.digits, written.unit⟩

theorem ofText?_text : Interval.ofText? written.text = some written.interval := by
  have some : written.digits ≠ [] := by
    intro none
    have read := written.read
    rw [Figures, none, List.forall₂_nil_right_iff] at read
    exact written.present read
  rw [Interval.ofText?, text, String.toList_ofList, core,
    Text.trimWhere_around written.blankBefore written.blankAfter (Interval.signOf_solid _)
      (TimeUnit.letter_solid _)]
  simp [Interval.ofCharacters?, Interval.isForward?_signOf, TimeUnit.ofLetter?_letter,
    figures_iff.mp written.read, some, interval]

theorem text_interval : written.interval.text = written.shift := by
  have sign : (if written.forward then "+" else "-") =
      String.singleton (Interval.signOf written.forward) := by
    cases written.forward <;> rfl
  rw [Interval.text, shift, Interval.amount, toString_eq_numeral, decimalValue_eq]
  exact congrArg (· ++ " INTERVAL " ++ _ ++ " " ++ _) sign

/-- A text has at least the figures that an interval is written with. -/
theorem digits_length_le :
    written.digits.length ≤ written.text.toList.countP (Text.decimalDigit? · |>.isSome) := by
  have all : written.figures.countP (Text.decimalDigit? · |>.isSome) = written.digits.length := by
    rw [← List.Forall₂.length_eq written.read, List.countP_eq_length]
    intro figure member
    obtain ⟨digit, -, read⟩ := exists_right written.read member
    rw [read]
    rfl
  rw [← all, text, String.toList_ofList, core]
  simp only [List.countP_append, List.countP_cons]
  omega

end WrittenInterval

/-- What is read as an interval is written as one. -/
theorem exists_written {text : String} {interval : Interval}
    (read : Interval.ofText? text = some interval) :
    ∃ written : WrittenInterval, written.text = text ∧ written.interval = interval := by
  obtain ⟨before, after, whole, blankBefore, blankAfter⟩ := Text.exists_trimmed text.toList
  rw [Interval.ofText?] at read
  generalize Text.trimWhere Text.isBlank text.toList = core at whole read
  cases core with
  | nil => cases read
  | cons sign rest =>
    simp only [Interval.ofCharacters?, Option.bind_eq_bind, Option.bind_eq_some_iff] at read
    obtain ⟨forward, signed, letter, last, unit, named, digits, figures, read⟩ := read
    split at read
    · cases read
    · rename_i some
      obtain rfl := Option.some.inj read
      have ending : rest = rest.dropLast ++ [unit.letter] := by
        rw [← TimeUnit.eq_letter named]
        exact (List.dropLast_append_getLast? letter last).symm
      refine ⟨⟨before, forward, rest.dropLast, digits, unit, after, blankBefore, blankAfter,
        figures_iff.mpr figures, ?_⟩, ?_, rfl⟩
      · intro none
        rw [none, List.mapM_nil] at figures
        cases figures
        exact some rfl
      · rw [WrittenInterval.text, WrittenInterval.core, ← ending, ← Interval.eq_signOf signed,
          ← whole, String.ofList_toList]

section Moments

/-- The SQL of a moment that intervals shift, in their order. -/
def shiftedMoment (shifts : List WrittenInterval) : String :=
  "NOW()" ++ String.join (shifts.map fun written => " " ++ written.shift)

variable {arguments : List Value}

theorem parse_written (written : WrittenInterval)
    (few : written.text.toList.countP (Text.decimalDigit? · |>.isSome) ≤ Interval.digitLimit) :
    Interval.parse written.argument = .ok written.interval := by
  have within : ¬Interval.digitLimit < written.interval.digits.length :=
    Nat.not_lt.mpr (written.digits_length_le.trans few)
  unfold Interval.parse
  simp [WrittenInterval.argument, Value.asText?, written.ofText?_text, within]

theorem parse_other {argument : Value}
    (other : ∀ written : WrittenInterval, argument ≠ written.argument) :
    Interval.parse argument = .error (.invalidInterval argument.plain) := by
  have unread : argument.asText?.bind Interval.ofText? = none := by
    refine Option.eq_none_iff_forall_ne_some.mpr fun interval read => ?_
    obtain ⟨text, isText, read⟩ := Option.bind_eq_some_iff.mp read
    obtain ⟨written, rfl, -⟩ := exists_written read
    refine other written ?_
    cases argument <;> cases isText
    rfl
  rw [Interval.parse, unread]

theorem intercalate_spaced (first : String) (rest : List String) :
    " ".intercalate (first :: rest) = first ++ String.join (rest.map (" " ++ ·)) := by
  induction rest generalizing first with
  | nil => simp
  | cons next rest ih =>
    rw [String.intercalate_cons_cons, ih, List.map_cons, String.join_cons, String.append_assoc,
      String.append_assoc]

/-- Every list of arguments is one of written intervals, or has a first value that is none. -/
theorem written_or_other (arguments : List Value) :
    (∃ shifts : List WrittenInterval, arguments = shifts.map WrittenInterval.argument) ∨
    ∃ (shifts : List WrittenInterval) (argument : Value) (rest : List Value),
      arguments = shifts.map WrittenInterval.argument ++ argument :: rest ∧
      ∀ written : WrittenInterval, argument ≠ written.argument := by
  induction arguments with
  | nil => exact .inl ⟨[], rfl⟩
  | cons argument rest ih =>
    by_cases isWritten : ∃ written : WrittenInterval, argument = written.argument
    · obtain ⟨written, rfl⟩ := isWritten
      rcases ih with ⟨shifts, rfl⟩ | ⟨shifts, other, later, rfl, unwritten⟩
      · exact .inl ⟨written :: shifts, rfl⟩
      · exact .inr ⟨written :: shifts, other, later, rfl, unwritten⟩
    · exact .inr ⟨[], argument, rest, rfl, not_exists.mp isWritten⟩

/-- Not a string of more figures than can be read as one number. -/
def Value.HasFewFigures (argument : Value) : Prop :=
  ∀ text, argument = .text text → text.toList.countP (Text.decimalDigit? · |>.isSome) ≤ 4300

theorem mapM_written {shifts : List WrittenInterval}
    (few : ∀ written ∈ shifts, written.argument.HasFewFigures) :
    (shifts.map WrittenInterval.argument).mapM Interval.parse =
      .ok (shifts.map WrittenInterval.interval) := by
  induction shifts with
  | nil => rfl
  | cons written others ih =>
    obtain ⟨first, later⟩ := List.forall_mem_cons.mp few
    rw [List.map_cons, List.mapM_cons, parse_written written (first _ rfl), ih later]
    rfl

theorem now_written {shifts : List WrittenInterval}
    (few : ∀ written ∈ shifts, written.argument.HasFewFigures) :
    now (shifts.map WrittenInterval.argument) =
      .ok (.function (shiftedMoment shifts) []) := by
  have template : " ".intercalate ("NOW()" ::
      (shifts.map WrittenInterval.interval).map Interval.text) = shiftedMoment shifts := by
    have each : ((" " ++ ·) ∘ Interval.text) ∘ WrittenInterval.interval =
        fun written => " " ++ written.shift :=
      funext fun written => congrArg (" " ++ ·) written.text_interval
    rw [intercalate_spaced, List.map_map, List.map_map, each]
    rfl
  rw [now, mapM_written few, ← template]
  rfl

theorem now_other {shifts : List WrittenInterval} {argument : Value} (rest : List Value)
    (few : ∀ written ∈ shifts, written.argument.HasFewFigures)
    (other : ∀ written : WrittenInterval, argument ≠ written.argument) :
    now (shifts.map WrittenInterval.argument ++ argument :: rest) =
      .error (.invalidInterval argument.plain) := by
  rw [now, List.mapM_append, mapM_written few, List.mapM_cons, parse_other other]
  rfl

theorem inert_shift (written : WrittenInterval) :
    written.shift.toList.all Placeholder.isInert := by
  have sign : (String.singleton (Interval.signOf written.forward)).toList.all
      Placeholder.isInert := by
    cases written.forward <;> decide
  have unit : written.unit.keyword.toList.all Placeholder.isInert := by
    cases written.unit <;> decide
  have figures : (numeral written.value).toList.all Placeholder.isInert := by
    rw [← toString_eq_numeral]
    exact Placeholder.inert_natural written.value
  have words : " INTERVAL ".toList.all Placeholder.isInert ∧
      " ".toList.all Placeholder.isInert := by
    decide
  simp only [WrittenInterval.shift, String.toList_append, List.all_append, Bool.and_eq_true]
  exact ⟨⟨⟨⟨sign, words.1⟩, figures⟩, words.2⟩, unit⟩

theorem inert_moment (shifts : List WrittenInterval) :
    (shiftedMoment shifts).toList.all Placeholder.isInert := by
  have opening : "NOW()".toList.all Placeholder.isInert := by decide
  rw [shiftedMoment, String.toList_append, List.all_append, opening, Bool.true_and,
    String.toList_join, List.all_flatMap, List.all_eq_true]
  intro shift member
  obtain ⟨written, -, rfl⟩ := List.mem_map.mp member
  have space : " ".toList.all Placeholder.isInert := by decide
  rw [String.toList_append, List.all_append, space, inert_shift]
  rfl

theorem text_moment (shifts : List WrittenInterval) :
    (Expression.function (shiftedMoment shifts) []).text = .ok (shiftedMoment shifts) := by
  have some : (shiftedMoment shifts).isEmpty = false := by
    simp [shiftedMoment]
  rw [Expression.text, some]
  rfl

end Moments

end Querywright
