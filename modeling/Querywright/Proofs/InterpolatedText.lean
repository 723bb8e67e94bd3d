import Querywright.Proofs.PlaceholderScan

/-! Statements for a driver that interpolates. Such a driver goes by percent signs: two of them stand
for one, and a sign with an `s` behind it takes the next value. Main statement: what it reads of a
statement in its style is, place by place, the statement as it was written, and it takes a value where
there is a placeholder and nowhere else. -/
namespace Querywright.Placeholder

/-- What an interpolating driver finds at one place of a text. -/
inductive Directive where
  | itself (character : Char)
  | percent
  | value
deriving DecidableEq, Repr

namespace Directive

/-- A percent sign says something only together with the character behind it. -/
def readAll? : List Char → Option (List Directive)
  | [] => some []
  | '%' :: '%' :: rest => (readAll? rest).map (percent :: ·)
  | '%' :: 's' :: rest => (readAll? rest).map (value :: ·)
  | '%' :: _ => none
  | character :: rest => (readAll? rest).map (itself character :: ·)

def decoded : Directive → Char
  | itself character => character
  | percent => '%'
  | value => '?'

def takesValue : Directive → Bool
  | value => true
  | _ => false

/-- What a scanned character is to the driver. -/
def ofScanned (scanned : Char × Bool) : Directive :=
  if scanned.1 == '%' then percent
  else if isPlaceholder scanned then value
  else itself scanned.1

theorem readAll?_itself {character : Char} (plain : character ≠ '%') (rest : List Char) :
    readAll? (character :: rest) = (readAll? rest).map (itself character :: ·) := by
  rw [readAll?.eq_def]
  split <;> simp_all

theorem readAll?_formatted (scanned : Char × Bool) (rest : List Char) :
    readAll? (formatted scanned ++ rest) = (readAll? rest).map (ofScanned scanned :: ·) := by
  unfold formatted ofScanned
  split
  · rfl
  · rename_i plain
    split
    · rfl
    · exact readAll?_itself (by simpa using plain) rest

theorem readAll?_flatMap (row : List (Char × Bool)) :
    readAll? (row.flatMap formatted) = some (row.map ofScanned) := by
  induction row with
  | nil => rfl
  | cons scanned rest ih =>
    rw [List.flatMap_cons, readAll?_formatted, ih]
    rfl

theorem decoded_ofScanned (scanned : Char × Bool) : (ofScanned scanned).decoded = scanned.1 := by
  obtain ⟨character, isQuoted⟩ := scanned
  unfold ofScanned
  split
  · rename_i sign
    exact (beq_iff_eq.mp sign).symm
  · split
    · rename_i open'
      simp only [isPlaceholder, Bool.and_eq_true, beq_iff_eq] at open'
      exact open'.1.symm
    · rfl

theorem takesValue_ofScanned (scanned : Char × Bool) :
    (ofScanned scanned).takesValue = isPlaceholder scanned := by
  obtain ⟨character, isQuoted⟩ := scanned
  unfold ofScanned
  split
  · rename_i sign
    obtain rfl : character = '%' := beq_iff_eq.mp sign
    rfl
  · split
    · rename_i open'
      exact open'.symm
    · rename_i other
      exact (Bool.eq_false_iff.mpr other).symm

end Directive

open Directive

theorem scanFrom_characters (standing : Quoting) (characters : List Char) :
    (scanFrom standing characters).map Prod.fst = characters := by
  induction characters generalizing standing with
  | nil => simp
  | cons character rest ih => simp [ih]

/-- A driver that interpolates reads every statement in its style to the end. Its directives spell
the statement as it was written, character by character, and the ones that take a value are the
placeholders, each in its place. A driver that knows question marks gets the statement as it is. -/
theorem interpolation_restores (style : PlaceholderStyle) (text : String) :
    if style = .questionMark then inStyle style text = text
    else ∃ directives, readAll? (inStyle style text).toList = some directives ∧
      directives.map decoded = text.toList ∧
      directives.map takesValue = (scan text).map isPlaceholder ∧
      directives.countP takesValue = count text := by
  have formatted' (interpolated : inStyle style text = String.ofList ((scan text).flatMap formatted)) :
      ∃ directives, readAll? (inStyle style text).toList = some directives ∧
        directives.map decoded = text.toList ∧
        directives.map takesValue = (scan text).map isPlaceholder ∧
        directives.countP takesValue = count text := by
    refine ⟨(scan text).map ofScanned, ?_, ?_, ?_, ?_⟩
    · rw [interpolated, String.toList_ofList, readAll?_flatMap]
    · calc ((scan text).map ofScanned).map decoded
          = (scan text).map Prod.fst := by
            rw [List.map_map]
            exact List.map_congr_left fun scanned _ => decoded_ofScanned scanned
        _ = text.toList := scanFrom_characters .outside text.toList
    · rw [List.map_map]
      exact List.map_congr_left fun scanned _ => takesValue_ofScanned scanned
    · rw [List.countP_map]
      exact List.countP_congr fun scanned _ => by simp [takesValue_ofScanned]
  cases style with
  | questionMark => rfl
  | format => exact formatted' rfl
  | extendedFormat => exact formatted' rfl

example : inStyle .format "a LIKE '?%' AND b = ?" = "a LIKE '?%%' AND b = %s" := by
  cbv

end Querywright.Placeholder
