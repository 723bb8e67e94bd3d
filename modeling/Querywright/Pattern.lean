import Querywright.Error
import Querywright.Text.Cut

/-! Patterns with an open place for a column. Doubled braces stand for single ones; a name between
single braces is replaced by what it names, and nothing but the column has a name. -/
namespace Querywright.Pattern

def malformed {α : Type} : Except Error α :=
  .error (.misuse .malformedPattern)

def endsName (character : Char) : Bool :=
  character == '.' || character == '[' || character == '!' || character == ':'

def columnText (column : String) (suffix : List Char) : Except Error String :=
  match suffix with
  | [] | ['!', 's'] | [':'] => .ok column
  | ['!', 'r'] => .ok (Text.quoted column)
  | '.' :: _ => .error (.misuse (.noSuchOperation (String.ofList (suffix.drop 1))))
  | _ => malformed

/-- What is written for a place; a number or nothing at all names a place in a row that is
empty. -/
def placeText (column : String) (place : List Char) : Except Error String :=
  let name := place.takeWhile (!endsName ·)
  if place.contains '\x7b' then malformed
  else if name.all Char.isDigit then .error (.misuse .rowTooShort)
  else if String.ofList name == "column" then columnText column (place.dropWhile (!endsName ·))
  else .error (.misuse (.unknownName (String.ofList name)))

/-- `place` holds what has been read since an opening brace, the last character first. -/
def fillFrom (column : String) : Option (List Char) → List Char → Except Error (List Char)
  | none, [] => .ok []
  | some _, [] => malformed
  | none, '\x7b' :: '\x7b' :: rest => (fillFrom column none rest).map ('\x7b' :: ·)
  | none, '\x7d' :: '\x7d' :: rest => (fillFrom column none rest).map ('\x7d' :: ·)
  | none, '\x7b' :: rest => fillFrom column (some []) rest
  | none, '\x7d' :: _ => malformed
  | none, character :: rest => (fillFrom column none rest).map (character :: ·)
  | some place, '\x7d' :: rest => do
    let text ← placeText column place.reverse
    let others ← fillFrom column none rest
    return text.toList ++ others
  | some place, character :: rest => fillFrom column (some (character :: place)) rest

def fill (pattern column : String) : Except Error String :=
  (fillFrom column none pattern.toList).map String.ofList

end Querywright.Pattern
