import Querywright.Placeholder
import Querywright.Value.Items

/-! Statements that are no text. Whatever can be gone through is scanned piece by piece: a piece of
one character counts as that character, any other is neither quote nor placeholder. -/
namespace Querywright.Placeholder

def characterOf (piece : Value) : Char :=
  match piece.asText?.map String.toList with
  | some [character] => character
  | _ => ' '

def scanPieces (pieces : List Value) : List (Char × Bool) :=
  scanFrom .outside (pieces.map characterOf)

def countIn (statement : Value) : Except Error Nat :=
  match statement with
  | .text text => .ok (count text)
  | other => other.items.map fun pieces => (scanPieces pieces).countP isPlaceholder

def formattedPiece (piece : Value × (Char × Bool)) : Except Error String :=
  match piece with
  | (.text text, scanned) =>
    .ok (if text.length == 1 then String.ofList (formatted scanned) else text)
  | (other, _) => .error (.misuse (.notText other.kindName))

/-- A statement as a driver of some style receives it. Where placeholders are rewritten, a text is
put together from its pieces; else it stays as it is. -/
def statementInStyle (style : PlaceholderStyle) (statement : Value) : Except Error Value :=
  match style, statement with
  | style, .text text => .ok (.text (inStyle style text))
  | .questionMark, other => .ok other
  | _, other => do
    let pieces ← other.items
    return .text (String.join (← (pieces.zip (scanPieces pieces)).mapM formattedPiece))

def checkBalance (statement : Value) (given : Nat) : Except Error Unit := do
  let expected ← countIn statement
  if expected == given then return ()
  else throw (.placeholderCount statement.plain expected given)

end Querywright.Placeholder
