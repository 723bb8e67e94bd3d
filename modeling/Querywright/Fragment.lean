import Querywright.Error
import Querywright.Placeholder

/-! A piece of a statement together with the values of its own placeholders. Pieces are put
together left to right, text with text and values with values, so that each value stays at the
piece that supplied it. -/
namespace Querywright

def PlaceholderStyle.ofValue (name : Value) : Except Error PlaceholderStyle :=
  match name.asText?.bind PlaceholderStyle.ofName? with
  | some style => .ok style
  | none => .error (.unsupportedStyle name.plain)

structure Fragment where
  text : String
  arguments : List Value

namespace Fragment

def plain (text : String) : Fragment :=
  ⟨text, []⟩

/-- The values are asked for before the text, so a failure among them comes first. -/
def bind (arguments : Except Error (List Value)) (text : Except Error String) :
    Except Error Fragment := do
  let values ← arguments
  let written ← text
  return ⟨written, values⟩

def joined (separator : String) (fragments : List Fragment) : Fragment :=
  ⟨separator.intercalate (fragments.map (·.text)), fragments.flatMap (·.arguments)⟩

def spaced : List Fragment → Fragment :=
  joined " "

def listed : List Fragment → Fragment :=
  joined ", "

def surrounded (opening closing : String) (fragment : Fragment) : Fragment :=
  ⟨opening ++ fragment.text ++ closing, fragment.arguments⟩

/-- A statement whose placeholders are as many as its values. -/
def isBalanced (fragment : Fragment) : Bool :=
  Placeholder.count fragment.text == fragment.arguments.length

def checked (fragment : Fragment) : Except Error Fragment :=
  if fragment.isBalanced then .ok fragment
  else .error (.placeholderCount fragment.text (Placeholder.count fragment.text)
    fragment.arguments.length)

end Fragment
end Querywright
