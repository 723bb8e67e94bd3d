/-! Looking for one text inside another. -/
namespace Querywright.Text

def occursIn (part : List Char) : List Char → Bool
  | [] => part.isEmpty
  | character :: rest => part.isPrefixOf (character :: rest) || occursIn part rest

def contains (text part : String) : Bool :=
  occursIn part.toList text.toList

end Querywright.Text
