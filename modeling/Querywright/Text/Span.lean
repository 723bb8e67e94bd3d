/-! Sets of characters given as ascending closed spans of code points. -/
namespace Querywright.Text

abbrev Span := Nat × Nat

def Span.holds (span : Span) (code : Nat) : Bool :=
  span.1 ≤ code && code ≤ span.2

def inSpans (spans : Array Span) (character : Char) : Bool :=
  spans.any (·.holds character.toNat)

end Querywright.Text
