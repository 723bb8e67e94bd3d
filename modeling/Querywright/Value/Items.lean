import Querywright.Error
import Querywright.Value.Elements

/-! Going through a value that must allow it. -/
namespace Querywright

/-- The elements of a value, or the reason why it cannot be gone through. -/
def Value.items (value : Value) : Except Error (List Value) :=
  match value.elements? with
  | some items => .ok items
  | none => .error (.misuse (.notIterable value.kindName))

end Querywright
