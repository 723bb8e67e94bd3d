import Querywright.Expression.Rendering
import Querywright.Placeholder.Pieces

/-! Values gathered while a statement is put together piece by piece, in the order of their
placeholders. -/
namespace Querywright

structure Gathering where
  values : List Value := []

namespace Gathering

/-- Takes the values of an expression and gives its text; the values stay when there is no
text. -/
def bind (value : Value) (gathering : Gathering) : Except Error String × Gathering :=
  match value with
  | .expression expression =>
    match expression.values with
    | .ok values => (expression.text, ⟨gathering.values ++ values⟩)
    | .error reason => (.error reason, gathering)
  | .mapping _ => (.error (.misuse (.notIterable "method")), gathering)
  | _ => (.error (.misuse (.noSuchOperation "values")), gathering)

/-- Takes values as they are and gives one placeholder for each. -/
def add (values : List Value) (gathering : Gathering) : String × Gathering :=
  (Placeholder.row values.length, ⟨gathering.values ++ values⟩)

/-- A statement of any form needs one value for each of its placeholders. -/
def check (statement : Value) (gathering : Gathering) : Except Error Unit :=
  Placeholder.checkBalance statement gathering.values.length

def perform (name : String) (arguments : List Value) (gathering : Gathering) :
    Except Error Value × Gathering :=
  match name, arguments with
  | "bind", [value] =>
    let (result, after) := gathering.bind value
    (result.map .text, after)
  | "add", values =>
    let (text, after) := gathering.add values
    (.ok (.text text), after)
  | "check", [statement] => ((gathering.check statement).map fun () => .null, gathering)
  | "bind", _ | "check", _ => (.error (.misuse .argumentCount), gathering)
  | name, _ => (.error (.misuse (.noSuchOperation name)), gathering)

end Gathering
end Querywright
