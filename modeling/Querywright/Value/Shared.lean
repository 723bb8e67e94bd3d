import Querywright.Expression

/-! Values that mention shared places. Settling a value puts in what stands at the places it
mentions. -/
namespace Querywright

mutual

def Value.settle (contents : List Value) : Value → Value
  | .shared place => (contents[place]?).getD .null
  | .list items => .list (Value.settleAll contents items)
  | .tuple items => .tuple (Value.settleAll contents items)
  | .set frozen items => .set frozen (Value.settleAll contents items)
  | .mapping entries => .mapping (Value.settleEntries contents entries)
  | .record name fields => .record name (Value.settleFields contents fields)
  | .holder content => .holder (content.settle contents)
  | other => other

def Value.settleAll (contents : List Value) : List Value → List Value
  | [] => []
  | value :: rest => value.settle contents :: Value.settleAll contents rest

def Value.settleEntries (contents : List Value) : List (Value × Value) → List (Value × Value)
  | [] => []
  | (key, value) :: rest =>
    (key.settle contents, value.settle contents) :: Value.settleEntries contents rest

def Value.settleFields (contents : List Value) : List (String × Value) → List (String × Value)
  | [] => []
  | (name, value) :: rest =>
    (name, value.settle contents) :: Value.settleFields contents rest

end

/-- The contents of all places, each of which mentions none but earlier ones. -/
def settledContents (values : List Value) : List Value :=
  values.foldl (fun settled value => settled ++ [value.settle settled]) []

end Querywright
