/-! Cutting a row of characters in two at a separator, which belongs to neither part. -/
namespace Querywright.Text

/-- The parts before and after the first separator, where there is one. -/
def cutFirst? (separator : Char) : List Char → Option (List Char × List Char)
  | [] => none
  | character :: rest =>
    if character == separator then some ([], rest)
    else (cutFirst? separator rest).map fun (before, after) => (character :: before, after)

/-- The parts before and after the last separator, where there is one. -/
def cutLast? (separator : Char) (characters : List Char) : Option (List Char × List Char) :=
  (cutFirst? separator characters.reverse).map fun (after, before) =>
    (before.reverse, after.reverse)

def beforeFirst (separator : Char) (characters : List Char) : List Char :=
  match cutFirst? separator characters with
  | some (before, _) => before
  | none => characters

def afterFirst (separator : Char) (characters : List Char) : List Char :=
  match cutFirst? separator characters with
  | some (_, after) => after
  | none => []

def afterLast (separator : Char) (characters : List Char) : List Char :=
  match cutLast? separator characters with
  | some (_, after) => after
  | none => characters

end Querywright.Text
