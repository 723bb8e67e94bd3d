import Querywright.Text.Blank
import Querywright.Text.Cut
import Querywright.Text.Percent

/-! Host literals between brackets. A host may be written as eight groups of hexadecimal digits
with one run of zero groups left out and the last two groups in dotted form, or in a versioned
form that begins with a `v`. -/
namespace Querywright.Address

def isHexDigit (character : Char) : Bool :=
  (Text.hexValue? character).isSome

def isAsciiDigit (character : Char) : Bool :=
  '0' ≤ character && character ≤ '9'

def isDottedPart (part : List Char) : Bool :=
  !part.isEmpty && part.length ≤ 3 && part.all isAsciiDigit &&
    (part == ['0'] || part.head? != some '0') &&
    part.foldl (fun value digit => 10 * value + (digit.toNat - '0'.toNat)) 0 ≤ 255

def isDotted (host : List Char) : Bool :=
  let parts := Text.pieces (· == '.') host
  parts.length == 4 && parts.all isDottedPart

def isGroup (group : List Char) : Bool :=
  !group.isEmpty && group.length ≤ 4 && group.all isHexDigit

/-- The groups before and after the run that is left out; an empty group is allowed only at an
outer end, next to that run. -/
def areGroupsAround (before after : List (List Char)) : Bool :=
  let leading := if before == [[]] then [] else before
  let trailing := if after == [[]] then [] else after
  leading.all isGroup && trailing.all isGroup && leading.length + trailing.length < 8

def cutAtEmptyGroup : List (List Char) → Option (List (List Char) × List (List Char))
  | [] | [_] | [_, _] => none
  | first :: second :: rest =>
    if second.isEmpty then some ([first], rest)
    else (cutAtEmptyGroup (second :: rest)).map fun (before, after) => (first :: before, after)

def areGroups (groups : List (List Char)) : Bool :=
  match cutAtEmptyGroup groups with
  | some (before, after) => areGroupsAround before after
  | none => groups.length == 8 && groups.all isGroup

/-- A dotted ending counts as two groups. -/
def expandDotted (groups : List (List Char)) : Option (List (List Char)) :=
  match groups.getLast? with
  | none => some groups
  | some last =>
    if !last.contains '.' then some groups
    else if isDotted last then some (groups.dropLast ++ [['0'], ['0']])
    else none

def isGrouped (host : List Char) : Bool :=
  let groups := Text.pieces (· == ':') host
  3 ≤ groups.length && ((expandDotted groups).map areGroups).getD false

/-- A zone may follow a grouped host behind a single percent sign. -/
def isZoned (host : List Char) : Bool :=
  match Text.cutFirst? '%' host with
  | none => isGrouped host
  | some (inner, zone) => !zone.isEmpty && !zone.contains '%' && isGrouped inner

def isVersioned (host : List Char) : Bool :=
  match Text.cutFirst? '.' (host.drop 1) with
  | none => false
  | some (version, rest) => !version.isEmpty && version.all isHexDigit && !rest.isEmpty

end Querywright.Address
