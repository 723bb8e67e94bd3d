/-! Question marks as placeholders. A statement text is scanned once from left to right: a mark
inside a quoted literal or a backquoted name is no placeholder. Drivers that interpolate with the
percent sign receive a text in their own style. -/
namespace Querywright

inductive PlaceholderStyle where
  | questionMark
  | format
  | extendedFormat
deriving DecidableEq, Repr

def PlaceholderStyle.ofName? : String → Option PlaceholderStyle
  | "qmark" => some .questionMark
  | "format" => some .format
  | "pyformat" => some .extendedFormat
  | _ => none

def PlaceholderStyle.name : PlaceholderStyle → String
  | .questionMark => "qmark"
  | .format => "format"
  | .extendedFormat => "pyformat"

namespace Placeholder

def backquote : Char := Char.ofNat 0x60

def isQuote (character : Char) : Bool :=
  character == '\'' || character == '"' || character == backquote

/-- Where a scan stands: outside quotes, inside a pair, or just behind a backslash inside one. -/
inductive Quoting where
  | outside
  | inside (quote : Char)
  | escaped (quote : Char)
deriving DecidableEq, Repr

/-- The next standing and whether the character read belongs to a quoted part. A backslash has
no meaning between backquotes. -/
def step : Quoting → Char → Quoting × Bool
  | .outside, character =>
    if isQuote character then (.inside character, true) else (.outside, false)
  | .escaped quote, _ => (.inside quote, true)
  | .inside quote, character =>
    if character == '\\' && quote != backquote then (.escaped quote, true)
    else if character == quote then (.outside, true)
    else (.inside quote, true)

def scanFrom : Quoting → List Char → List (Char × Bool)
  | _, [] => []
  | standing, character :: rest =>
    let (next, isQuoted) := step standing character
    (character, isQuoted) :: scanFrom next rest

/-- Each character with a flag that tells whether it is quoted. -/
def scan (text : String) : List (Char × Bool) :=
  scanFrom .outside text.toList

def isPlaceholder : Char × Bool → Bool
  | (character, isQuoted) => character == '?' && !isQuoted

def count (text : String) : Nat :=
  (scan text).countP isPlaceholder

/-- What one scanned character becomes for a driver that interpolates. -/
def formatted (scanned : Char × Bool) : List Char :=
  if scanned.1 == '%' then ['%', '%']
  else if isPlaceholder scanned then ['%', 's']
  else [scanned.1]

def inStyle : PlaceholderStyle → String → String
  | .questionMark, text => text
  | _, text => String.ofList ((scan text).flatMap formatted)

def row (width : Nat) : String :=
  ", ".intercalate (List.replicate width "?")

end Placeholder
end Querywright
