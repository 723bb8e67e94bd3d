import Querywright.Text.Span

/-! Blank characters of every script, and the trimming and splitting that follow them. -/
namespace Querywright.Text

def blankSpans : Array Span := #[
  (0x9, 0xD), (0x1C, 0x20), (0x85, 0x85), (0xA0, 0xA0), (0x1680, 0x1680), (0x2000, 0x200A),
  (0x2028, 0x2029), (0x202F, 0x202F), (0x205F, 0x205F), (0x3000, 0x3000)]

def isBlank (character : Char) : Bool :=
  inSpans blankSpans character

def isBlankText (text : String) : Bool :=
  text.toList.all isBlank

def trimWhere (drop : Char → Bool) (characters : List Char) : List Char :=
  ((characters.dropWhile drop).reverse.dropWhile drop).reverse

def trim (text : String) : String :=
  String.ofList (trimWhere isBlank text.toList)

/-- Cuts at every character that `isCut` accepts; neighbouring cuts leave an empty piece. -/
def pieces (isCut : Char → Bool) : List Char → List (List Char)
  | [] => [[]]
  | character :: rest =>
    if isCut character then [] :: pieces isCut rest
    else match pieces isCut rest with
      | [] => [[character]]
      | piece :: others => (character :: piece) :: others

/-- The longest runs of characters that are not blank. -/
def wordLists (characters : List Char) : List (List Char) :=
  (pieces isBlank characters).filter (!·.isEmpty)

def words (text : String) : List String :=
  (wordLists text.toList).map String.ofList

end Querywright.Text
