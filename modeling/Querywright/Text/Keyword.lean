import Querywright.Text.Blank
import Querywright.Text.Case

/-! Keywords are compared in capitals, with one space between their words. -/
namespace Querywright.Text

def keyword (text : String) : String :=
  " ".intercalate (words (upper text))

end Querywright.Text
