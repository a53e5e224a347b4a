/-!
# Parts of a text

A text is cut at the copies of a character, which belong to none of the parts. There is one part
more than there are copies, so a text without any is its only part.
-/

namespace Lineation.Text

/-- The parts of a text between the copies of a character. -/
def split (c : Char) (text : String) : List String :=
  (text.toList.splitOn c).map String.ofList

end Lineation.Text
