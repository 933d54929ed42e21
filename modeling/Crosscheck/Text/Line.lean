import Crosscheck.Text.CharClass

/-!
# Lines and words

Cutting text at white space: trimming both ends, splitting into lines and words,
and the last line with something on it.
-/

namespace Crosscheck.Text

/-- Drops white space from the end. -/
def trimEnd (cs : List Char) : List Char := (cs.reverse.dropWhile isWhiteSpace).reverse

/-- Drops white space from both ends. -/
def trim (cs : List Char) : List Char := trimEnd (cs.dropWhile isWhiteSpace)

/-- The pieces between the characters that satisfy a test; there is at least one. -/
def splitAtEach (p : Char → Bool) : List Char → List (List Char)
  | [] => [[]]
  | c :: cs =>
    if p c then [] :: splitAtEach p cs
    else
      match splitAtEach p cs with
      | [] => [[c]]
      | piece :: pieces => (c :: piece) :: pieces

/-- The words of a text: the non-empty pieces between white space. -/
def words (cs : List Char) : List (List Char) :=
  (splitAtEach isWhiteSpace cs).filter (!·.isEmpty)

/-- The last line that is not blank, trimmed. Lines end with a line feed; a carriage
return before it is white space and goes with the trimming. -/
def lastLine? (cs : List Char) : Option (List Char) :=
  (((splitAtEach (· == '\n') cs).map trim).filter (!·.isEmpty)).getLast?

end Crosscheck.Text
