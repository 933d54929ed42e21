/-!
# Characters of a YAML text

Line breaks of every kind but the two Unicode separators are written alike before a
text is read further, and a text that holds other control characters is refused.
-/

namespace Crosscheck.Yaml

/-- Whether a character may stand in a text: tab, line breaks, and whatever is neither a
control character nor one of the two last code points of the basic plane. -/
def isAllowed (c : Char) : Bool :=
  let n := c.toNat
  n == 0x09 || n == 0x0A || n == 0x0D || (0x20 ≤ n && n ≤ 0x7E) || n == 0x85 ||
    (0xA0 ≤ n && n ≤ 0xFFFD) || 0x10000 ≤ n

/-- A text with a line feed for each carriage return, line feed after it included, and
for each next-line character. -/
def normalizeBreaks : List Char → List Char
  | [] => []
  | '\r' :: '\n' :: rest => '\n' :: normalizeBreaks rest
  | c :: rest =>
    (if c = '\r' || c = '\u0085' then '\n' else c) :: normalizeBreaks rest

/-- The byte order mark, which may stand at the beginning of a line. -/
def byteOrderMark : Char := '\uFEFF'

/-- The characters of a text that is allowed. -/
def characters? (text : String) : Option (List Char) :=
  let cs := text.toList
  if cs.all isAllowed then some (normalizeBreaks cs) else none

/-- A space or a tab. -/
def isBlank (c : Char) : Bool := c == ' ' || c == '\t'

/-- A line break of a normalized text. -/
def isBreak (c : Char) : Bool := c == '\n' || c == '\u2028' || c == '\u2029'

/-- A blank or a line break. -/
def isWhite (c : Char) : Bool := isBlank c || isBreak c

/-- Whether nothing, a blank or a line break comes next. -/
def atWhite : List Char → Bool
  | [] => true
  | c :: _ => isWhite c

/-- Whether nothing or a line break comes next. -/
def atLineEnd : List Char → Bool
  | [] => true
  | c :: _ => isBreak c

/-- A character of the names of anchors, directives and tag handles. -/
def isWordPart (c : Char) : Bool := c.isAlphanum || c == '_' || c == '-'

/-- Drops blanks. -/
def skipBlanks (cs : List Char) : List Char := cs.dropWhile isBlank

/-- Drops what is left of a line if that is a comment. -/
def skipComment : List Char → List Char
  | '#' :: rest => rest.dropWhile (!isBreak ·)
  | cs => cs

/-- The rest after blanks, a comment and the line break, when the line holds no more. -/
def restOfLine? (cs : List Char) : Option (List Char) :=
  match skipComment (skipBlanks cs) with
  | [] => some []
  | c :: rest => if isBreak c then some rest else none

/-- Whether a line that starts here marks the beginning or the end of a document. -/
def atDocumentMark : List Char → Bool
  | '-' :: '-' :: '-' :: rest => atWhite rest
  | '.' :: '.' :: '.' :: rest => atWhite rest
  | _ => false

/-- The number of characters after the last line break. -/
def lastColumn (cs : List Char) : Nat := (cs.reverse.takeWhile (!isBreak ·)).length

/-- White space inside a scalar on more than one line: without a break it stays, a
single line feed becomes a space, and of more breaks the first is dropped. -/
def foldWhite (white : List Char) : List Char :=
  match white.filter isBreak with
  | [] => white
  | ['\n'] => [' ']
  | '\n' :: breaks => breaks
  | breaks => breaks

end Crosscheck.Yaml
