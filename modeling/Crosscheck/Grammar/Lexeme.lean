import Crosscheck.Grammar.Violation
import Crosscheck.Text.CharClass

/-!
# Lexemes

A text is split into numbers, names, operators, parens and commas, each with the
byte offset it starts at. Numbers and names are as long as possible, white space
separates and is dropped, and every minus sign is an operator: whether it belongs
to an argument is for the checker to say.
-/

namespace Crosscheck

open Text

/-- One lexical unit. -/
inductive Lexeme where
  | number (value : Nat)
  | operator (symbol : Char)
  | openParen
  | closeParen
  | comma
  | ident (name : String)
deriving DecidableEq

/-- A lexeme and the byte offset it starts at. -/
structure Located where
  offset : Nat
  lexeme : Lexeme
deriving DecidableEq

/-- The largest number that a literal can denote. -/
def maxLiteral : Nat := 9223372036854775807

/-- The number of bytes of a text in UTF-8. -/
def byteLength : List Char → Nat
  | [] => 0
  | c :: cs => c.utf8Size + byteLength cs

/-- The first piece of a text: white space or a lexeme. -/
structure Piece where
  /-- The characters of the piece. -/
  chars : List Char
  /-- What the piece stands for; white space stands for nothing. -/
  lexeme? : Option Lexeme
  /-- The text after the piece. -/
  rest : List Char

namespace Piece

/-- A piece of one character. -/
def single (c : Char) (lexeme? : Option Lexeme) (rest : List Char) : Piece := ⟨[c], lexeme?, rest⟩

/-- The piece of all characters in front that pass a test, the first one taken for granted. -/
def run (test : Char → Bool) (lexeme : List Char → Lexeme) (c : Char) (rest : List Char) : Piece :=
  ⟨c :: rest.takeWhile test, some (lexeme (c :: rest.takeWhile test)), rest.dropWhile test⟩

/-- The first piece of the text `c :: rest`, which starts at the given offset. -/
def first (offset : Nat) (c : Char) (rest : List Char) : Except Violation Piece :=
  if isWhiteSpace c then .ok (single c none rest)
  else if c = '(' then .ok (single c (some .openParen) rest)
  else if c = ')' then .ok (single c (some .closeParen) rest)
  else if c = ',' then .ok (single c (some .comma) rest)
  else if c.isDigit then
    if readDecimal (c :: rest.takeWhile Char.isDigit) ≤ maxLiteral then
      .ok (run Char.isDigit (fun digits => .number (readDecimal digits)) c rest)
    else .error (.numberOutOfRange offset)
  else if isNameStart c then
    .ok (run isNamePart (fun name => .ident (String.ofList name)) c rest)
  else if isOperatorSymbol c then .ok (single c (some (.operator c)) rest)
  else .error (.unexpectedCharacter c offset)

/-- The first piece and what is after it make up the text. -/
theorem chars_append_rest {offset : Nat} {c : Char} {rest : List Char} {p : Piece}
    (h : first offset c rest = .ok p) : p.chars ++ p.rest = c :: rest := by
  unfold first at h
  repeat' split at h
  all_goals cases h
  all_goals simp [single, run]

/-- A piece has at least one character. -/
theorem chars_ne_nil {offset : Nat} {c : Char} {rest : List Char} {p : Piece}
    (h : first offset c rest = .ok p) : p.chars ≠ [] := by
  unfold first at h
  repeat' split at h
  all_goals cases h
  all_goals simp [single, run]

/-- The text gets shorter with each piece. -/
theorem length_rest_lt {offset : Nat} {c : Char} {rest : List Char} {p : Piece}
    (h : first offset c rest = .ok p) : p.rest.length < (c :: rest).length := by
  rw [← chars_append_rest h, List.length_append]
  have := List.length_pos_iff.mpr (chars_ne_nil h)
  omega

/-- The lexeme of a piece that starts at the given offset. -/
def located (p : Piece) (offset : Nat) : List Located :=
  match p.lexeme? with
  | some lexeme => [⟨offset, lexeme⟩]
  | none => []

end Piece

namespace Lexeme

/-- The lexemes of a text that starts at the given offset. -/
def scan (offset : Nat) : List Char → Except Violation (List Located)
  | [] => .ok []
  | c :: rest =>
    match h : Piece.first offset c rest with
    | .error violation => .error violation
    | .ok p =>
      have := Piece.length_rest_lt h
      (scan (offset + byteLength p.chars) p.rest).map (p.located offset ++ ·)
termination_by cs => cs.length
decreasing_by assumption

/-- The lexemes of a text. -/
def ofText (text : String) : Except Violation (List Located) := scan 0 text.toList

end Lexeme

end Crosscheck
