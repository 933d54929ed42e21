import Crosscheck.Yaml.Character

/-!
# Scalars

The five ways to write a scalar: plain, between single or double quotes, and as a block
of lines that are kept or folded. Each reader takes the text from where the scalar
starts and yields the scalar's own text and what comes after it.
-/

namespace Crosscheck.Yaml

/-- How a scalar is written. -/
inductive ScalarStyle where
  | plain
  | singleQuoted
  | doubleQuoted
  | literal
  | folded
deriving DecidableEq

/-! ### Plain scalars -/

/-- Whether a colon and the next character could be meant either way in a flow collection. -/
def isAmbiguousColon (flow : Bool) (c : Char) (rest : List Char) : Bool :=
  flow && c == ':' && rest.head?.any ([',', '?', '[', ']', '{', '}'].contains ·)

/-- Whether a character ends a plain scalar. -/
def endsPlain (flow : Bool) (c : Char) (rest : List Char) : Bool :=
  isWhite c || (c == ':' && atWhite rest) || (flow && [',', '[', ']', '{', '}'].contains c)

/-- The part of a plain scalar up to white space or to its end. -/
def plainPart (flow : Bool) : List Char → Option (List Char × List Char)
  | [] => some ([], [])
  | c :: rest =>
    if isAmbiguousColon flow c rest then none
    else if endsPlain flow c rest then some ([], c :: rest)
    else (plainPart flow rest).map fun (part, rest) => (c :: part, rest)

/-- A part and what comes after it make up the text. -/
theorem length_plainPart {flow : Bool} {cs part rest : List Char}
    (h : plainPart flow cs = some (part, rest)) : part.length + rest.length = cs.length := by
  induction cs generalizing part with
  | nil => simp_all [plainPart]
  | cons c cs ih =>
    rw [plainPart] at h
    split at h
    · cases h
    · split at h
      · cases h
        simp
      · simp only [Option.map_eq_some_iff, Prod.mk.injEq, Prod.exists] at h
        obtain ⟨part', rest', h', rfl, rfl⟩ := h
        have := ih h'
        simp only [List.length_cons]
        omega

/-- Whether a tab stands to the left of the given column in a line after the first. -/
def hasTabBefore (indent : Int) : (column : Option Nat) → List Char → Bool
  | _, [] => false
  | column, c :: rest =>
    if isBreak c then hasTabBefore indent (some 0) rest
    else
      match column with
      | none => hasTabBefore indent none rest
      | some n => (c == '\t' && (n : Int) < indent) || hasTabBefore indent (some (n + 1)) rest

/-- Whether a plain scalar cannot go on after white space: a comment, a document mark, or
in block context a line that is not indented far enough. -/
def stopsPlain (flow : Bool) (indent : Int) (white rest : List Char) : Bool :=
  rest.head? == some '#' ||
    (white.any isBreak &&
      ((!flow && (lastColumn white : Int) < indent) ||
        (lastColumn white == 0 && atDocumentMark rest)))

/-- A plain scalar from a part on, `white` being the white space before that part. Yields
its text, whether white space with a line break comes after it, and what follows. -/
def readPlain (flow : Bool) (indent : Int) (white cs : List Char) :
    Option (List Char × Bool × List Char) :=
  match h : plainPart flow cs with
  | none => none
  | some ([], rest) => some ([], white.any isBreak, rest)
  | some (c :: part, rest) =>
    let next := rest.takeWhile isWhite
    let after := rest.dropWhile isWhite
    let text := foldWhite white ++ c :: part
    if hasTabBefore indent none next then none
    else if stopsPlain flow indent next after then some (text, next.any isBreak, after)
    else
      have : after.length < cs.length := by
        have hpart := length_plainPart h
        have hafter : after.length ≤ rest.length := (List.dropWhile_sublist _).length_le
        simp only [List.length_cons] at hpart
        exact Nat.lt_of_le_of_lt hafter (by omega)
      (readPlain flow indent next after).map fun (more, broken, rest) =>
        (text ++ more, broken, rest)
termination_by cs.length

/-! ### Quoted scalars -/

/-- The number written by hexadecimal digits. -/
def readHex (digits : List Char) : Option Nat :=
  digits.foldlM (fun n c =>
    if c.isDigit then some (16 * n + (c.toNat - 48))
    else if 'a' ≤ c && c ≤ 'f' then some (16 * n + (c.toNat - 87))
    else if 'A' ≤ c && c ≤ 'F' then some (16 * n + (c.toNat - 55))
    else none) 0

/-- The character with a code point written in a fixed number of hexadecimal digits, and
the number of digits and of the letter before them. -/
def readCodePoint (digits : Nat) (cs : List Char) : Option (Char × Nat) := do
  let written := cs.take digits
  if written.length ≠ digits then none
  let n ← readHex written
  if n.isValidChar then some (Char.ofNat n, digits + 1) else none

/-- The character that the text after a backslash stands for, and how many characters
of the text do. -/
def readEscape : List Char → Option (Char × Nat)
  | [] => none
  | c :: rest =>
    match c with
    | '0' => some ('\x00', 1)
    | 'a' => some ('\x07', 1)
    | 'b' => some ('\x08', 1)
    | 't' | '\t' => some ('\t', 1)
    | 'n' => some ('\n', 1)
    | 'v' => some ('\x0B', 1)
    | 'f' => some ('\x0C', 1)
    | 'r' => some ('\r', 1)
    | 'e' => some ('\x1B', 1)
    | ' ' => some (' ', 1)
    | '"' => some ('"', 1)
    | '/' => some ('/', 1)
    | '\\' => some ('\\', 1)
    | 'N' => some ('\u0085', 1)
    | '_' => some ('\u00A0', 1)
    | 'L' => some ('\u2028', 1)
    | 'P' => some ('\u2029', 1)
    | 'x' => readCodePoint 2 rest
    | 'u' => readCodePoint 4 rest
    | 'U' => readCodePoint 8 rest
    | _ => none

/-- The reader of a quoted scalar between two characters. -/
structure QuotedState where
  /-- The text so far, last character first. -/
  text : List Char := []
  /-- The white space since then, last character first. -/
  white : List Char := []
  /-- Whether that white space began with an escaped line break. -/
  escaped : Bool := false

namespace QuotedState

/-- Adds the white space to the text. After an escaped break the further breaks stay. -/
def settle (s : QuotedState) : List Char :=
  let white := s.white.reverse
  let folded := if s.escaped then white.filter isBreak else foldWhite white
  folded.reverse ++ s.text

/-- Whether a line has just begun. -/
def atLineStart (s : QuotedState) : Bool :=
  match s.white with
  | [] => s.escaped
  | c :: _ => isBreak c

end QuotedState

/-- Reads a quoted scalar from after its first quote to after its last one. The next `skip`
characters belong to an escape that has been read. -/
def readQuoted (double : Bool) (skip : Nat) (s : QuotedState) :
    List Char → Option (List Char × List Char)
  | [] => none
  | c :: rest =>
    match skip with
    | skip + 1 => readQuoted double skip s rest
    | 0 =>
      if isWhite c then readQuoted double 0 { s with white := c :: s.white } rest
      else if s.atLineStart && atDocumentMark (c :: rest) then none
      else
        let text := s.settle
        match double, c with
        | true, '"' => some (text.reverse, rest)
        | true, '\\' =>
          if !rest.isEmpty && atLineEnd rest then
            readQuoted double 1 { text, escaped := true } rest
          else
            match readEscape rest with
            | some (c, length) => readQuoted double length { text := c :: text } rest
            | none => none
        | false, '\'' =>
          if rest.head? = some '\'' then readQuoted double 1 { text := '\'' :: text } rest
          else some (text.reverse, rest)
        | _, _ => readQuoted double 0 { text := c :: text } rest

/-! ### Block scalars -/

/-- What happens to the line breaks at the end of a block scalar. -/
inductive Chomping where
  | strip
  | clip
  | keep
deriving DecidableEq

/-- The chomping that a sign stands for. -/
def Chomping.ofSign? : Char → Option Chomping
  | '-' => some .strip
  | '+' => some .keep
  | _ => none

/-- The indentation that a digit asks for, which may not be zero. -/
def readIncrement (cs : List Char) : Option (Nat × List Char) :=
  match cs with
  | [] => some (0, [])
  | c :: rest =>
    if c = '0' then none else if c.isDigit then some (c.toNat - 48, rest) else some (0, cs)

/-- The sign and the digit after the indicator of a block scalar, in either order. -/
def readBlockHeader (cs : List Char) : Option (Chomping × Nat × List Char) := do
  match cs.head?.bind Chomping.ofSign? with
  | some chomping =>
    let (increment, rest) ← readIncrement (cs.drop 1)
    some (chomping, increment, rest)
  | none =>
    let (increment, rest) ← readIncrement cs
    if increment = 0 then some (.clip, 0, rest)
    else
      match rest.head?.bind Chomping.ofSign? with
      | some chomping => some (chomping, increment, rest.drop 1)
      | none => some (.clip, increment, rest)

/-- The empty lines before a line of a block scalar. -/
structure EmptyLines where
  breaks : List Char
  /-- The column reached in the line after them. -/
  column : Nat
  /-- The greatest column reached in any of the lines. -/
  deepest : Nat
  rest : List Char

/-- Reads empty lines and the indentation of the line after them: no more spaces than
`indent`, or all there are when it is zero. A tab may not take part in the indentation. -/
def readEmptyLines (indent column deepest : Nat) : List Char → Option EmptyLines
  | [] => some ⟨[], column, max deepest column, []⟩
  | c :: rest =>
    if (indent = 0 || column < indent) && c = ' ' then
      readEmptyLines indent (column + 1) deepest rest
    else if (indent = 0 || column < indent) && c = '\t' then none
    else if isBreak c then
      (readEmptyLines indent 0 (max deepest column) rest).map fun lines =>
        { lines with breaks := c :: lines.breaks }
    else some ⟨[], column, max deepest column, c :: rest⟩

/-- Reading empty lines makes a text no longer. -/
theorem length_readEmptyLines {indent column deepest : Nat} {cs : List Char} {lines : EmptyLines}
    (h : readEmptyLines indent column deepest cs = some lines) :
    lines.rest.length ≤ cs.length := by
  induction cs generalizing column deepest lines with
  | nil =>
    rw [readEmptyLines] at h
    cases h
    exact Nat.le_refl _
  | cons c cs ih =>
    rw [readEmptyLines] at h
    split at h
    · exact Nat.le_succ_of_le (ih h)
    · split at h
      · cases h
      · split at h
        · obtain ⟨lines', h', rfl⟩ := Option.map_eq_some_iff.mp h
          have hlines := ih h'
          exact Nat.le_succ_of_le hlines
        · cases h
          exact Nat.le_refl _

/-- The line breaks that are left at the end of a block scalar, and what follows it. -/
structure BlockEnd where
  /-- The break of the last line. -/
  last : List Char
  /-- The breaks of the empty lines after it. -/
  empty : List Char
  rest : List Char

/-- Reads the lines of a block scalar. `last` is the break of the line before, `empty` are
those of the empty lines after it, and `blank` tells whether that line began with a blank;
folded lines are joined unless either of them does. -/
def readBlockLines (fold : Bool) (indent : Nat) (last : List Char) (blank : Bool)
    (empty : List Char) (column : Nat) : List Char → Option (List Char × BlockEnd)
  | [] => some ([], ⟨last, empty, []⟩)
  | c :: cs =>
    if column ≠ indent then some ([], ⟨last, empty, c :: cs⟩)
    else
      let joint :=
        if fold && last == ['\n'] && !blank && !isBlank c then
          if empty.isEmpty then [' '] else []
        else last
      let line := (c :: cs).takeWhile (!isBreak ·)
      let after := (c :: cs).dropWhile (!isBreak ·)
      match h : readEmptyLines indent 0 0 (after.drop 1) with
      | none => none
      | some lines =>
        have : lines.rest.length < (c :: cs).length := by
          have hlines := length_readEmptyLines h
          have hafter : after.length ≤ (c :: cs).length := (List.dropWhile_sublist _).length_le
          rw [List.length_drop] at hlines
          rw [List.length_cons] at hafter ⊢
          omega
        (readBlockLines fold indent (after.take 1) (isBlank c) lines.breaks lines.column
          lines.rest).map fun (text, rest) => (joint ++ empty ++ line ++ text, rest)
termination_by cs => cs.length
decreasing_by assumption

/-- Reads a block scalar from after its indicator, inside a block indented by `parent`. -/
def readBlock (fold : Bool) (parent : Int) (cs : List Char) :
    Option (List Char × List Char) := do
  let (chomping, increment, rest) ← readBlockHeader cs
  let rest ← restOfLine? rest
  let asked := if increment = 0 then 0 else ((max parent 0) + increment).toNat
  let lines ← readEmptyLines asked 0 0 rest
  let indent := if asked = 0 then max (max lines.deepest (parent + 1).toNat) 1 else asked
  let (text, final) ← readBlockLines fold indent [] false lines.breaks lines.column lines.rest
  match chomping with
  | .strip => some (text, final.rest)
  | .clip => some (text ++ final.last, final.rest)
  | .keep => some (text ++ final.last ++ final.empty, final.rest)

end Crosscheck.Yaml
