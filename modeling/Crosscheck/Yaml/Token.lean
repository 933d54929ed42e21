import Crosscheck.Text.Utf8
import Crosscheck.Yaml.Scalar

/-!
# Tokens of a YAML text

A text is cut into tokens from left to right. Indentation turns into tokens that open and
close blocks. Whatever could be a key is remembered until a colon on the same line and
within 1024 bytes shows that it was one; then the token of the key, and of the block
mapping that it opens, are put in front of it.
-/

namespace Crosscheck.Yaml

/-- The bytes of a tag. They need not make up text, since any of them may be written as an
escape, and none of them is zero. -/
abbrev TagText := List UInt8

/-- The bytes of a tag that is text. -/
def TagText.ofString (s : String) : TagText := s.toUTF8.toList

/-- The units that nodes are made of. -/
inductive Token where
  | versionDirective (major minor : Nat)
  | tagDirective (handle : String) (expansion : TagText)
  | documentStart
  | documentEnd
  | blockSequenceStart
  | blockMappingStart
  | blockEnd
  | flowSequenceStart
  | flowSequenceEnd
  | flowMappingStart
  | flowMappingEnd
  | blockEntry
  | flowEntry
  | key
  | value
  | alias (name : String)
  | anchor (name : String)
  | tag (handle : String) (suffix : TagText)
  | scalar (style : ScalarStyle) (text : String)
deriving DecidableEq

/-- A place in the text. -/
structure Mark where
  /-- The number of bytes before it. -/
  offset : Nat := 0
  line : Nat := 0
  column : Nat := 0
deriving DecidableEq

/-- The place after a character. -/
def Mark.after (m : Mark) (c : Char) : Mark :=
  let offset := m.offset + c.utf8Size
  if isBreak c then ⟨offset, m.line + 1, 0⟩ else ⟨offset, m.line, m.column + 1⟩

/-- A token that may turn out to be a key. -/
structure KeyCandidate where
  /-- The number of tokens before it. -/
  position : Nat
  mark : Mark
  /-- Whether nothing but a key can stand there. -/
  required : Bool
deriving DecidableEq

/-- The reader between two tokens. -/
structure Layout where
  mark : Mark := {}
  tokens : Array Token := #[]
  /-- The candidate of each open flow collection, the innermost first, and last that of
  the block context. -/
  candidates : List (Option KeyCandidate) := [none]
  /-- The column of the innermost block, or -1 outside of blocks. -/
  indent : Int := -1
  /-- The columns of the blocks around it, the innermost first. -/
  outer : List Int := []
  /-- Whether a key may begin here. -/
  keyAllowed : Bool := true

namespace Layout

/-- Whether a flow collection is open. -/
def inFlow (s : Layout) : Bool := 1 < s.candidates.length

/-- Adds a token. -/
def emit (s : Layout) (t : Token) : Layout := { s with tokens := s.tokens.push t }

/-- Puts a token in front of the one at a position. -/
def insert (s : Layout) (position : Nat) (t : Token) : Layout :=
  { s with tokens := s.tokens.insertIdxIfInBounds position t }

/-- Moves over the characters of `cs` up to its final part `rest`. -/
def moveTo (s : Layout) (cs rest : List Char) : Layout :=
  { s with mark := (cs.take (cs.length - rest.length)).foldl Mark.after s.mark }

/-- A candidate that is too far back is none any more; one that had to be a key is an error. -/
def expire (mark : Mark) : Option KeyCandidate → Option (Option KeyCandidate)
  | none => some none
  | some k =>
    if k.mark.line < mark.line || k.mark.offset + 1024 < mark.offset then
      if k.required then none else some none
    else some (some k)

/-- Forgets the candidates that are too far back. -/
def dropExpired (s : Layout) : Option Layout :=
  (s.candidates.mapM (expire s.mark)).map fun candidates => { s with candidates }

/-- The innermost candidate. -/
def candidate (s : Layout) : Option KeyCandidate := s.candidates.head?.join

/-- Replaces the innermost candidate. -/
def setCandidate (s : Layout) (k : Option KeyCandidate) : Layout :=
  { s with candidates := k :: s.candidates.drop 1 }

/-- Forgets the innermost candidate; one that had to be a key is an error. -/
def dropCandidate (s : Layout) : Option Layout :=
  if s.candidate.any (·.required) then none else some (s.setCandidate none)

/-- Remembers that a key may begin here. -/
def saveCandidate (s : Layout) : Option Layout :=
  if s.keyAllowed then
    s.dropCandidate.map fun s => s.setCandidate
      (some ⟨s.tokens.size, s.mark, !s.inFlow && s.indent == s.mark.column⟩)
  else some s

/-- Opens a block if the column is to the right of the innermost one. -/
def openBlock (s : Layout) (column : Nat) (add : Layout → Layout) : Layout :=
  if !s.inFlow && s.indent < column then
    add { s with indent := column, outer := s.indent :: s.outer }
  else s

/-- How many of the blocks are to the right of a column, and those that are left. -/
def blocksBeyond (column indent : Int) : List Int → Nat × Int × List Int
  | [] => (0, indent, [])
  | next :: outer =>
    if column < indent then
      let (count, left) := blocksBeyond column next outer
      (count + 1, left)
    else (0, indent, next :: outer)

/-- Closes the blocks to the right of a column. -/
def closeBlocks (s : Layout) (column : Int) : Layout :=
  if s.inFlow then s
  else
    let (count, indent, outer) := blocksBeyond column s.indent s.outer
    { s with indent, outer, tokens := s.tokens ++ Array.replicate count .blockEnd }

/-! ### Directives, anchors and tags -/

/-- A run of one to nine digits. -/
def readVersionNumber (cs : List Char) : Option (Nat × List Char) :=
  let digits := cs.takeWhile Char.isDigit
  if digits.isEmpty || 9 < digits.length then none
  else some (digits.foldl (fun n c => 10 * n + (c.toNat - 48)) 0, cs.dropWhile Char.isDigit)

/-- A tag handle: an exclamation mark, a word, and another mark. As part of a tag the
second one may be missing; in a directive only when the word is missing too. -/
def readTagHandle (directive : Bool) : List Char → Option (List Char × List Char)
  | '!' :: rest =>
    let word := rest.takeWhile isWordPart
    match rest.dropWhile isWordPart with
    | '!' :: rest => some ('!' :: word ++ ['!'], rest)
    | rest => if directive && !word.isEmpty then none else some ('!' :: word, rest)
  | _ => none

/-- Whether a character may stand in a tag; flow indicators only in one that is verbatim
or in a directive. -/
def isTagChar (verbatim : Bool) (c : Char) : Bool :=
  isWordPart c ||
    ";/?:@&=+$.%!~*'()".toList.contains c || (verbatim && [',', '[', ']'].contains c)

/-- The number of bytes in a character of UTF-8 that begins with the given one, judged by
its high bits alone. -/
def escapeLength? (b : UInt8) : Option Nat :=
  if b < 0x80 then some 1
  else if b < 0xC0 then none
  else if b < 0xE0 then some 2
  else if b < 0xF0 then some 3
  else if b < 0xF8 then some 4
  else none

/-- The bytes written in a tag. A percent sign stands before two hexadecimal digits, and the
first of the bytes written so tells how many are to follow; `missing` of them still are. -/
def tagBytes (missing : Nat) : List Char → Option (List UInt8)
  | [] => if missing = 0 then some [] else none
  | '%' :: a :: b :: rest => do
    let byte := UInt8.ofNat (← readHex [a, b])
    if missing = 0 then
      some (byte :: (← tagBytes ((← escapeLength? byte) - 1) rest))
    else if Text.isContinuation byte then some (byte :: (← tagBytes (missing - 1) rest))
    else none
  | c :: rest =>
    if c = '%' || missing ≠ 0 then none
    else (tagBytes 0 rest).map (c.toNat.toUInt8 :: ·)

/-- The text of a tag after `head`, and what follows it. It ends before a zero byte, and
there is none without a character. -/
def readTagText (verbatim : Bool) (head cs : List Char) : Option (TagText × List Char) := do
  let written := head ++ cs.takeWhile (isTagChar verbatim)
  if written.isEmpty then none
  else some ((← tagBytes 0 written).takeWhile (· != 0), cs.dropWhile (isTagChar verbatim))

/-- A directive, from after its percent sign to the end of its line. -/
def readDirective (cs : List Char) : Option (Token × List Char) := do
  let name := cs.takeWhile isWordPart
  let rest := cs.dropWhile isWordPart
  if !atWhite rest then none
  else if name = ['Y', 'A', 'M', 'L'] then
    match ← readVersionNumber (skipBlanks rest) with
    | (major, '.' :: rest) =>
      let (minor, rest) ← readVersionNumber rest
      some (.versionDirective major minor, ← restOfLine? rest)
    | _ => none
  else if name = ['T', 'A', 'G'] then
    let (handle, rest) ← readTagHandle true (skipBlanks rest)
    if !rest.head?.any isBlank then none
    else
      let (expansion, rest) ← readTagText true [] (skipBlanks rest)
      if !atWhite rest then none
      else some (.tagDirective (String.ofList handle) expansion, ← restOfLine? rest)
  else none

/-- The name of an anchor or alias. It ends at white space or at a character that cannot
be taken for a part of it. -/
def readAnchorName (cs : List Char) : Option (String × List Char) :=
  let name := cs.takeWhile isWordPart
  let rest := cs.dropWhile isWordPart
  if name.isEmpty then none
  else if atWhite rest || rest.head?.any (['?', ':', ',', ']', '}', '%', '@', '`'].contains ·) then
    some (String.ofList name, rest)
  else none

/-- A tag, from its exclamation mark on. What looks like a handle but lacks the second mark
is the beginning of the tag's text. -/
def readTag (flow : Bool) (cs : List Char) : Option (Token × List Char) := do
  let (token, rest) ← match cs with
    | '!' :: '<' :: rest => do
      match ← readTagText true [] rest with
      | (text, '>' :: rest) => some (Token.tag "" text, rest)
      | _ => none
    | _ => do
      let (handle, rest) ← readTagHandle false cs
      if 1 < handle.length && handle.getLast? = some '!' then
        let (suffix, rest) ← readTagText false [] rest
        some (Token.tag (String.ofList handle) suffix, rest)
      else
        let (text, rest) ← readTagText false handle rest
        let suffix := text.drop 1
        some (if suffix.isEmpty then Token.tag "" text else Token.tag "!" suffix, rest)
  if atWhite rest || (flow && rest.head? = some ',') then some (token, rest) else none

/-! ### Tokens -/

/-- Adds a token made of the next characters, after which a key may not begin. -/
def single (s : Layout) (t : Token) (cs rest : List Char) : Layout × List Char :=
  ({ s.moveTo cs rest with keyAllowed := false }.emit t, rest)

/-- A token between documents: all blocks end. -/
def betweenDocuments (s : Layout) (t : Token) (cs rest : List Char) :
    Option (Layout × List Char) := do
  let s ← (s.closeBlocks (-1)).dropCandidate
  some (s.single t cs rest)

/-- The start of a flow collection. -/
def openFlow (s : Layout) (t : Token) (cs rest : List Char) : Option (Layout × List Char) := do
  let s ← s.saveCandidate
  let (s, rest) := s.single t cs rest
  some ({ s with candidates := none :: s.candidates, keyAllowed := true }, rest)

/-- The end of a flow collection. -/
def closeFlow (s : Layout) (t : Token) (cs rest : List Char) : Option (Layout × List Char) := do
  let s ← s.dropCandidate
  let s := if s.inFlow then { s with candidates := s.candidates.drop 1 } else s
  some (s.single t cs rest)

/-- An indicator in front of an entry or a key: in block context it may open a block. -/
def indicator (s : Layout) (t opening : Token) (keyAfter : Bool) (cs rest : List Char) :
    Option (Layout × List Char) := do
  if !s.inFlow && !s.keyAllowed then none
  else
    let s ← (s.openBlock s.mark.column (·.emit opening)).dropCandidate
    let (s, rest) := s.single t cs rest
    some ({ s with keyAllowed := keyAfter }, rest)

/-- A colon after a key. The innermost candidate, if there is one, was that key. -/
def colon (s : Layout) (cs rest : List Char) : Option (Layout × List Char) :=
  match s.candidate with
  | some k =>
    let s := s.insert k.position .key
    let s := s.openBlock k.mark.column (·.insert k.position .blockMappingStart)
    some ((s.setCandidate none).single .value cs rest)
  | none =>
    if !s.inFlow && !s.keyAllowed then none
    else
      let s := s.openBlock s.mark.column (·.emit .blockMappingStart)
      let (s, rest) := s.single .value cs rest
      some ({ s with keyAllowed := !s.inFlow }, rest)

/-- A block scalar. -/
def block (s : Layout) (fold : Bool) (cs rest : List Char) : Option (Layout × List Char) := do
  let s ← s.dropCandidate
  let (text, rest) ← readBlock fold s.indent rest
  let style := if fold then ScalarStyle.folded else .literal
  let (s, rest) := s.single (.scalar style (String.ofList text)) cs rest
  some ({ s with keyAllowed := true }, rest)

/-- A quoted scalar. -/
def quotedScalar (s : Layout) (double : Bool) (cs rest : List Char) :
    Option (Layout × List Char) := do
  let s ← s.saveCandidate
  let (text, rest) ← readQuoted double 0 {} rest
  let style := if double then ScalarStyle.doubleQuoted else .singleQuoted
  some (s.single (.scalar style (String.ofList text)) cs rest)

/-- A plain scalar. After one that ends on an earlier line a key may begin. -/
def plainScalar (s : Layout) (cs : List Char) : Option (Layout × List Char) := do
  let s ← s.saveCandidate
  let (text, broken, rest) ← readPlain s.inFlow (s.indent + 1) [] cs
  let (s, rest) := s.single (.scalar .plain (String.ofList text)) cs rest
  some ({ s with keyAllowed := broken }, rest)

/-- Whether a plain scalar may begin with a character. -/
def startsPlain (flow : Bool) (c : Char) (rest : List Char) : Bool :=
  if c == '-' then !rest.head?.any isBlank
  else if c == '?' || c == ':' then !flow && !atWhite rest
  else !isWhite c && !"-?:,[]\x7b\x7d#&*!|>'\"%@`".toList.contains c

/-- Reads one token. -/
def readToken (s : Layout) (cs : List Char) : Option (Layout × List Char) := do
  let s ← s.dropExpired
  let s := s.closeBlocks s.mark.column
  match cs with
  | [] => none
  | c :: rest =>
    let indicates := s.inFlow || atWhite rest
    if s.mark.column = 0 && c = '%' then
      let (t, rest) ← readDirective rest
      s.betweenDocuments t cs rest
    else if s.mark.column = 0 && atDocumentMark cs then
      s.betweenDocuments (if c = '-' then .documentStart else .documentEnd) cs (cs.drop 3)
    else if c = '[' then s.openFlow .flowSequenceStart cs rest
    else if c = '\x7b' then s.openFlow .flowMappingStart cs rest
    else if c = ']' then s.closeFlow .flowSequenceEnd cs rest
    else if c = '\x7d' then s.closeFlow .flowMappingEnd cs rest
    else if c = ',' then
      let (s, rest) := (← s.dropCandidate).single .flowEntry cs rest
      some ({ s with keyAllowed := true }, rest)
    else if c = '-' && atWhite rest then
      s.indicator .blockEntry .blockSequenceStart true cs rest
    else if c = '?' && indicates then s.indicator .key .blockMappingStart (!s.inFlow) cs rest
    else if c = ':' && indicates then s.colon cs rest
    else if c = '*' then
      let (name, rest) ← readAnchorName rest
      some ((← s.saveCandidate).single (.alias name) cs rest)
    else if c = '&' then
      let (name, rest) ← readAnchorName rest
      some ((← s.saveCandidate).single (.anchor name) cs rest)
    else if c = '!' then
      let (t, rest) ← readTag s.inFlow cs
      some ((← s.saveCandidate).single t cs rest)
    else if c = '|' && !s.inFlow then s.block false cs rest
    else if c = '>' && !s.inFlow then s.block true cs rest
    else if c = '\'' then s.quotedScalar false cs rest
    else if c = '"' then s.quotedScalar true cs rest
    else if startsPlain s.inFlow c rest then s.plainScalar cs
    else none

/-- Reads a blank, a comment, a line break or a token. A tab is blank only where no key
may begin, and a byte order mark at the beginning of a line, where it takes up a column. -/
def readNext (s : Layout) (c : Char) (rest : List Char) : Option (Layout × List Char) :=
  if c = ' ' || (c = byteOrderMark && s.mark.column = 0) ||
      (c = '\t' && (s.inFlow || !s.keyAllowed)) then
    some (s.moveTo (c :: rest) rest, rest)
  else if c = '#' then
    let after := skipComment (c :: rest)
    some (s.moveTo (c :: rest) after, after)
  else if isBreak c then
    let s := s.moveTo (c :: rest) rest
    some ({ s with keyAllowed := s.keyAllowed || !s.inFlow }, rest)
  else s.readToken (c :: rest)

/-- Reads to the end of the text, the next `skip` characters having been read already. -/
def readAll (skip : Nat) (s : Layout) : List Char → Option Layout
  | [] => do ((← s.dropExpired).closeBlocks (-1)).dropCandidate
  | c :: rest =>
    match skip with
    | skip + 1 => readAll skip s rest
    | 0 =>
      match s.readNext c rest with
      | none => none
      | some (s, after) => readAll (rest.length - after.length) s rest

end Layout

/-- The tokens of a text, if it can be cut into tokens. -/
def Token.ofText? (text : String) : Option (List Token) := do
  let s ← Layout.readAll 0 {} (← characters? text)
  some s.tokens.toList

end Crosscheck.Yaml
