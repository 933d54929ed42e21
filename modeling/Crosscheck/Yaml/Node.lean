import Crosscheck.Yaml.Token

/-!
# Nodes of a YAML document

The tokens of a text make up a document: a tree of scalars, sequences and mappings, in
which an alias stands for the node that was given the anchor of that name.
-/

namespace Crosscheck.Yaml

/-- A value in a document. -/
inductive Node where
  | scalar (style : ScalarStyle) (tag : Option TagText) (text : String)
  /-- The node with the given anchor number. -/
  | alias (anchor : Nat)
  | sequence (items : List Node)
  | mapping (entries : List (Node × Node))

/-- What stands where a node is left out. -/
def Node.absent : Node := .scalar .plain none ""

/-- The anchors met so far. The number of an anchor is how many names were anchored before
it. A name that is anchored again takes a new number, and of the nodes with one number the
one that starts last counts. -/
structure Anchors where
  /-- The names with their numbers, the latest first. -/
  numbers : List (String × Nat) := []
  /-- Nodes by the rank of their anchor: how many were met before it. -/
  nodes : List (Nat × Node) := []

namespace Anchors

/-- The number of names that have been anchored. -/
def count (a : Anchors) : Nat := (a.numbers.map Prod.fst).eraseDups.length

/-- Numbers an anchor, and yields its rank. -/
def add (a : Anchors) : Option String → Anchors × Option Nat
  | none => (a, none)
  | some name => ({ a with numbers := (name, a.count) :: a.numbers }, some a.numbers.length)

/-- Gives the anchor of a rank its node. -/
def define (a : Anchors) (n : Node) : Option Nat → Anchors
  | none => a
  | some rank => { a with nodes := (rank, n) :: a.nodes }

/-- The node that an alias with the given number stands for. -/
def node? (a : Anchors) (number : Nat) : Option Node :=
  let later := a.numbers.takeWhile (·.2 != number)
  a.nodes.lookup (a.numbers.length - later.length - 1)

end Anchors

/-- The state in which nodes are read. -/
structure NodeState where
  anchors : Anchors := {}
  rest : List Token

namespace Node

/-- Full text of a tag, given the handles that are defined; an empty handle stands for no
expansion. -/
def expandTag (handles : List (String × TagText)) (handle : String) (suffix : TagText) :
    Option TagText :=
  if handle.isEmpty then some suffix
  else (handles.lookup handle).map (· ++ suffix)

/-- What may stand in front of a node: an anchor and a tag, in either order. -/
structure Properties where
  anchor : Option String := none
  tag : Option (String × TagText) := none

/-- Splits off the properties of a node. -/
def properties : List Token → Properties × List Token
  | .anchor name :: .tag handle suffix :: rest => (⟨some name, some (handle, suffix)⟩, rest)
  | .tag handle suffix :: .anchor name :: rest => (⟨some name, some (handle, suffix)⟩, rest)
  | .anchor name :: rest => (⟨some name, none⟩, rest)
  | .tag handle suffix :: rest => (⟨none, some (handle, suffix)⟩, rest)
  | rest => ({}, rest)

mutual

/-- Reads a node. Blocks may begin in block context only, and a sequence without
indentation of its own only as part of a mapping. -/
def read (handles : List (String × TagText)) (block indentless : Bool) :
    (fuel : Nat) → NodeState → Option (Node × NodeState)
  | 0, _ => none
  | fuel + 1, ⟨anchors, ts⟩ =>
    match ts with
    | .alias name :: rest => do some (.alias (← anchors.numbers.lookup name), ⟨anchors, rest⟩)
    | _ => do
      let (properties, rest) := properties ts
      let tag ← match properties.tag with
        | none => some none
        | some (handle, suffix) => (expandTag handles handle suffix).map some
      let (anchors, rank) := anchors.add properties.anchor
      let s : NodeState := ⟨anchors, rest⟩
      let (node, s) ← match rest with
        | .scalar style text :: rest =>
          some (Node.scalar style tag text, ⟨anchors, rest⟩)
        | .flowSequenceStart :: rest => do
          let (items, s) ← readFlowItems handles true fuel ⟨anchors, rest⟩
          some (.sequence items, s)
        | .flowMappingStart :: rest => do
          let (entries, s) ← readFlowEntries handles true fuel ⟨anchors, rest⟩
          some (.mapping entries, s)
        | .blockEntry :: _ =>
          if indentless then do
            let (items, s) ← readItems handles false fuel s
            some (.sequence items, s)
          else if properties.anchor.isSome || tag.isSome then
            some (.scalar .plain tag "", s)
          else none
        | .blockSequenceStart :: rest =>
          if block then do
            let (items, s) ← readItems handles true fuel ⟨anchors, rest⟩
            some (.sequence items, s)
          else if properties.anchor.isSome || tag.isSome then
            some (.scalar .plain tag "", s)
          else none
        | .blockMappingStart :: rest =>
          if block then do
            let (entries, s) ← readEntries handles fuel ⟨anchors, rest⟩
            some (.mapping entries, s)
          else if properties.anchor.isSome || tag.isSome then
            some (.scalar .plain tag "", s)
          else none
        | _ =>
          if properties.anchor.isSome || tag.isSome then some (.scalar .plain tag "", s)
          else none
      some (node, { s with anchors := s.anchors.define node rank })

/-- Reads a node unless one of the given tokens stands in its place. -/
def readUnless (handles : List (String × TagText)) (stops : List Token) (block : Bool)
    (indentless : Bool) : (fuel : Nat) → NodeState → Option (Node × NodeState)
  | 0, _ => none
  | fuel + 1, s =>
    if s.rest.head?.any stops.contains then some (absent, s)
    else read handles block indentless fuel s

/-- Reads the entries of a block sequence. Only one with indentation of its own has an end
of its own. -/
def readItems (handles : List (String × TagText)) (indented : Bool) :
    (fuel : Nat) → NodeState → Option (List Node × NodeState)
  | 0, _ => none
  | fuel + 1, s =>
    match s.rest with
    | .blockEntry :: rest => do
      let stops := if indented then [.blockEntry, .blockEnd]
        else [.blockEntry, .key, .value, .blockEnd]
      let (item, s) ← readUnless handles stops true false fuel { s with rest }
      let (items, s) ← readItems handles indented fuel s
      some (item :: items, s)
    | .blockEnd :: rest => some ([], if indented then { s with rest } else s)
    | _ => if indented then none else some ([], s)

/-- Reads the entries of a block mapping. -/
def readEntries (handles : List (String × TagText)) :
    (fuel : Nat) → NodeState → Option (List (Node × Node) × NodeState)
  | 0, _ => none
  | fuel + 1, s =>
    match s.rest with
    | .key :: rest => do
      let (key, s) ← readUnless handles [.key, .value, .blockEnd] true true fuel { s with rest }
      let (value, s) ← match s.rest with
        | .value :: rest =>
          readUnless handles [.key, .value, .blockEnd] true true fuel { s with rest }
        | _ => some (absent, s)
      let (entries, s) ← readEntries handles fuel s
      some ((key, value) :: entries, s)
    | .blockEnd :: rest => some ([], { s with rest })
    | _ => none

/-- Reads the items of a flow sequence. A single pair without braces is a mapping; when
its key is left out, the token after it goes too. -/
def readFlowItems (handles : List (String × TagText)) (first : Bool) :
    (fuel : Nat) → NodeState → Option (List Node × NodeState)
  | 0, _ => none
  | fuel + 1, s =>
    let next : Option (List Token) := match first, s.rest with
      | true, rest => some rest
      | false, .flowSequenceEnd :: rest => some (.flowSequenceEnd :: rest)
      | false, .flowEntry :: rest => some rest
      | false, _ => none
    match next with
    | none => none
    | some (.flowSequenceEnd :: rest) => some ([], { s with rest })
    | some (.key :: rest) => do
      let (key, s) ←
        if rest.head?.any [Token.value, .flowEntry, .flowSequenceEnd].contains then
          some (absent, { s with rest := rest.drop 1 })
        else read handles false false fuel { s with rest }
      let (value, s) ← match s.rest with
        | .value :: rest =>
          readUnless handles [.flowEntry, .flowSequenceEnd] false false fuel { s with rest }
        | _ => some (absent, s)
      let (items, s) ← readFlowItems handles false fuel s
      some (.mapping [(key, value)] :: items, s)
    | some rest => do
      let (item, s) ← read handles false false fuel { s with rest }
      let (items, s) ← readFlowItems handles false fuel s
      some (item :: items, s)

/-- Reads the entries of a flow mapping. -/
def readFlowEntries (handles : List (String × TagText)) (first : Bool) :
    (fuel : Nat) → NodeState → Option (List (Node × Node) × NodeState)
  | 0, _ => none
  | fuel + 1, s =>
    let next : Option (List Token) := match first, s.rest with
      | true, rest => some rest
      | false, .flowMappingEnd :: rest => some (.flowMappingEnd :: rest)
      | false, .flowEntry :: rest => some rest
      | false, _ => none
    match next with
    | none => none
    | some (.flowMappingEnd :: rest) => some ([], { s with rest })
    | some (.key :: rest) => do
      let (key, s) ← readUnless handles [.value, .flowEntry, .flowMappingEnd] false false fuel
        { s with rest }
      let (value, s) ← match s.rest with
        | .value :: rest =>
          readUnless handles [.flowEntry, .flowMappingEnd] false false fuel { s with rest }
        | _ => some (absent, s)
      let (entries, s) ← readFlowEntries handles false fuel s
      some ((key, value) :: entries, s)
    | some rest => do
      let (key, s) ← read handles false false fuel { s with rest }
      let (entries, s) ← readFlowEntries handles false fuel s
      some ((key, absent) :: entries, s)

end

end Node

/-- A document: its root, and the anchors that tell what aliases stand for. -/
structure Document where
  root : Node
  anchors : Anchors

namespace Document

/-- The tag handles that need no directive. -/
def defaultHandles : List (String × TagText) :=
  [("!", .ofString "!"), ("!!", .ofString "tag:yaml.org,2002:")]

/-- Whether a token is a directive. -/
def isDirective : Token → Bool
  | .versionDirective .. | .tagDirective .. => true
  | _ => false

/-- The tag handles that directives define. There may be one version, which must be 1.1 or
1.2, and each handle may be defined once. -/
def readDirectives (versioned : Bool) (handles : List (String × TagText)) :
    List Token → Option (List (String × TagText))
  | .versionDirective major minor :: rest =>
    if versioned || major != 1 || (minor != 1 && minor != 2) then none
    else readDirectives true handles rest
  | .tagDirective handle expansion :: rest =>
    if (handles.lookup handle).isSome then none
    else readDirectives versioned ((handle, expansion) :: handles) rest
  | _ => some handles

/-- Reads the root of a document and makes sure that nothing comes after it. -/
def readRoot (handles : List (String × TagText)) (ts : List Token) : Option Document := do
  let (root, s) ←
    Node.read (handles ++ defaultHandles) true false (4 * ts.length + 8) ⟨{}, ts⟩
  if s.rest.all (· == .documentEnd) then some ⟨root, s.anchors⟩ else none

/-- The only document of a text; there is none in a text without tokens. -/
def ofTokens? (ts : List Token) : Option (Option Document) := do
  let directives := ts.takeWhile isDirective
  let rest := ts.dropWhile isDirective
  let handles ← readDirectives false [] directives
  match rest with
  | .documentStart :: body =>
    match body with
    | [] | .documentEnd :: _ =>
      if body.all (· == .documentEnd) then some (some ⟨.absent, {}⟩) else none
    | _ => (readRoot handles body).map some
  | [] => if directives.isEmpty then some none else none
  | _ => if directives.isEmpty then (readRoot handles rest).map some else none

/-- The only document of a text. -/
def ofText? (text : String) : Option (Option Document) := do ofTokens? (← Token.ofText? text)

/-- A node, or what it is an alias for. -/
def resolve (d : Document) : Node → Option Node
  | .alias anchor => d.anchors.node? anchor
  | n => some n

end Document

end Crosscheck.Yaml
