import Crosscheck.Campaign.Basic
import Crosscheck.Yaml.Node
import Crosscheck.Yaml.Number

/-!
# Configuration files

A configuration file is a YAML document whose root is a mapping, as are the parts of the
campaign inside it. Every field is optional; what is left out keeps its default, and keys
that name no field are ignored whatever their value. A field may be given once. A value
that is left out altogether is an empty mapping or an empty sequence.
-/

namespace Crosscheck

open Yaml

namespace Yaml.Document

/-- The tag for integers. -/
def integerTag : TagText := .ofString "tag:yaml.org,2002:int"

/-- The tag for numbers that need not be integers. -/
def numberTag : TagText := .ofString "tag:yaml.org,2002:float"

/-- The tag for no value. -/
def nullTag : TagText := .ofString "tag:yaml.org,2002:null"

/-- The text of a scalar, however it is written. -/
def text? (d : Document) (n : Node) : Option String :=
  match d.resolve n with
  | some (.scalar _ _ text) => some text
  | _ => none

/-- The text of a scalar that may be a number: a plain one, or a literal block with the
tag for such numbers. -/
def numeral? (d : Document) (tag : TagText) (n : Node) : Option (List Char) :=
  match d.resolve n with
  | some (.scalar .plain _ text) => some text.toList
  | some (.scalar .literal (some given) text) => if given = tag then some text.toList else none
  | _ => none

/-- An integer below a limit. -/
def unsigned? (d : Document) (limit : Nat) (n : Node) : Option Nat := do
  readUnsigned limit (← d.numeral? integerTag n)

/-- A 64-bit integer. -/
def signed? (d : Document) (n : Node) : Option Int64 := do
  readSigned (← d.numeral? integerTag n)

/-- A double-precision number. -/
def binary64? (d : Document) (n : Node) : Option Binary64 := do
  readBinary64 (← d.numeral? numberTag n)

/-- A scalar of a single character. -/
def char? (d : Document) (n : Node) : Option Char := do
  match (← d.text? n).toList with
  | [c] => some c
  | _ => none

/-- Whether a text is one of the words for no value. -/
def isNull (text : String) : Bool := ["null", "Null", "NULL", "~"].contains text

/-- A value that may be missing: left out, or one of the words for no value. With a tag it
is there, unless the tag is that for no value and the word is too. -/
def optional? {α : Type} (d : Document) (read : Node → Option α) (n : Node) :
    Option (Option α) :=
  match d.resolve n with
  | some (.scalar .plain none text) =>
    if text.isEmpty || isNull text then some none else (read n).map some
  | some (.scalar .plain (some tag) text) =>
    if tag ≠ nullTag then (read n).map some
    else if isNull text then some none
    else none
  | some n => (read n).map some
  | none => none

/-- The items of a sequence. -/
def items? (d : Document) (n : Node) : Option (List Node) :=
  match d.resolve n with
  | some (.sequence items) => some items
  | some (.scalar .plain _ "") => some []
  | _ => none

/-- A sequence whose items are all of one kind. -/
def list? {α : Type} (d : Document) (read : Node → Option α) (n : Node) : Option (List α) := do
  (← d.items? n).mapM read

/-- The fields of a mapping, whose keys are all scalars. -/
def fields? (d : Document) (n : Node) : Option (List (String × Node)) :=
  match d.resolve n with
  | some (.mapping entries) => entries.mapM fun (key, value) => do some (← d.text? key, value)
  | some (.scalar .plain _ "") => some []
  | _ => none

/-- A field of a mapping, if it is there. It may not be there twice. -/
def field {α : Type} (fields : List (String × Node)) (name : String) (read : Node → Option α) :
    Option (Option α) :=
  match fields.filter (·.1 == name) with
  | [] => some none
  | [(_, n)] => (read n).map some
  | _ => none

/-- A field of a mapping, or a default for it. -/
def fieldOr {α : Type} (fields : List (String × Node)) (name : String) (default : α)
    (read : Node → Option α) : Option α :=
  (field fields name read).map (·.getD default)

/-- A field that has to be there. -/
def required {α : Type} (fields : List (String × Node)) (name : String)
    (read : Node → Option α) : Option α :=
  (field fields name read).join

/-- A range: both ends have to be given. -/
def range? (d : Document) (n : Node) : Option LiteralRange := do
  let fields ← d.fields? n
  some ⟨← required fields "min" d.signed?, ← required fields "max" d.signed?⟩

/-- The weights of the kinds of slot. -/
def weights? (d : Document) (n : Node) : Option SlotWeights := do
  let fields ← d.fields? n
  let base : SlotWeights := {}
  let weight (n : Node) : Option UInt32 := (d.unsigned? UInt32.size n).map UInt32.ofNat
  some {
    call := ← fieldOr fields "function" base.call weight
    group := ← fieldOr fields "paren" base.group weight
    operand := ← fieldOr fields "operand" base.operand weight }

/-- A 64-bit word. -/
def word? (d : Document) (n : Node) : Option UInt64 := (d.unsigned? UInt64.size n).map UInt64.ofNat

/-- A dialect. -/
def dialect? (d : Document) (n : Node) : Option Dialect := do
  let fields ← d.fields? n
  let base : Dialect := {}
  some {
    operators := ← fieldOr fields "operators" base.operators (d.list? d.char?)
    functions := ← fieldOr fields "functions" base.functions (d.list? d.text?)
    variadicFunctions :=
      ← fieldOr fields "variadic_functions" base.variadicFunctions (d.list? d.text?)
    operandRange := ← fieldOr fields "operand_range" base.operandRange d.range?
    groupOperandRange := ← fieldOr fields "paren_operand_range" base.groupOperandRange d.range?
    firstArgumentRange :=
      ← fieldOr fields "first_argument_range" base.firstArgumentRange d.range?
    extraArgumentRange :=
      ← fieldOr fields "extra_argument_range" base.extraArgumentRange d.range?
    maxExtraArguments := ← fieldOr fields "max_extra_arguments" base.maxExtraArguments d.word?
    weights := ← fieldOr fields "weights" base.weights d.weights? }

/-- A mapping with one field. -/
def single? {α : Type} (d : Document) (name : String) (default : α) (read : Node → Option α)
    (n : Node) : Option α := do
  fieldOr (← d.fields? n) name default read

/-- The two bounds of a tolerance. -/
def tolerance? (d : Document) (n : Node) : Option Tolerance := do
  let fields ← d.fields? n
  let base : Tolerance := {}
  some {
    absolute := ← fieldOr fields "absolute" base.absolute d.binary64?
    relative := ← fieldOr fields "relative" base.relative d.binary64? }

/-- A campaign. -/
def campaign? (d : Document) (n : Node) : Option Campaign := do
  let fields ← d.fields? n
  let base : Campaign := {}
  some {
    rounds := ← fieldOr fields "rounds" base.rounds (d.unsigned? UInt64.size)
    length := ← fieldOr fields "length" base.length (d.unsigned? UInt64.size)
    seed := ← fieldOr fields "seed" base.seed (d.optional? d.word?)
    dialect := ← fieldOr fields "generator" base.dialect d.dialect?
    serviceUrl :=
      ← fieldOr fields "reference" base.serviceUrl (d.single? "url" base.serviceUrl d.text?)
    command :=
      ← fieldOr fields "candidate" base.command
        (d.single? "command" base.command (d.list? d.text?))
    timeout := ← fieldOr fields "timeout_ms" base.timeout d.word?
    tolerance := ← fieldOr fields "tolerance" base.tolerance d.tolerance? }

end Yaml.Document

/-- The campaign that a configuration file describes. A file without a document describes
the default one. -/
def Campaign.ofText? (text : String) : Option Campaign := do
  match ← Yaml.Document.ofText? text with
  | none => some {}
  | some d => d.campaign? d.root

end Crosscheck
