import Crosscheck.Binary64.Shortest
import Crosscheck.Json.Syntax

/-!
# JSON values

What a JSON text denotes, and its compact written form. Numbers are 64-bit integers or
double-precision numbers, strings hold characters only, and values may be nested up to a
limit. An object lists its members in the order of their names; of members with one name
the last counts.
-/

namespace Crosscheck.Json

open Text

/-- A JSON value. -/
inductive Value where
  | null
  | bool (value : Bool)
  | integer (value : Int)
  | double (value : Binary64)
  | string (value : String)
  | array (items : List Value)
  | object (members : List (String × Value))

/-! ### Numbers -/

/-- Appends digits to a number as long as it fits 64 bits. Yields the number and how many
digits were appended. -/
def accumulate (n : Nat) : List Char → Nat × Nat
  | [] => (n, 0)
  | c :: rest =>
    let next := 10 * n + digitValue c
    if next < UInt64.size then
      let (n, count) := accumulate next rest
      (n, count + 1)
    else (n, 0)

/-- The number nearest to a natural number. -/
def nearestToNat (negative : Bool) (n : Nat) : Binary64 := .nearest negative (n * Nat.pow 2 1074) 1

/-- The quotient of a non-negative finite number and a power of ten. -/
def quotientByPower (x : Binary64) (exponent : Nat) : Binary64 :=
  .nearest false (x.units * Nat.pow 2 1074) (nearestToNat false (Nat.pow 10 exponent)).units

/-- Scales a number by a power of ten, in steps of at most 308 places that are rounded
each. There is no result when it would be infinite. -/
def scaleByPower (x : Binary64) (exponent : Int) : (steps : Nat) → Option Binary64
  | 0 => some x
  | steps + 1 =>
    if exponent.natAbs ≤ 308 then
      if 0 ≤ exponent then
        (some (x.mul (nearestToNat false (Nat.pow 10 exponent.toNat)))).filter (!·.isInfinite)
      else some (quotientByPower x exponent.natAbs)
    else if x.magnitudeBits = 0 then some x
    else if 0 ≤ exponent then none
    else scaleByPower (quotientByPower x 308) (exponent + 308) steps

/-- The value of a number. Integers that fit 64 bits stay integers, zero with a minus sign
does not; of all others the first digits that fit 64 bits are scaled by a power of ten. -/
def NumberText.value? (t : NumberText) : Option Value :=
  let (n, wholeCount) := accumulate 0 t.whole
  let (n, fractionCount) := accumulate n t.fraction
  let isInteger := t.fraction.isEmpty && t.exponent.isNone && wholeCount == t.whole.length
  if isInteger && !t.negative then some (.integer n)
  else if isInteger && 0 < n && n ≤ Nat.pow 2 63 then some (.integer (-n))
  else
    let places : Int := ((t.whole.length - wholeCount : Nat) : Int) - fractionCount
    let written : Int := match t.exponent with
      | none => 0
      | some (true, digits) => -(readDecimal digits : Int)
      | some (false, digits) => readDecimal digits
    let scaled :=
      if written.natAbs ≤ 2147483647 then scaleByPower (nearestToNat false n) (places + written) 8
      else if 0 < n && 0 < written then none
      else some (.zero false)
    scaled.map fun x => .double (.ofParts t.negative x.magnitudeBits)

/-! ### Strings -/

/-- The text of a string, if its surrogates are paired. -/
def decodeParts : List StringPart → Option (List Char)
  | [] => some []
  | .char c :: rest => (decodeParts rest).map (c :: ·)
  | .unit high :: .unit low :: rest =>
    if 0xD800 ≤ high && high < 0xDC00 then
      if 0xDC00 ≤ low && low < 0xE000 then
        (decodeParts rest).map
          (Char.ofNat (0x10000 + (high - 0xD800) * 0x400 + (low - 0xDC00)) :: ·)
      else none
    else if 0xDC00 ≤ high && high < 0xE000 then none
    else (decodeParts (.unit low :: rest)).map (Char.ofNat high :: ·)
  | .unit n :: rest =>
    if 0xD800 ≤ n && n < 0xE000 then none else (decodeParts rest).map (Char.ofNat n :: ·)

/-- The text of a string. -/
def string? (parts : List StringPart) : Option String := (decodeParts parts).map String.ofList

/-! ### Values -/

/-- Sets a member of an object whose members are in the order of their names. -/
def setMember (name : String) (value : Value) : List (String × Value) → List (String × Value)
  | [] => [(name, value)]
  | (other, old) :: rest =>
    if name = other then (name, value) :: rest
    else if name < other then (name, value) :: (other, old) :: rest
    else (other, old) :: setMember name value rest

mutual

/-- The value of a text with at most `depth` arrays and objects inside one another. -/
def Value.ofSyntax? (depth : Nat) : Syntax → Option Value
  | .null => some .null
  | .bool b => some (.bool b)
  | .number text => text.value?
  | .string parts => (string? parts).map .string
  | .array items =>
    match depth with
    | 0 => none
    | depth + 1 => (ofItems? depth items).map .array
  | .object members =>
    match depth with
    | 0 => none
    | depth + 1 => (ofMembers? depth [] members).map .object

/-- The values of the items of an array. -/
def ofItems? (depth : Nat) : List Syntax → Option (List Value)
  | [] => some []
  | item :: items => do some ((← Value.ofSyntax? depth item) :: (← ofItems? depth items))

/-- The values of the members of an object, set one after the other. -/
def ofMembers? (depth : Nat) (set : List (String × Value)) :
    List (List StringPart × Syntax) → Option (List (String × Value))
  | [] => some set
  | (name, value) :: members => do
    let name ← string? name
    let value ← Value.ofSyntax? depth value
    ofMembers? depth (setMember name value set) members

end

/-! ### Writing -/

/-- The two lower-case hexadecimal digits of a number below 256. -/
def hexPair (n : Nat) : List Char :=
  let digit (d : Nat) : Char := if d < 10 then Char.ofNat (48 + d) else Char.ofNat (87 + d)
  [digit (n / 16), digit (n % 16)]

/-- A character inside a string: quotes, backslashes and control characters are escaped,
the commoner ones by a letter. -/
def escape (c : Char) : List Char :=
  match c with
  | '"' => ['\\', '"']
  | '\\' => ['\\', '\\']
  | '\x08' => ['\\', 'b']
  | '\t' => ['\\', 't']
  | '\n' => ['\\', 'n']
  | '\x0C' => ['\\', 'f']
  | '\r' => ['\\', 'r']
  | c => if c.toNat < 0x20 then ['\\', 'u', '0', '0'] ++ hexPair c.toNat else [c]

/-- The written form of a string. -/
def quote (text : String) : List Char := '"' :: (text.toList.flatMap escape ++ ['"'])

/-- The written form of a double-precision number: its shortest digits, ties going to the
even one, with a point when that lies among the first sixteen places or at most five
zeros before the first digit, and with an exponent otherwise. -/
def doubleText (x : Binary64) : List Char :=
  let sign := if x.isNegative then ['-'] else []
  if x.magnitudeBits = 0 then sign ++ ['0', '.', '0']
  else
    let form := Binary64.shortest .even x.magnitudeBits
    let digits := decimal form.digits
    let point : Int := digits.length + form.exponent
    if 0 ≤ form.exponent && point ≤ 16 then sign ++ form.positional ++ ['.', '0']
    else if -5 < point && point ≤ 16 then sign ++ form.positional
    else
      let fraction := digits.drop 1
      let mantissa := digits.take 1 ++ (if fraction.isEmpty then [] else '.' :: fraction)
      let power := point - 1
      sign ++ mantissa ++ 'e' :: (if power < 0 then ['-'] else []) ++ decimal power.natAbs

/-- Pieces with commas between them. -/
def separated (pieces : List (List Char)) : List Char := [','].intercalate pieces

mutual

/-- The compact written form of a value. -/
def Value.chars : Value → List Char
  | .null => ['n', 'u', 'l', 'l']
  | .bool true => ['t', 'r', 'u', 'e']
  | .bool false => ['f', 'a', 'l', 's', 'e']
  | .integer n => if n < 0 then '-' :: decimal n.natAbs else decimal n.natAbs
  | .double x => doubleText x
  | .string text => quote text
  | .array items => '[' :: (separated (itemChars items) ++ [']'])
  | .object members => '\x7b' :: (separated (memberChars members) ++ ['\x7d'])

/-- The written forms of the items of an array. -/
def itemChars : List Value → List (List Char)
  | [] => []
  | item :: items => item.chars :: itemChars items

/-- The written forms of the members of an object. -/
def memberChars : List (String × Value) → List (List Char)
  | [] => []
  | (name, value) :: members => (quote name ++ ':' :: value.chars) :: memberChars members

end

/-- The number nearest to a JSON number. -/
def Value.number? : Value → Option Binary64
  | .integer n => some (nearestToNat (n < 0) n.natAbs)
  | .double x => some x
  | _ => none

end Crosscheck.Json
