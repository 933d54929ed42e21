import Crosscheck.Binary64.Decimal
import Crosscheck.Yaml.Scalar

/-!
# Numbers in a YAML document

Integers are decimal without leading zeros, or have one of the marks for base 16, 8 and 2
after their sign. Other numbers are decimal and finite, or one of the words for the
infinities and for no number.
-/

namespace Crosscheck.Yaml

/-- The number written by one or more digits of a base up to ten, or sixteen. -/
def readDigits (base : Nat) (cs : List Char) : Option Nat :=
  if cs.isEmpty then none
  else cs.foldlM (fun n c => do
    let digit ← readHex [c]
    if digit < base then some (base * n + digit) else none) 0

/-- The number written after the sign of an integer. -/
def readMagnitude (cs : List Char) : Option Nat :=
  match cs with
  | '0' :: 'x' :: rest => readDigits 16 rest
  | '0' :: 'o' :: rest => readDigits 8 rest
  | '0' :: 'b' :: rest => readDigits 2 rest
  | '0' :: _ :: _ => none
  | _ => readDigits 10 cs

/-- An integer below a limit, with an optional plus sign. -/
def readUnsigned (limit : Nat) (cs : List Char) : Option Nat :=
  let body := match cs with
    | '+' :: body => body
    | body => body
  (readMagnitude body).filter (· < limit)

/-- The magnitude of the least 64-bit integer. -/
def signedLimit : Nat := 9223372036854775808

/-- Splits off the sign of an integer, and tells whether it is a minus. -/
def splitSign : List Char → Bool × List Char
  | '+' :: body => (false, body)
  | '-' :: body => (true, body)
  | body => (false, body)

/-- A 64-bit integer with an optional sign. -/
def readSigned (cs : List Char) : Option Int64 :=
  let (negative, body) := splitSign cs
  if negative then ((readMagnitude body).filter (· ≤ signedLimit)).map fun n => -Int64.ofNat n
  else ((readMagnitude body).filter (· < signedLimit)).map Int64.ofNat

/-- A double-precision number. -/
def readBinary64 (cs : List Char) : Option Binary64 :=
  let (signed, body) := match cs with
    | '+' :: body => (true, body)
    | body => (false, body)
  let word := String.ofList cs
  if signed && body.head?.any (['+', '-'].contains ·) then none
  else if [".inf", ".Inf", ".INF"].contains (String.ofList body) then
    some (Binary64.infinity false)
  else if ["-.inf", "-.Inf", "-.INF"].contains word then some (Binary64.infinity true)
  else if [".nan", ".NaN", ".NAN"].contains word then some Binary64.nan
  else (Binary64.read body).filter Binary64.isFinite

end Crosscheck.Yaml
