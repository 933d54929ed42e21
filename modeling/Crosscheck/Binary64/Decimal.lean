import Crosscheck.Binary64.Basic
import Crosscheck.Text.Decimal

/-!
# Reading numbers

A number is written with an optional sign, then either a word for an infinity or
for no number, in any case, or decimal digits with an optional point and an optional
exponent. The result is the double-precision number nearest to what is written.
-/

namespace Crosscheck.Binary64

open Text

/-- The number nearest to `digits * 10 ^ exponent`. Numbers of more than 309 places
before the point are infinite, and those with 324 zeros after it are zero. -/
def ofDecimal (negative : Bool) (digits : Nat) (exponent : Int) : Binary64 :=
  let places := ((decimal digits).length : Int) + exponent
  if digits = 0 then zero negative
  else if 310 ≤ places then infinity negative
  else if places ≤ -324 then zero negative
  else if 0 ≤ exponent then nearest negative (digits * Nat.pow 10 exponent.toNat * Nat.pow 2 1074) 1
  else nearest negative (digits * Nat.pow 2 1074) (Nat.pow 10 (-exponent).toNat)

/-- The exponent at the end of a numeral: nothing, or `e` or `E`, an optional sign, and
at least one digit. -/
def readExponent : List Char → Option Int
  | [] => some 0
  | c :: rest =>
    if c = 'e' ∨ c = 'E' then
      let (negative, digits) := match rest with
        | '+' :: digits => (false, digits)
        | '-' :: digits => (true, digits)
        | digits => (false, digits)
      if digits.isEmpty || !digits.all Char.isDigit then none
      else some (if negative then -(readDecimal digits : Int) else readDecimal digits)
    else none

/-- A numeral without its sign. -/
def readUnsigned (negative : Bool) (cs : List Char) : Option Binary64 := do
  let whole := cs.takeWhile Char.isDigit
  let rest := cs.dropWhile Char.isDigit
  let (fraction, rest) := match rest with
    | '.' :: rest => (rest.takeWhile Char.isDigit, rest.dropWhile Char.isDigit)
    | rest => ([], rest)
  if whole.isEmpty && fraction.isEmpty then none
  else
    let exponent ← readExponent rest
    some (ofDecimal negative (readDecimal (whole ++ fraction)) (exponent - fraction.length))

/-- Reads a number that takes up the whole text. -/
def read (cs : List Char) : Option Binary64 :=
  let (negative, body) := match cs with
    | '+' :: body => (false, body)
    | '-' :: body => (true, body)
    | body => (false, body)
  let word := String.ofList (body.map Char.toLower)
  if word = "nan" then some nan
  else if word = "inf" || word = "infinity" then some (infinity negative)
  else readUnsigned negative body

end Crosscheck.Binary64
