import Crosscheck.Text.Decimal

/-!
# Pieces of messages

A message is joined from fixed words, numerals, and names between quotes.
-/

namespace Crosscheck.Text

/-- A natural number in a message. -/
def numeral (n : Nat) : String := String.ofList (decimal n)

/-- A 64-bit integer in a message. -/
def signedNumeral (n : Int64) : String := String.ofList (signedDecimal n)

/-- A name or symbol in a message stands between single quotes. -/
def quoted (text : String) : String := String.join ["'", text, "'"]

end Crosscheck.Text
