/-!
# Decimal numerals

Natural numbers and 64-bit integers in decimal: writing without leading zeros,
and reading a run of digits of any length. Reading is the left inverse of
writing (`readDecimal_decimal`), and a numeral is a non-empty run of digits
(`isDigit_of_mem_decimal`, `decimal_ne_nil`).
-/

namespace Crosscheck.Text

/-- The digit with the value `d`, for `d < 10`. -/
def digitChar (d : Nat) : Char := Char.ofNat (48 + d)

/-- The value of a digit. -/
def digitValue (c : Char) : Nat := c.toNat - 48

/-- The numeral of a natural number, most significant digit first. -/
def decimal (n : Nat) : List Char :=
  if n < 10 then [digitChar n] else decimal (n / 10) ++ [digitChar (n % 10)]

/-- The number that a run of digits denotes. -/
def readDecimal (digits : List Char) : Nat :=
  digits.foldl (fun value c => 10 * value + digitValue c) 0

/-- The numeral of a 64-bit integer, with a minus sign when it is negative. -/
def signedDecimal (n : Int64) : List Char :=
  if n < 0 then '-' :: decimal n.toInt.natAbs else decimal n.toInt.natAbs

theorem digitValue_digitChar {d : Nat} (h : d < 10) : digitValue (digitChar d) = d := by
  have : ∀ k : Fin 10, digitValue (digitChar k) = k := by decide
  exact this ⟨d, h⟩

theorem isDigit_digitChar {d : Nat} (h : d < 10) : (digitChar d).isDigit = true := by
  have : ∀ k : Fin 10, (digitChar k).isDigit = true := by decide
  exact this ⟨d, h⟩

/-- Reading one more digit is one accumulation step. -/
theorem readDecimal_append_singleton (digits : List Char) (c : Char) :
    readDecimal (digits ++ [c]) = 10 * readDecimal digits + digitValue c := by
  simp [readDecimal, List.foldl_append]

/-- A numeral reads back as the number it was written for. -/
theorem readDecimal_decimal (n : Nat) : readDecimal (decimal n) = n := by
  induction n using decimal.induct with
  | case1 n h =>
    rw [decimal, if_pos h]
    simp [readDecimal, digitValue_digitChar h]
  | case2 n h ih =>
    rw [decimal, if_neg h, readDecimal_append_singleton, ih, digitValue_digitChar (by omega)]
    omega

/-- A numeral holds digits only. -/
theorem isDigit_of_mem_decimal {n : Nat} {c : Char} (hc : c ∈ decimal n) :
    c.isDigit = true := by
  induction n using decimal.induct with
  | case1 n h =>
    rw [decimal, if_pos h, List.mem_singleton] at hc
    exact hc ▸ isDigit_digitChar h
  | case2 n h ih =>
    rw [decimal, if_neg h, List.mem_append, List.mem_singleton] at hc
    rcases hc with hc | rfl
    · exact ih hc
    · exact isDigit_digitChar (by omega)

/-- A numeral has at least one digit. -/
theorem decimal_ne_nil (n : Nat) : decimal n ≠ [] := by
  rw [decimal]
  split <;> simp

end Crosscheck.Text
