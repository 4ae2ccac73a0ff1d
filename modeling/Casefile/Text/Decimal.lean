namespace Casefile.Text

/-!
Natural numbers in decimal, without leading zeros.
-/

def decimal (n : Nat) : String := String.ofList (Nat.toDigits 10 n)

def ofDecimal (digits : List Char) : Nat := Nat.ofDigitChars 10 digits 0

theorem ofDecimal_toList_decimal (n : Nat) : ofDecimal (decimal n).toList = n := by
  simp [ofDecimal, decimal, Nat.ofDigitChars_ten_toDigits]

theorem decimal_injective {m n : Nat} (same : decimal m = decimal n) : m = n := by
  rw [← ofDecimal_toList_decimal m, ← ofDecimal_toList_decimal n, same]

end Casefile.Text
