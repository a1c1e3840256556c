/-
This file relates the digits that a number is written with to the number that they are read as.
-/

import DataAccess.Text.Decimal

namespace DataAccess.Text.Decimal

/-- The value of digits is the value that the library reads in base ten. -/
theorem valueOf_eq_ofDigitChars (digits : List Char) :
    valueOf digits = Nat.ofDigitChars 10 digits 0 := by
  rw [valueOf, Nat.ofDigitChars_eq_foldl]
  simp only [Nat.mul_comm]

/-- The decimal digits of a number have its value. -/
@[simp]
theorem valueOf_toDigits (number : Nat) : valueOf (Nat.toDigits 10 number) = number := by
  rw [valueOf_eq_ofDigitChars, Nat.ofDigitChars_ten_toDigits]

/-- Zeros in front of a number do not change it. -/
@[simp]
theorem valueOf_padded (width number : Nat) : valueOf (padded width number) = number := by
  rw [valueOf_eq_ofDigitChars, padded, Nat.ofDigitChars_append, Nat.ofDigitChars_replicate_zero,
    Nat.mul_zero, Nat.ofDigitChars_ten_toDigits]

/-- A padded number is written with digits alone. -/
theorem isDigit_of_mem_padded {width number : Nat} {character : Char}
    (member : character ∈ padded width number) : character.isDigit = true := by
  rw [padded, List.mem_append] at member
  rcases member with zero | digit
  · rw [List.eq_of_mem_replicate zero]
    rfl
  · exact Nat.isDigit_of_mem_toDigits (by decide) (by decide) digit

/-- A padded number has at least one digit. -/
theorem padded_ne_nil (width number : Nat) : padded width number ≠ [] := by
  simp [padded]

/-- A number that fits is written with exactly its width. -/
theorem length_padded {width number : Nat} (wide : 0 < width)
    (fits : number < Nat.pow 10 width) :
    (padded width number).length = width := by
  have short := (Nat.length_toDigits_le_iff (b := 10) (by decide) wide).mpr fits
  rw [padded, List.length_append, List.length_replicate]
  omega

end DataAccess.Text.Decimal
