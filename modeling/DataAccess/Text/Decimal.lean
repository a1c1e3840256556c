/-
This file writes and reads natural numbers in decimal.
-/

namespace DataAccess.Text.Decimal

/-- The digits of a number, with zeros in front of them up to the width. -/
def padded (width number : Nat) : List Char :=
  let digits := Nat.toDigits 10 number
  List.replicate (width - digits.length) '0' ++ digits

/-- The number that digits write. -/
def valueOf (digits : List Char) : Nat :=
  digits.foldl (fun value digit => value * 10 + (digit.toNat - '0'.toNat)) 0

end DataAccess.Text.Decimal
