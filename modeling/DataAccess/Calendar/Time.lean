/-
This file holds the times of a day. A leap second is the second 59 with a thousand million
nanoseconds more.
-/

import DataAccess.Text.Decimal

namespace DataAccess

namespace Time

def nanosecondsPerSecond : Nat := 1000000000

def IsValid (hour minute second nanosecond : Nat) : Prop :=
  hour < 24 ∧ minute < 60 ∧ second < 60 ∧ nanosecond < 2 * nanosecondsPerSecond ∧
    (nanosecondsPerSecond ≤ nanosecond → second = 59)

instance (hour minute second nanosecond : Nat) :
    Decidable (IsValid hour minute second nanosecond) :=
  inferInstanceAs (Decidable (_ ∧ _))

end Time

structure Time where
  hour : Nat
  minute : Nat
  second : Nat
  nanosecond : Nat
  valid : Time.IsValid hour minute second nanosecond
deriving DecidableEq

namespace Time

def ofParts? (hour minute second nanosecond : Nat) : Option Time :=
  if valid : IsValid hour minute second nanosecond then
    some ⟨hour, minute, second, nanosecond, valid⟩
  else none

def midnight : Time := ⟨0, 0, 0, 0, by decide⟩

instance : Inhabited Time := ⟨midnight⟩

def secondOfDay (time : Time) : Nat :=
  time.hour * 3600 + time.minute * 60 + time.second

/-- A leap second comes after the second that it extends. -/
instance : Ord Time where
  compare := compareLex (compareOn secondOfDay) (compareOn nanosecond)

/-- A fraction is written with three, six or nine digits, and not at all when it is zero. -/
def writtenFraction (nanosecond : Nat) : List Char :=
  if nanosecond = 0 then []
  else if nanosecond % 1000000 = 0 then '.' :: Text.Decimal.padded 3 (nanosecond / 1000000)
  else if nanosecond % 1000 = 0 then '.' :: Text.Decimal.padded 6 (nanosecond / 1000)
  else '.' :: Text.Decimal.padded 9 nanosecond

/-- Hour, minute and second with colons between them; a leap second is the second 60. -/
def written (time : Time) : List Char :=
  Text.Decimal.padded 2 time.hour ++ ':' :: Text.Decimal.padded 2 time.minute ++
    ':' :: Text.Decimal.padded 2 (time.second + time.nanosecond / nanosecondsPerSecond) ++
    writtenFraction (time.nanosecond % nanosecondsPerSecond)

end Time

end DataAccess
