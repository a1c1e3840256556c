/-
This file joins dates and times of day, with and without an offset from universal time.
-/

import DataAccess.Calendar.Date
import DataAccess.Calendar.Time

namespace DataAccess

def secondsPerDay : Int := 86400

structure DateTime where
  date : Date
  time : Time
deriving DecidableEq, Inhabited

namespace DateTime

instance : Ord DateTime where
  compare := compareLex (compareOn date) (compareOn time)

/-- The second counted from the calendar's day zero. -/
def secondNumber (value : DateTime) : Int :=
  value.date.dayNumber * secondsPerDay + value.time.secondOfDay

def written (value : DateTime) : List Char :=
  value.date.written ++ ' ' :: value.time.written

/-- The universal date of a local time that is so many seconds ahead of it. -/
def universalDate? (value : DateTime) (offset : Int) : Option Date :=
  let second := value.time.secondOfDay - offset
  if second < 0 then value.date.previous?
  else if second < secondsPerDay then some value.date
  else value.date.next?

/-- The universal time of day; none when a leap second would leave the end of its minute. -/
def universalTime? (value : DateTime) (offset : Int) : Option Time :=
  let second := ((value.time.secondOfDay - offset) % secondsPerDay).toNat
  Time.ofParts? (second / 3600) (second / 60 % 60) (second % 60) value.time.nanosecond

end DateTime

/-- A moment, given by its universal time. -/
structure Instant where
  universal : DateTime
deriving DecidableEq, Inhabited

namespace Instant

instance : Ord Instant where
  compare := compareOn universal

def written (instant : Instant) : List Char :=
  instant.universal.written ++ ['+', '0', '0', ':', '0', '0']

end Instant

namespace OffsetDateTime

/-- An offset is shorter than a day, and the universal date is a date of the calendar. -/
def IsValid (clock : DateTime) (offset : Int) : Prop :=
  -secondsPerDay < offset ∧ offset < secondsPerDay ∧
    (clock.universalDate? offset).isSome = true

instance (clock : DateTime) (offset : Int) : Decidable (IsValid clock offset) :=
  inferInstanceAs (Decidable (_ ∧ _))

end OffsetDateTime

/-- A local time with the seconds by which it is ahead of universal time. -/
structure OffsetDateTime where
  clock : DateTime
  offset : Int
  valid : OffsetDateTime.IsValid clock offset
deriving DecidableEq

namespace OffsetDateTime

def ofParts? (clock : DateTime) (offset : Int) : Option OffsetDateTime :=
  if valid : IsValid clock offset then some ⟨clock, offset, valid⟩ else none

/-- The second of the moment, whatever the offset in which it is told. -/
def universalSecond (value : OffsetDateTime) : Int :=
  value.clock.secondNumber - value.offset

/-- Two local times are equal when they tell the same moment. -/
instance : Ord OffsetDateTime where
  compare := compareLex (compareOn universalSecond)
    (compareOn fun value => value.clock.time.nanosecond)

/-- The moment that is told; none for a leap second that no minute of universal time ends with. -/
def instant? (value : OffsetDateTime) : Option Instant := do
  let date ← value.clock.universalDate? value.offset
  let time ← value.clock.universalTime? value.offset
  return ⟨⟨date, time⟩⟩

/-- Sign, hours and minutes; seconds are rounded to the nearest minute. -/
def writtenOffset (offset : Int) : List Char :=
  let minutes := (offset.natAbs + 30) / 60
  (if offset < 0 then '-' else '+') :: Text.Decimal.padded 2 (minutes / 60) ++
    ':' :: Text.Decimal.padded 2 (minutes % 60)

def written (value : OffsetDateTime) : List Char :=
  value.clock.written ++ writtenOffset value.offset

end OffsetDateTime

end DataAccess
