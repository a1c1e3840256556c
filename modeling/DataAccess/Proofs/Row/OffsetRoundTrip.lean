/-
This file proves what becomes of a time with an offset that is bound and read back.
-/

import DataAccess.Proofs.Calendar.Offset
import DataAccess.Proofs.Row.RoundTrip

namespace DataAccess

theorem Reader.dated_text_eq_ok_iff {Result : Type} {read : String → Except DateProblem Result}
    {text : String} {result : Result} :
    dated read (.text text) = .ok result ↔ read text = .ok result := by
  rw [dated]
  cases read text <;> simp

namespace OffsetDateTime

/-- The reader behind the accessor of times with an offset. -/
def reader : Reader OffsetDateTime :=
  Accessor.offsetDateTime.read

/-- The accessor reads from a row with the stored value what its written form is read as. -/
theorem get_held_eq_ok_iff {value answer : OffsetDateTime} :
    ResultSource.get
        (⟨[], some [(Bindable.typed .offsetDateTime value).held]⟩ : ResultSet) 1 reader =
      .ok answer ↔ value.reread = .ok answer := by
  rw [ResultSource.get_eq_ok_iff, ← read_written]
  constructor
  · rintro ⟨row, current, -, stored, found, read⟩
    obtain rfl := Option.some.inj current
    obtain rfl := Option.some.inj found
    exact Reader.dated_text_eq_ok_iff.mp read
  · intro read
    exact ⟨_, rfl, Nat.le_refl 1, _, rfl, Reader.dated_text_eq_ok_iff.mpr read⟩

/-- A value is always bound, and the slot that the binding fills is read as its written form is. -/
theorem bind_get (value : OffsetDateTime) {statement : Statement} {position : Nat}
    (positive : 1 ≤ position) (reachable : position ≤ statement.addressable) :
    ∃ bound stored, ∃ advanced : ResultSet,
      statement.bind position (.typed .offsetDateTime value) .timestampWithTimezone = .ok bound ∧
      bound.slots[position - 1]? = some stored ∧
      ResultSource.advance (ResultSet.ofRows [[stored]]) = (.ok true, advanced) ∧
      ∀ answer, ResultSource.get advanced 1 reader = .ok answer ↔
        value.reread = .ok answer := by
  have counted : position - 1 < statement.slots.length := by
    rw [Statement.addressable, Statement.parameterCount] at reachable
    omega
  have tabled : ValueType.offsetDateTime.binding? = some .timestampWithTimezone := rfl
  exact ⟨_, _, _, Statement.bind_typed tabled value positive reachable,
    List.getElem?_set_self counted, rfl, fun answer => get_held_eq_ok_iff⟩

/-- A time with an offset is bound at every position that can be reached. It is read back with its
own clock and with its offset rounded to whole minutes, if the clock can have that offset. So it
comes back if its offset is one of whole minutes, and no other answer tells the same moment. -/
theorem offset_round_trip {statement : Statement} {position : Nat} (value : OffsetDateTime)
    (positive : 1 ≤ position) (reachable : position ≤ statement.addressable) :
    ∃ bound stored, ∃ advanced : ResultSet,
      statement.bind position (.typed .offsetDateTime value) .timestampWithTimezone = .ok bound ∧
      bound.slots[position - 1]? = some stored ∧
      ResultSource.advance (ResultSet.ofRows [[stored]]) = (.ok true, advanced) ∧
      (60 ∣ value.offset →
        ResultSource.get advanced 1 reader = .ok value) ∧
      ∀ answer, (ResultSource.get advanced 1 reader = .ok answer ↔
          ofParts? value.clock (roundedOffset value.offset) = some answer) ∧
        (ResultSource.get advanced 1 reader = .ok answer →
          answer.clock = value.clock ∧ 60 ∣ answer.offset ∧
            (answer.offset - value.offset).natAbs ≤ 30 ∧
            (compare answer value = .eq ↔ 60 ∣ value.offset)) := by
  obtain ⟨bound, stored, advanced, accepted, filled, current, answered⟩ :=
    value.bind_get positive reachable
  refine ⟨bound, stored, advanced, accepted, filled, current, ?_, ?_⟩
  · intro whole
    exact (answered value).mpr (reread_of_dvd whole)
  · intro answer
    refine ⟨(answered answer).trans reread_eq_ok_iff, ?_⟩
    intro read
    have reread := (answered answer).mp read
    obtain ⟨clock, offset⟩ := eq_of_reread reread
    obtain ⟨whole, near⟩ := roundedOffset_nearest value.offset
    rw [← offset] at whole near
    exact ⟨clock, whole, near, compare_reread_iff reread⟩

/-- The leap second that ends the year 12024, almost a day behind universal time. -/
def lastOfFarYear : OffsetDateTime :=
  ⟨⟨⟨12024, 12, 31, by decide⟩, Time.lastOfLeapDay⟩, -86340, by decide⟩

/-- The second of two placeholders takes a leap second of a year with five digits, and it comes
back. -/
theorem offset_round_trip_of_far_year :
    ∃ bound stored, ∃ advanced : ResultSet,
      (Statement.unbound 2 fun _ => []).bind 2 (.typed .offsetDateTime lastOfFarYear)
          .timestampWithTimezone = .ok bound ∧
      bound.slots[1]? = some stored ∧
      ResultSource.advance (ResultSet.ofRows [[stored]]) = (.ok true, advanced) ∧
      ResultSource.get advanced 1 reader = .ok lastOfFarYear := by
  have reachable : 2 ≤ (Statement.unbound 2 fun _ => []).addressable := by decide
  obtain ⟨bound, stored, advanced, accepted, filled, current, restored, _⟩ :=
    offset_round_trip lastOfFarYear (by decide) reachable
  exact ⟨bound, stored, advanced, accepted, filled, current, restored (by decide)⟩

def noon : DateTime :=
  ⟨⟨2024, 1, 1, by decide⟩, ⟨12, 0, 0, 0, by decide⟩⟩

/-- Noon, so little ahead of universal time that no minute is written. -/
def secondsAhead : OffsetDateTime := ⟨noon, 29, by decide⟩

/-- Noon, so much ahead of universal time that a whole day is written. -/
def almostDayAhead : OffsetDateTime := ⟨noon, 86399, by decide⟩

/-- The seconds of an offset are lost. Those of one value come back as no offset, which is another
moment, and those of the other come back as a whole day, which is refused. -/
theorem seconds_of_offset_lost :
    (∃ bound stored, ∃ advanced : ResultSet, ∃ answer,
      (Statement.unbound 1 fun _ => []).bind 1 (.typed .offsetDateTime secondsAhead)
          .timestampWithTimezone = .ok bound ∧
      bound.slots[0]? = some stored ∧
      ResultSource.advance (ResultSet.ofRows [[stored]]) = (.ok true, advanced) ∧
      ResultSource.get advanced 1 reader = .ok answer ∧ compare answer secondsAhead ≠ .eq) ∧
    ∃ bound stored, ∃ advanced : ResultSet,
      (Statement.unbound 1 fun _ => []).bind 1 (.typed .offsetDateTime almostDayAhead)
          .timestampWithTimezone = .ok bound ∧
      bound.slots[0]? = some stored ∧
      ResultSource.advance (ResultSet.ofRows [[stored]]) = (.ok true, advanced) ∧
      ∀ answer, ResultSource.get advanced 1 reader ≠ .ok answer := by
  have reachable : 1 ≤ (Statement.unbound 1 fun _ => []).addressable := by decide
  constructor
  · obtain ⟨bound, stored, advanced, accepted, filled, current, answered⟩ :=
      secondsAhead.bind_get (Nat.le_refl 1) reachable
    have told : secondsAhead.reread = .ok ⟨noon, 0, isValid_zero noon⟩ :=
      reread_eq_ok_iff.mpr (ofParts?_zero noon)
    refine ⟨bound, stored, advanced, _, accepted, filled, current, (answered _).mpr told, ?_⟩
    rw [Ne, compare_reread_iff told]
    decide
  · obtain ⟨bound, stored, advanced, accepted, filled, current, answered⟩ :=
      almostDayAhead.bind_get (Nat.le_refl 1) reachable
    refine ⟨bound, stored, advanced, accepted, filled, current, ?_⟩
    intro answer read
    have built := reread_eq_ok_iff.mp ((answered answer).mp read)
    have refused : ¬ IsValid noon (roundedOffset 86399) := by decide
    rw [almostDayAhead, ofParts?, dif_neg refused] at built
    contradiction

end OffsetDateTime

end DataAccess
