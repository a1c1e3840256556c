/-
This file proves that what is bound under the tag of a type is read back by the accessor of that
type, and that the accessors of integers and texts answer nothing that was not stored.
-/

import DataAccess.Proofs.Calendar.Reading
import DataAccess.Proofs.Execution.Binding
import DataAccess.Row.ResultSet

namespace DataAccess

namespace ResultSource

variable {Source : Type} [ResultSource Source] {Result : Type}

/-- A column is read where the row has it and the reader accepts its value. -/
theorem readColumn_eq_ok_iff {row : Row} {column : Nat} {reader : Reader Result}
    {result : Result} :
    readColumn row column reader = .ok result ↔
      1 ≤ column ∧ ∃ value, row[column - 1]? = some value ∧ reader value = .ok result := by
  cases column with
  | zero => simp [readColumn]
  | succ index =>
    simp only [readColumn, Nat.add_sub_cancel, Nat.le_add_left, true_and]
    cases found : row[index]? with
    | none => simp
    | some value =>
      cases read : reader value with
      | error problem => simp [read]
      | ok answer => simp [read]

/-- An accessor answers what its reader makes of the column of the current row. -/
theorem get_eq_ok_iff {source : Source} {column : Nat} {reader : Reader Result}
    {result : Result} :
    get source column reader = .ok result ↔
      ∃ row, current? source = some row ∧ 1 ≤ column ∧
        ∃ value, row[column - 1]? = some value ∧ reader value = .ok result := by
  rw [get]
  cases found : current? source with
  | none => simp
  | some row =>
    simp only [Option.some.injEq, exists_eq_left', readColumn_eq_ok_iff]

end ResultSource

namespace Reader

/-- A reader of a narrow integer restores what was widened. -/
theorem narrow_eq_ok_of_bounds {Result : Type} {least greatest : Int} {convert : Int64 → Result}
    {wide : Int64} {result : Result} (lower : least ≤ wide.toInt)
    (upper : wide.toInt ≤ greatest) (restored : convert wide = result) :
    narrow least greatest convert (.integer wide) = .ok result := by
  rw [narrow, if_pos ⟨lower, upper⟩, restored]

/-- A reader of a narrow integer answers nothing but an integer within its limits. -/
theorem narrow_eq_ok {Result : Type} {least greatest : Int} {convert : Int64 → Result}
    {value : Value} {result : Result} (read : narrow least greatest convert value = .ok result) :
    ∃ wide, value = .integer wide ∧ least ≤ wide.toInt ∧ wide.toInt ≤ greatest ∧
      convert wide = result := by
  cases value with
  | integer wide =>
    rw [narrow] at read
    split at read
    next within => exact ⟨wide, rfl, within.1, within.2, Except.ok.inj read⟩
    next => exact nomatch read
  | null => exact nomatch read
  | real value => exact nomatch read
  | text value => exact nomatch read
  | blob bytes => exact nomatch read

/-- A stored byte is read back. -/
theorem byte_store (value : Int8) : byte (.integer value.toInt64) = .ok value := by
  apply narrow_eq_ok_of_bounds
  · rw [Int8.toInt_toInt64]
    exact value.minValue_le_toInt
  · rw [Int8.toInt_toInt64]
    exact value.toInt_le
  · exact value.toInt8_toInt64

/-- A stored short number is read back. -/
theorem short_store (value : Int16) : short (.integer value.toInt64) = .ok value := by
  apply narrow_eq_ok_of_bounds
  · rw [Int16.toInt_toInt64]
    exact value.minValue_le_toInt
  · rw [Int16.toInt_toInt64]
    exact value.toInt_le
  · exact value.toInt16_toInt64

/-- A stored number of four bytes is read back. -/
theorem int_store (value : Int32) : int (.integer value.toInt64) = .ok value := by
  apply narrow_eq_ok_of_bounds
  · rw [Int32.toInt_toInt64]
    exact value.minValue_le_toInt
  · rw [Int32.toInt_toInt64]
    exact value.toInt_le
  · exact value.toInt32_toInt64

/-- A number that a byte can hold is not changed by the way through a byte. -/
theorem byte_eq_ok {stored : Value} {value : Int8} (read : byte stored = .ok value) :
    stored = .integer value.toInt64 := by
  obtain ⟨wide, rfl, lower, upper, rfl⟩ := narrow_eq_ok read
  have kept : wide.toInt8.toInt64 = wide := by
    apply Int64.toInt_inj.mp
    rw [Int8.toInt_toInt64, Int64.toInt_toInt8]
    exact Int.bmod_eq_of_le lower (Int.lt_of_le_of_lt upper (by decide))
  rw [kept]

/-- Only its own number is read as a short number. -/
theorem short_eq_ok {stored : Value} {value : Int16} (read : short stored = .ok value) :
    stored = .integer value.toInt64 := by
  obtain ⟨wide, rfl, lower, upper, rfl⟩ := narrow_eq_ok read
  have kept : wide.toInt16.toInt64 = wide := by
    apply Int64.toInt_inj.mp
    rw [Int16.toInt_toInt64, Int64.toInt_toInt16]
    exact Int.bmod_eq_of_le lower (Int.lt_of_le_of_lt upper (by decide))
  rw [kept]

/-- Only its own number is read as a number of four bytes. -/
theorem int_eq_ok {stored : Value} {value : Int32} (read : int stored = .ok value) :
    stored = .integer value.toInt64 := by
  obtain ⟨wide, rfl, lower, upper, rfl⟩ := narrow_eq_ok read
  have kept : wide.toInt32.toInt64 = wide := by
    apply Int64.toInt_inj.mp
    rw [Int32.toInt_toInt64, Int64.toInt_toInt32]
    exact Int.bmod_eq_of_le lower (Int.lt_of_le_of_lt upper (by decide))
  rw [kept]

/-- Only its own number is read as a long number. -/
theorem long_eq_ok {stored : Value} {value : Int64} (read : long stored = .ok value) :
    stored = .integer value := by
  cases stored with
  | integer wide => rw [Except.ok.inj read]
  | null => exact nomatch read
  | real value => exact nomatch read
  | text value => exact nomatch read
  | blob bytes => exact nomatch read

/-- Only its own text is read as a text. -/
theorem string_eq_ok {stored : Value} {value : String} (read : string stored = .ok value) :
    stored = .text value := by
  cases stored with
  | text value => rw [Except.ok.inj read]
  | null => exact nomatch read
  | integer wide => exact nomatch read
  | real value => exact nomatch read
  | blob bytes => exact nomatch read

/-- A stored truth value is read back. -/
theorem bool_store (value : Bool) : bool (.integer (if value then 1 else 0)) = .ok value := by
  cases value <;> rfl

/-- A text is read as what was written. -/
theorem dated_eq_ok {Result : Type} {read : String → Except DateProblem Result} {text : String}
    {result : Result} (restored : read text = .ok result) :
    dated read (.text text) = .ok result := by
  rw [dated, restored]

end Reader

namespace ValueType

/-- The types whose values are read back as they were bound. Numbers that are not whole are not
among them, for what is not a number is bound as a missing value. -/
def restored : List ValueType :=
  [.byte, .short, .int, .long, .bool, .string, .date, .time, .dateTime, .instant]

/-- The accessor that the table has for a value type reads that type. -/
theorem accessor?_eq_some {type : ValueType} {accessor : Accessor}
    (tabled : type.accessor? = some accessor) : accessor.type = type := by
  cases type <;> simp only [accessor?, reduceCtorEq, Option.some.injEq] at tabled <;>
    subst tabled <;> rfl

/-- Every restored type can be bound and extracted. -/
theorem exists_tables {type : ValueType} (among : type ∈ restored) :
    ∃ tag accessor, type.binding? = some tag ∧ type.accessor? = some accessor ∧
      accessor.type = type := by
  cases type with
  | byte | short | int | long | bool | string | date | time | dateTime | instant =>
    exact ⟨_, _, rfl, rfl, rfl⟩
  | float | double | borrowed | offsetDateTime | blob | anyValue => simp [restored] at among

end ValueType

namespace Accessor

/-- The accessors of integers and texts. -/
def exact : List Accessor :=
  [.i8, .i16, .i32, .i64, .string]

/-- The accessor of a type restores the values of the type. -/
theorem read_held {accessor : Accessor} (restored : accessor.type ∈ ValueType.restored)
    (value : accessor.type.Carrier) :
    accessor.read (Bindable.typed accessor.type value).held = .ok value := by
  cases accessor with
  | i8 => exact Reader.byte_store value
  | i16 => exact Reader.short_store value
  | i32 => exact Reader.int_store value
  | i64 => rfl
  | bool => exact Reader.bool_store value
  | string => rfl
  | date => exact Reader.dated_eq_ok (Date.read_written value)
  | time => exact Reader.dated_eq_ok (Time.read_written value)
  | dateTime => exact Reader.dated_eq_ok (DateTime.read_written value)
  | instant => exact Reader.dated_eq_ok (Instant.read_written value)
  | f32 | f64 | offsetDateTime | blob | anyValue => simp [type, ValueType.restored] at restored

/-- An accessor of integers or texts answers nothing that is not stored. -/
theorem eq_held_of_read {accessor : Accessor} (among : accessor ∈ exact) {stored : Value}
    {value : accessor.type.Carrier} (read : accessor.read stored = .ok value) :
    stored = (Bindable.typed accessor.type value).held := by
  cases accessor with
  | i8 => exact Reader.byte_eq_ok read
  | i16 => exact Reader.short_eq_ok read
  | i32 => exact Reader.int_eq_ok read
  | i64 => exact Reader.long_eq_ok read
  | string => exact Reader.string_eq_ok read
  | f32 | f64 | bool | date | time | dateTime | instant | offsetDateTime | blob | anyValue =>
    simp [Accessor.exact] at among

end Accessor

/-- Binding and reading are inverse. Each restored type has a tag and an accessor; under that tag
every value of the type is bound at every position that can be reached, and the accessor reads the
value back from the slot that the binding fills. What an accessor of integers or texts answers is
bound as the very value that was read. -/
theorem get_bind_inverse :
    (∀ type ∈ ValueType.restored, ∃ tag accessor, type.binding? = some tag ∧
      type.accessor? = some accessor ∧ accessor.type = type) ∧
    (∀ (accessor : Accessor) (tag : WireTag), accessor.type ∈ ValueType.restored →
      accessor.type.binding? = some tag →
      ∀ (value : accessor.type.Carrier) (statement : Statement) (position : Nat),
        1 ≤ position → position ≤ statement.addressable →
        ∃ bound stored, statement.bind position (.typed accessor.type value) tag = .ok bound ∧
          bound.slots[position - 1]? = some stored ∧
          ∃ advanced : ResultSet,
            ResultSource.advance (ResultSet.ofRows [[stored]]) = (.ok true, advanced) ∧
            ResultSource.get advanced 1 accessor.read = .ok value) ∧
    (∀ {Source : Type} [ResultSource Source] (source : Source) (column : Nat),
      ∀ accessor ∈ Accessor.exact, ∀ value : accessor.type.Carrier,
        ResultSource.get source column accessor.read = .ok value →
        ∃ row, ResultSource.current? source = some row ∧ 1 ≤ column ∧
          row[column - 1]? = some (Bindable.typed accessor.type value).held) := by
  refine ⟨fun type among => ValueType.exists_tables among, ?_, ?_⟩
  · intro accessor tag restored tabled value statement position positive reachable
    have counted : position - 1 < statement.slots.length := by
      rw [Statement.addressable, Statement.parameterCount] at reachable
      omega
    refine ⟨_, (Bindable.typed accessor.type value).held,
      Statement.bind_typed tabled value positive reachable, ?_, _, rfl, ?_⟩
    · exact List.getElem?_set_self counted
    · apply ResultSource.get_eq_ok_iff.mpr
      exact ⟨_, rfl, Nat.le_refl 1, _, rfl, Accessor.read_held restored value⟩
  · intro Source _ source column accessor among value answered
    obtain ⟨row, current, positive, stored, found, read⟩ := ResultSource.get_eq_ok_iff.mp answered
    refine ⟨row, current, positive, ?_⟩
    rw [found, Accessor.eq_held_of_read among read]

/-- The last nanosecond of a day that ends with a leap second. -/
def Time.lastOfLeapDay : Time := ⟨23, 59, 59, 1999999999, by decide⟩

/-- A leap second is bound to the second of two placeholders and read back, and a number that was
read as a short is stored as this number. -/
theorem get_bind_inverse_of_leap_second :
    (∃ bound stored,
      (Statement.unbound 2 fun _ => []).bind 2 (.typed .time Time.lastOfLeapDay) .time =
          .ok bound ∧
        bound.slots[1]? = some stored ∧
        ∃ advanced : ResultSet,
          ResultSource.advance (ResultSet.ofRows [[stored]]) = (.ok true, advanced) ∧
          ResultSource.get advanced 1 Accessor.time.read = .ok Time.lastOfLeapDay) ∧
    (∃ row, ResultSource.current? (⟨[], some [.null, .integer 300]⟩ : ResultSet) = some row ∧
      1 ≤ 2 ∧ row[1]? = some (Bindable.typed .short (300 : Int16)).held) := by
  constructor
  · exact get_bind_inverse.2.1 .time .time (by decide) rfl Time.lastOfLeapDay _ 2 (by decide)
      (by decide)
  · exact get_bind_inverse.2.2 (⟨[], some [.null, .integer 300]⟩ : ResultSet) 2 .i16
      (by decide) (300 : Int16) (by rfl)

end DataAccess
