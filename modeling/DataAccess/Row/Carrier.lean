/-
This file holds the values of each value type and the form in which the database stores them. Dates
and times are stored as text.
-/

import DataAccess.Calendar.DateTime
import DataAccess.Mapping.ValueType
import DataAccess.Row.Value

namespace DataAccess

namespace ValueType

/-- The values that have the type. -/
@[reducible] def Carrier : ValueType → Type
  | .byte => Int8
  | .short => Int16
  | .int => Int32
  | .long => Int64
  | .float => Float32
  | .double => Float
  | .bool => Bool
  | .string => String
  | .borrowed => String
  | .date => Date
  | .time => Time
  | .dateTime => DateTime
  | .instant => Instant
  | .offsetDateTime => OffsetDateTime
  | .blob => List UInt8
  | .anyValue => Value

/-- The stored form of a value. -/
def store : (type : ValueType) → type.Carrier → Value
  | .byte, value => .integer value.toInt64
  | .short, value => .integer value.toInt64
  | .int, value => .integer value.toInt64
  | .long, value => .integer value
  | .float, value => .real value.toFloat
  | .double, value => .real value
  | .bool, value => .integer (if value then 1 else 0)
  | .string, value => .text value
  | .borrowed, value => .text value
  | .date, value => .text (String.ofList value.written)
  | .time, value => .text (String.ofList value.written)
  | .dateTime, value => .text (String.ofList value.written)
  | .instant, value => .text (String.ofList value.written)
  | .offsetDateTime, value => .text (String.ofList value.written)
  | .blob, value => .blob value
  | .anyValue, value => value

/-- The order in which a set keeps its elements. Types without a total equality have none, and no
set of them can be declared. -/
def order? : (type : ValueType) → Option (Ord type.Carrier)
  | .byte => some inferInstance
  | .short => some inferInstance
  | .int => some inferInstance
  | .long => some inferInstance
  | .float => none
  | .double => none
  | .bool => some inferInstance
  | .string => some inferInstance
  | .borrowed => none
  | .date => some inferInstance
  | .time => some inferInstance
  | .dateTime => some inferInstance
  | .instant => some inferInstance
  | .offsetDateTime => some inferInstance
  | .blob => some inferInstance
  | .anyValue => none

theorem order?_isSome_eq_hasTotalEquality (type : ValueType) :
    type.order?.isSome = type.hasTotalEquality := by
  cases type <;> rfl

end ValueType

namespace Accessor

/-- The type of the values that the accessor reads. -/
def type : Accessor → ValueType
  | .i8 => .byte
  | .i16 => .short
  | .i32 => .int
  | .i64 => .long
  | .f32 => .float
  | .f64 => .double
  | .bool => .bool
  | .string => .string
  | .date => .date
  | .time => .time
  | .dateTime => .dateTime
  | .instant => .instant
  | .offsetDateTime => .offsetDateTime
  | .blob => .blob
  | .anyValue => .anyValue

theorem accessor?_type (accessor : Accessor) :
    accessor.type.accessor? = some accessor := by
  cases accessor <;> rfl

end Accessor

end DataAccess
