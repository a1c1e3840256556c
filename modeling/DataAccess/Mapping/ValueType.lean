/-
This file holds the value types and the tables that say how each is bound and extracted.
-/

import DataAccess.Mapping.WireTag

namespace DataAccess

/-- The types of single values. A borrowed text can only be a parameter, and `anyValue` stands for
whatever the database holds. -/
inductive ValueType where
  | byte
  | short
  | int
  | long
  | float
  | double
  | bool
  | string
  | borrowed
  | date
  | time
  | dateTime
  | instant
  | offsetDateTime
  | blob
  | anyValue
deriving DecidableEq, Repr

/-- The typed readers of a column. -/
inductive Accessor where
  | i8
  | i16
  | i32
  | i64
  | f32
  | f64
  | bool
  | string
  | date
  | time
  | dateTime
  | instant
  | offsetDateTime
  | blob
  | anyValue
deriving DecidableEq, Repr

inductive ContainerKind where
  | list
  | set
deriving DecidableEq, Repr

inductive ReturnShape where
  | void
  | cursor
  | scalar (value : ValueType)
  | collection (kind : ContainerKind) (element : ValueType)
deriving DecidableEq, Repr

/-- A failure of an unchecked method stops the caller; a propagated one is answered. -/
inductive FailureMode where
  | unchecked
  | propagate
deriving DecidableEq, Repr

structure ReturnDescriptor where
  shape : ReturnShape
  failure : FailureMode
deriving DecidableEq, Repr

namespace ValueType

def name : ValueType → String
  | .byte => "Byte"
  | .short => "Short"
  | .int => "Int"
  | .long => "Long"
  | .float => "Float"
  | .double => "Double"
  | .bool => "Bool"
  | .string => "String"
  | .borrowed => "Str"
  | .date => "Date"
  | .time => "Time"
  | .dateTime => "DateTime"
  | .instant => "Instant"
  | .offsetDateTime => "OffsetDateTime"
  | .blob => "Blob"
  | .anyValue => "Value"

/-- Values of these types can be collected into a set. -/
def hasTotalEquality : ValueType → Bool
  | .float | .double | .anyValue | .borrowed => false
  | .byte | .short | .int | .long | .bool | .string | .date | .time | .dateTime | .instant
  | .offsetDateTime | .blob => true

/-- The binding table. -/
def binding? : ValueType → Option WireTag
  | .byte => some .tinyInt
  | .short => some .smallInt
  | .int => some .integer
  | .long => some .bigInt
  | .float => some .float
  | .double => some .double
  | .bool => some .boolean
  | .string | .borrowed => some .varchar
  | .date => some .date
  | .time => some .time
  | .dateTime | .instant => some .timestamp
  | .offsetDateTime => some .timestampWithTimezone
  | .blob | .anyValue => none

/-- The extraction table. -/
def accessor? : ValueType → Option Accessor
  | .byte => some .i8
  | .short => some .i16
  | .int => some .i32
  | .long => some .i64
  | .float => some .f32
  | .double => some .f64
  | .bool => some .bool
  | .string => some .string
  | .date => some .date
  | .time => some .time
  | .dateTime => some .dateTime
  | .instant => some .instant
  | .offsetDateTime => some .offsetDateTime
  | .blob => some .blob
  | .anyValue => some .anyValue
  | .borrowed => none

end ValueType

namespace Accessor

def all : List Accessor :=
  [.i8, .i16, .i32, .i64, .f32, .f64, .bool, .string, .date, .time, .dateTime, .instant,
    .offsetDateTime, .blob, .anyValue]

/-- The name of the type that the accessor reads. -/
def typeName : Accessor → String
  | .i8 => "i8"
  | .i16 => "i16"
  | .i32 => "i32"
  | .i64 => "i64"
  | .f32 => "f32"
  | .f64 => "f64"
  | .bool => "bool"
  | .string => "string"
  | .date => "date"
  | .time => "time"
  | .dateTime => "datetime"
  | .instant => "instant"
  | .offsetDateTime => "offset_datetime"
  | .blob => "blob"
  | .anyValue => "value"

def name (accessor : Accessor) : String :=
  "get_" ++ accessor.typeName

def ofTypeName? (name : String) : Option Accessor :=
  all.find? fun accessor => accessor.typeName == name

end Accessor

namespace ContainerKind

def name : ContainerKind → String
  | .list => "List"
  | .set => "Set"

/-- The function that drains a result into such a container. -/
def materializer : ContainerKind → String
  | .list => "to_list"
  | .set => "to_set"

end ContainerKind

def FailureMode.name : FailureMode → String
  | .unchecked => "Unchecked"
  | .propagate => "Propagate"

end DataAccess
