/-
This file reads typed values from stored ones. A reader never rounds or wraps an integer: a number
that the type cannot hold is refused.
-/

import DataAccess.Calendar.Reading
import DataAccess.Row.Carrier

namespace DataAccess

/-- Why a stored value has no reading in a type. -/
inductive FieldProblem where
  | invalidType
  | outOfRange (value : Int64)
  | date (problem : DateProblem)
deriving DecidableEq

def FieldProblem.message : FieldProblem → String
  | .invalidType => "Invalid type"
  | .outOfRange value => "Value " ++ toString value.toInt ++ " out of range"
  | .date problem => problem.message

abbrev Reader (Result : Type) : Type :=
  Value → Except FieldProblem Result

namespace Reader

def long : Reader Int64
  | .integer value => .ok value
  | _ => .error .invalidType

/-- Reads an integer between two limits. -/
def narrow {Result : Type} (least greatest : Int) (convert : Int64 → Result) : Reader Result
  | .integer value =>
      if least ≤ value.toInt ∧ value.toInt ≤ greatest then .ok (convert value)
      else .error (.outOfRange value)
  | _ => .error .invalidType

def byte : Reader Int8 :=
  narrow Int8.minValue.toInt Int8.maxValue.toInt Int64.toInt8

def short : Reader Int16 :=
  narrow Int16.minValue.toInt Int16.maxValue.toInt Int64.toInt16

def int : Reader Int32 :=
  narrow Int32.minValue.toInt Int32.maxValue.toInt Int64.toInt32

def float : Reader Float32
  | .integer value => .ok value.toFloat32
  | .real value => .ok value.toFloat32
  | _ => .error .invalidType

def double : Reader Float
  | .integer value => .ok value.toFloat
  | .real value => .ok value
  | _ => .error .invalidType

def bool : Reader Bool
  | .integer value => .ok (value != 0)
  | _ => .error .invalidType

def string : Reader String
  | .text value => .ok value
  | _ => .error .invalidType

/-- Reads a text in the form of a date or time. -/
def dated {Result : Type} (read : String → Except DateProblem Result) : Reader Result
  | .text value =>
      match read value with
      | .ok result => .ok result
      | .error problem => .error (.date problem)
  | _ => .error .invalidType

def blob : Reader (List UInt8)
  | .blob bytes => .ok bytes
  | _ => .error .invalidType

def anyValue : Reader Value := fun value => .ok value

/-- A missing value is read as none. -/
def optional {Result : Type} (reader : Reader Result) : Reader (Option Result)
  | .null => .ok none
  | value => (reader value).map some

end Reader

/-- The reader behind an accessor. -/
def Accessor.read : (accessor : Accessor) → Reader accessor.type.Carrier
  | .i8 => Reader.byte
  | .i16 => Reader.short
  | .i32 => Reader.int
  | .i64 => Reader.long
  | .f32 => Reader.float
  | .f64 => Reader.double
  | .bool => Reader.bool
  | .string => Reader.string
  | .date => Reader.dated Date.read
  | .time => Reader.dated Time.read
  | .dateTime => Reader.dated DateTime.read
  | .instant => Reader.dated Instant.read
  | .offsetDateTime => Reader.dated OffsetDateTime.read
  | .blob => Reader.blob
  | .anyValue => Reader.anyValue

end DataAccess
