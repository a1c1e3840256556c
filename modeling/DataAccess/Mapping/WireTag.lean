/-
This file holds the declared types of bound parameters and the classes in which values are stored.
-/

namespace DataAccess

/-- The classes in which a database stores values. -/
inductive StorageClass where
  | null
  | integer
  | real
  | text
  | blob
deriving DecidableEq, Repr

namespace StorageClass

def all : List StorageClass :=
  [.null, .integer, .real, .text, .blob]

def name : StorageClass → String
  | .null => "Null"
  | .integer => "Integer"
  | .real => "Real"
  | .text => "Text"
  | .blob => "Blob"

end StorageClass

/-- The declared type of a bound parameter. -/
inductive WireTag where
  | tinyInt
  | smallInt
  | integer
  | bigInt
  | float
  | double
  | boolean
  | varchar
  | date
  | time
  | timestamp
  | timestampWithTimezone
deriving DecidableEq, Repr

namespace WireTag

def all : List WireTag :=
  [.tinyInt, .smallInt, .integer, .bigInt, .float, .double, .boolean, .varchar, .date, .time,
    .timestamp, .timestampWithTimezone]

/-- The name under which generated code refers to the tag. -/
def name : WireTag → String
  | .tinyInt => "TinyInt"
  | .smallInt => "SmallInt"
  | .integer => "Integer"
  | .bigInt => "BigInt"
  | .float => "Float"
  | .double => "Double"
  | .boolean => "Boolean"
  | .varchar => "Varchar"
  | .date => "Date"
  | .time => "Time"
  | .timestamp => "Timestamp"
  | .timestampWithTimezone => "TimestampWithTimezone"

def ofName? (name : String) : Option WireTag :=
  all.find? fun tag => tag.name == name

/-- The name of the type in the query language. -/
def sqlName : WireTag → String
  | .tinyInt => "TINYINT"
  | .smallInt => "SMALLINT"
  | .integer => "INTEGER"
  | .bigInt => "BIGINT"
  | .float => "FLOAT"
  | .double => "DOUBLE"
  | .boolean => "BOOLEAN"
  | .varchar => "VARCHAR"
  | .date => "DATE"
  | .time => "TIME"
  | .timestamp => "TIMESTAMP"
  | .timestampWithTimezone => "TIMESTAMP WITH TIME ZONE"

/-- The class in which values with the tag are stored. Dates and times are stored as text. -/
def storage : WireTag → StorageClass
  | .tinyInt | .smallInt | .integer | .bigInt | .boolean => .integer
  | .float | .double => .real
  | .varchar | .date | .time | .timestamp | .timestampWithTimezone => .text

/-- A missing value is accepted for every tag. -/
def accepts (tag : WireTag) (stored : StorageClass) : Bool :=
  stored == .null || stored == tag.storage

end WireTag

end DataAccess
