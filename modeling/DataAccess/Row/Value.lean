/-
This file holds the values of a database and the order between them.
-/

import DataAccess.Mapping.WireTag

namespace DataAccess

/-- A value as the database stores it, in one of its storage classes. -/
inductive Value where
  | null
  | integer (value : Int64)
  | real (value : Float)
  | text (value : String)
  | blob (bytes : List UInt8)
deriving DecidableEq

abbrev Row : Type :=
  List Value

namespace Value

def storage : Value → StorageClass
  | .null => .null
  | .integer _ => .integer
  | .real _ => .real
  | .text _ => .text
  | .blob _ => .blob

/-- A placeholder cannot hold what is not a number. -/
def bound : Value → Value
  | .real value => if value.isNaN then .null else .real value
  | .null => .null
  | .integer value => .integer value
  | .text value => .text value
  | .blob bytes => .blob bytes

end Value

end DataAccess
