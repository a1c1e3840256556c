/-
This file holds what can go wrong while a query is prepared, bound, executed or read.
-/

import DataAccess.Row.Reader

namespace DataAccess

/-- What the database itself reports. -/
inductive DatabaseError where
  | noRows
  | positionOutOfRange
  | numberTooLarge
  | integerOverflow
  | missingTable (table : String)
  | duplicateTable (table query : String) (offset : Nat)
  | missingColumn (column query : String) (offset : Nat)
  | unsupported (query : String)
deriving DecidableEq

namespace DatabaseError

/-- A fault of a query is told with the place where it stands. -/
def located (fault query : String) (offset : Nat) : String :=
  fault ++ " in " ++ query ++ " at offset " ++ toString offset

def message : DatabaseError → String
  | .noRows => "Query returned no rows"
  | .positionOutOfRange => "column index out of range"
  | .numberTooLarge => "number too large to fit in target type"
  | .integerOverflow => "integer overflow"
  | .missingTable table => "no such table: " ++ table
  | .duplicateTable table query offset =>
      located ("table " ++ table ++ " already exists") query offset
  | .missingColumn column query offset => located ("no such column: " ++ column) query offset
  | .unsupported query => "unsupported query: " ++ query

end DatabaseError

inductive ExecutionError where
  | database (error : DatabaseError)
  | binding (position : Nat) (tag : WireTag) (found : StorageClass)
  | extraction (column : Nat) (problem : FieldProblem)
  | columnOutOfRange (column count : Nat)
  | noRow
  | malformedText (validBytes faultyBytes : Nat)
deriving DecidableEq

namespace ExecutionError

def message : ExecutionError → String
  | .database error => "query failed: " ++ error.message
  | .binding position tag found =>
      "parameter " ++ toString position ++ " is declared " ++ tag.sqlName ++
        " but was bound as " ++ found.name
  | .extraction column problem =>
      "could not extract column " ++ toString column ++ ": " ++ problem.message
  | .columnOutOfRange column count =>
      "column " ++ toString column ++ " is out of range for a row of " ++ toString count ++
        " columns"
  | .noRow => "no current row, the result has not been advanced onto one"
  | .malformedText validBytes faultyBytes =>
      "invalid UTF-8: Utf8Error \x7b valid_up_to: " ++ toString validBytes ++
        ", error_len: Some(" ++ toString faultyBytes ++ ") \x7d"

end ExecutionError

end DataAccess
