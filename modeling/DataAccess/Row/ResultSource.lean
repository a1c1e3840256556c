/-
This file holds what all sources of rows have in common. A source is advanced from row to row, and
the columns of its current row are read by number; columns count from one.
-/

import DataAccess.Execution.ExecutionError

namespace DataAccess

/-- A source of rows. Its unread part gets smaller with every row onto which it is advanced. -/
class ResultSource (Source : Type) where
  advance : Source → Except ExecutionError Bool × Source
  current? : Source → Option Row
  unread : Source → Nat
  unread_advance : ∀ source, (advance source).1 = .ok true →
    unread (advance source).2 < unread source

namespace ResultSource

variable {Source : Type} [ResultSource Source] {Result : Type}

/-- Reads a column of a row. -/
def readColumn (row : Row) (column : Nat) (reader : Reader Result) :
    Except ExecutionError Result :=
  match column with
  | 0 => .error (.columnOutOfRange 0 row.length)
  | index + 1 =>
      match row[index]? with
      | none => .error (.columnOutOfRange column row.length)
      | some value =>
          match reader value with
          | .ok result => .ok result
          | .error problem => .error (.extraction column problem)

/-- Reads a column of the current row. -/
def get (source : Source) (column : Nat) (reader : Reader Result) :
    Except ExecutionError Result :=
  match current? source with
  | none => .error .noRow
  | some row => readColumn row column reader

end ResultSource

end DataAccess
