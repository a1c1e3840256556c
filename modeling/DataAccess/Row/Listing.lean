/-
This file says what comes of reading a column of all pending rows into a list. Either every row has
a value in the column, or the first row without one is the answer and nothing behind it is read.
-/

import DataAccess.Row.Collection
import DataAccess.Row.ForwardReading
import Mathlib.Data.List.Forall2

namespace DataAccess

namespace ResultSource

variable {Source Result : Type} [ResultSource Source]

/-- Reads a column of so many rows one by one, or of all rows if there are fewer. -/
def readRows (column : Nat) (reader : Reader Result) :
    Nat → Source → Except ExecutionError (List Result) × Source
  | 0, source => (.ok [], source)
  | count + 1, source =>
      match advance source with
      | (.error error, after) => (.error error, after)
      | (.ok false, after) => (.ok [], after)
      | (.ok true, after) =>
          match get after column reader with
          | .error error => (.error error, after)
          | .ok value =>
              let (values, left) := readRows column reader count after
              (values.map (value :: ·), left)

/-- A list whose first elements are read one by one and all others together. -/
def toListBehind (count : Nat) (source : Source) (column : Nat) (reader : Reader Result) :
    Except ExecutionError (Array Result) × Source :=
  match readRows column reader count source with
  | (.error error, after) => (.error error, after)
  | (.ok values, after) =>
      let (others, left) := toList after column reader
      (others.map (values.toArray ++ ·), left)

end ResultSource

namespace ResultSet

open ResultSource (Reads)

variable {Result : Type}

/-- The column of the row is read as some value. -/
def IsReadable (column : Nat) (reader : Reader Result) (row : Row) : Prop :=
  ∃ value, Reads (some row) column reader (.ok value)

/-- A list of a column is whole or it is none. If all pending rows have a value in the column, the
list has these values in the order of the rows, and no row is left, nor a current one. Otherwise the
error of the first row without a value is answered; this row is the current one, and the rows behind
it are left. -/
structure Lists (pending : List Row) (column : Nat) (reader : Reader Result)
    (answer : Except ExecutionError (Array Result)) (left : ResultSet) : Prop where
  whole : (∃ values, answer = .ok values) ↔ ∀ row ∈ pending, IsReadable column reader row
  values : ∀ values, answer = .ok values →
    List.Forall₂ (fun row value => Reads (some row) column reader (.ok value)) pending
        values.toList ∧
      left.current? = none ∧ left.pending = [] ∧ left.remaining = 0
  failure : ∀ error, answer = .error error → ∃ before failing behind,
    pending = before ++ failing :: behind ∧ (∀ row ∈ before, IsReadable column reader row) ∧
      Reads (some failing) column reader (.error error) ∧
      left.current? = some failing ∧ left.pending = behind ∧ left.remaining = behind.length

end ResultSet

end DataAccess
