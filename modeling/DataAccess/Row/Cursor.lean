/-
This file holds the source that steps through an executing statement.
-/

import DataAccess.Row.ResultSet

namespace DataAccess

/-- What comes of stepping a statement. A row that cannot be copied does not end the execution; a
failure does. -/
inductive Step where
  | row (values : Row)
  | unreadable (error : ExecutionError)
  | failure (error : ExecutionError)
deriving DecidableEq

/-- The steps that are left, and the row of the last advance that reached a row. -/
structure Cursor where
  steps : List Step
  current? : Option Row
deriving DecidableEq

namespace Cursor

def ofSteps (steps : List Step) : Cursor := ⟨steps, none⟩

/-- An advance that fails leaves the current row as it was. -/
def advance : Cursor → Except ExecutionError Bool × Cursor
  | ⟨[], _⟩ => (.ok false, ⟨[], none⟩)
  | ⟨.row values :: steps, _⟩ => (.ok true, ⟨steps, some values⟩)
  | ⟨.unreadable error :: steps, current⟩ => (.error error, ⟨steps, current⟩)
  | ⟨.failure error :: _, current⟩ => (.error error, ⟨[], current⟩)

/-- The current row, taken out of the cursor. -/
def takeCurrent (cursor : Cursor) : Option Row × Cursor :=
  (cursor.current?, { cursor with current? := none })

/-- An advance onto a row takes a step. -/
theorem length_steps_lt {cursor after : Cursor}
    (advanced : cursor.advance = (.ok true, after)) :
    after.steps.length < cursor.steps.length := by
  obtain ⟨_ | ⟨step, steps⟩, current⟩ := cursor
  · simp [advance] at advanced
  · cases step <;> simp [advance] at advanced
    simp [← advanced]

instance : ResultSource Cursor where
  advance := advance
  current? := current?
  unread cursor := cursor.steps.length
  unread_advance _ advanced := length_steps_lt (Prod.ext advanced rfl)

end Cursor

namespace ResultSet

/-- Advances a cursor to its end and takes every row out of it. -/
def rowsOf (cursor : Cursor) : Except ExecutionError (List Row) × Cursor :=
  match advanced : cursor.advance with
  | (.error error, after) => (.error error, after)
  | (.ok false, after) => (.ok [], after)
  | (.ok true, after) =>
      have shorter := Cursor.length_steps_lt advanced
      have : after.takeCurrent.2.steps.length < cursor.steps.length := shorter
      let (rows, final) := rowsOf after.takeCurrent.2
      (rows.map (after.takeCurrent.1.toList ++ ·), final)
termination_by cursor.steps.length

/-- A result set of all rows; an error on the way leaves none. -/
def collect (cursor : Cursor) : Except ExecutionError ResultSet × Cursor :=
  let (rows, final) := rowsOf cursor
  (rows.map ofRows, final)

end ResultSet

end DataAccess
