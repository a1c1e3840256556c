/-
This file says what a source answers that leads through its rows in order, however its operations
are mixed. What it answers depends on the number of advances alone.
-/

import DataAccess.Row.Operation

namespace DataAccess

/-- The answer to a column of the current row, if there is a current row. -/
structure ResultSource.Reads {Result : Type} (current? : Option Row) (column : Nat)
    (reader : Reader Result) (answer : Except ExecutionError Result) : Prop where
  noRow : answer = .error .noRow ↔ current? = none
  outOfRange : ∀ width, answer = .error (.columnOutOfRange column width) ↔
    ∃ row, current? = some row ∧ row.length = width ∧ (column = 0 ∨ row.length < column)
  converted : ∀ result, answer = .ok result ↔
    ∃ row value, current? = some row ∧ 1 ≤ column ∧ row[column - 1]? = some value ∧
      reader value = .ok result
  unconverted : ∀ problem, answer = .error (.extraction column problem) ↔
    ∃ row value, current? = some row ∧ 1 ≤ column ∧ row[column - 1]? = some value ∧
      reader value = .error problem

namespace ResultSet

/-- The row onto which so many advances lead; both are counted from one. -/
def rowAfter (rows : List Row) (advances : Nat) : Option Row :=
  if 1 ≤ advances ∧ advances ≤ rows.length then rows[advances - 1]? else none

/-- What is answered to an operation behind so many advances. -/
def Answers (rows : List Row) (advances : Nat) :
    (operation : Operation) → operation.Answer → Prop
  | .ofSource .advance, answer => answer = Except.ok (decide (advances + 1 ≤ rows.length))
  | .ofSource .current, answer => answer = rowAfter rows advances
  | .ofSource (.get column reader), answer =>
      ResultSource.Reads (rowAfter rows advances) column reader answer
  | .remaining, answer => answer = rows.length - min advances rows.length

end ResultSet

end DataAccess
