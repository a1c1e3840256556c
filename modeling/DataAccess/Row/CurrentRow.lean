/-
This file says which row a cursor shows: the row of the last advance that did not fail, if that
advance reached a row. A row is stale when an advance behind it has failed.
-/

import DataAccess.Row.ForwardReading

namespace DataAccess

/-- What the steps come to, one after the other. A failure is the last of them. -/
def Step.outcomes : List Step → List (Except ExecutionError Row)
  | [] => []
  | .row values :: rest => .ok values :: outcomes rest
  | .unreadable error :: rest => .error error :: outcomes rest
  | .failure error :: _ => [.error error]

namespace Cursor

/-- What an advance behind so many others comes to: the row that it reaches, nothing behind the last
step, or an error. -/
def outcomeOf (steps : List Step) (advances : Nat) : Except ExecutionError (Option Row) :=
  (Step.outcomes steps)[advances]?.elim (.ok none) (Except.map some)

/-- The row that the most recent of so many advances reached, if it reached one. -/
def mostRecent? (steps : List Step) : Nat → Option Row
  | 0 => none
  | advances + 1 => (outcomeOf steps advances).toOption.join

/-- One of so many advances reached the row, and all advances behind it failed. -/
def IsLastReached (steps : List Step) (advances : Nat) (row : Row) : Prop :=
  ∃ earlier < advances, outcomeOf steps earlier = .ok (some row) ∧
    ∀ later, earlier < later → later < advances → ∃ error, outcomeOf steps later = .error error

/-- The most recent of so many advances failed, and another one had reached a row before it. -/
def IsStale (steps : List Step) (advances : Nat) : Prop :=
  ∃ earlier error row, advances = earlier + 1 ∧ outcomeOf steps earlier = .error error ∧
    IsLastReached steps earlier row

end Cursor

end DataAccess
