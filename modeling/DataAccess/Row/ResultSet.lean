/-
This file holds the source that keeps all its rows.
-/

import DataAccess.Row.ResultSource

namespace DataAccess

/-- The rows not yet advanced onto, and the row advanced onto last. -/
structure ResultSet where
  pending : List Row
  current? : Option Row
deriving DecidableEq

namespace ResultSet

def ofRows (rows : List Row) : ResultSet := ⟨rows, none⟩

/-- The number of rows not yet advanced onto. -/
def remaining (rows : ResultSet) : Nat :=
  rows.pending.length

def advance : ResultSet → Bool × ResultSet
  | ⟨[], _⟩ => (false, ⟨[], none⟩)
  | ⟨row :: pending, _⟩ => (true, ⟨pending, some row⟩)

instance : ResultSource ResultSet where
  advance rows := (.ok rows.advance.1, rows.advance.2)
  current? := current?
  unread := remaining
  unread_advance := by
    rintro ⟨_ | ⟨row, pending⟩, current⟩ advanced
    · simp [advance] at advanced
    · simp [advance, remaining]

end ResultSet

end DataAccess
