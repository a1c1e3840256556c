/-
This file holds prepared statements. A statement keeps a value for each placeholder and can be
executed any number of times.
-/

import DataAccess.Row.Cursor

namespace DataAccess

/-- What can be bound to a placeholder. -/
inductive Bindable where
  | typed (type : ValueType) (value : type.Carrier)
  | unsigned (value : UInt64)
  | missing

namespace Bindable

/-- The stored form of an argument; integers are stored with a sign. -/
def stored : Bindable → Except DatabaseError Value
  | .typed type value => .ok (type.store value)
  | .unsigned value =>
      if value.toNat < UInt64.size / 2 then .ok (.integer value.toInt64) else .error .numberTooLarge
  | .missing => .ok .null

end Bindable

/-- The values of the placeholders, and what stepping brings when they hold such values. -/
structure Statement where
  slots : List Value
  outcome : List Value → List Step

namespace Statement

/-- A statement none of whose placeholders has been bound. -/
def unbound (parameterCount : Nat) (outcome : List Value → List Step) : Statement :=
  ⟨List.replicate parameterCount .null, outcome⟩

def parameterCount (statement : Statement) : Nat :=
  statement.slots.length

/-- Placeholders are counted from one in signed words of 32 bits, to which a position is cut off. -/
def placeholder (position : Nat) : Int :=
  (Int32.ofNat position).toInt

/-- The last position that can be bound. Placeholders are counted in signed words of 32 bits, so
that a statement may have more of them than can be reached. -/
def addressable (statement : Statement) : Nat :=
  min statement.parameterCount (UInt32.size / 2 - 1)

/-- The statement with another value in a slot. -/
def fill (statement : Statement) (slot : Nat) (value : Value) : Statement :=
  { statement with slots := statement.slots.set slot value }

/-- Binds an argument to the placeholder at a position. The class in which the argument is stored
must be one that the tag accepts. -/
def bind (statement : Statement) (position : Nat) (argument : Bindable) (tag : WireTag) :
    Except ExecutionError Statement :=
  match argument.stored with
  | .error error => .error (.database error)
  | .ok value =>
      if !tag.accepts value.storage then .error (.binding position tag value.storage)
      else if 1 ≤ placeholder position ∧ placeholder position ≤ statement.parameterCount then
        let slot := (placeholder position).toNat - 1
        .ok (statement.fill slot value.bound)
      else .error (.database .positionOutOfRange)

/-- Binds an argument, or keeps every placeholder as it is when the binding fails. -/
def tryBind (statement : Statement) (position : Nat) (argument : Bindable) (tag : WireTag) :
    Except ExecutionError Unit × Statement :=
  match statement.bind position argument tag with
  | .ok bound => (.ok (), bound)
  | .error error => (.error error, statement)

/-- Executes the statement; rows are read as the cursor is advanced. -/
def query (statement : Statement) : Cursor :=
  .ofSteps (statement.outcome statement.slots)

/-- Executes the statement and keeps every row. -/
def resultSet (statement : Statement) : Except ExecutionError ResultSet :=
  (ResultSet.collect statement.query).1

end Statement

end DataAccess
