/-
This file says what is answered to arguments that are bound one after the other, and what the
placeholders hold behind them.
-/

import DataAccess.Execution.Meaning
import DataAccess.Row.Operation

namespace DataAccess

/-- An argument that is to be bound at a position, under a tag. -/
structure Assignment : Type 1 where
  position : Nat
  argument : Bindable
  tag : WireTag

namespace Assignment

/-- The answer to an assignment, and the statement behind it. -/
def serve (statement : Statement) (assignment : Assignment) :
    Except ExecutionError Unit × Statement :=
  statement.tryBind assignment.position assignment.argument assignment.tag

/-- The placeholder that is meant; placeholders are counted from one. -/
def target (assignment : Assignment) : Int :=
  Statement.placeholder assignment.position

/-- A stored form suits when it is missing or of the class of the tag. -/
def Suits (assignment : Assignment) (value : Value) : Prop :=
  value.storage = .null ∨ value.storage = assignment.tag.storage

/-- What is answered to an assignment when there are so many placeholders. -/
structure IsAnswered (count : Nat) (assignment : Assignment) (answer : Except ExecutionError Unit) :
    Prop where
  accepted : answer = .ok () ↔ ∃ value, assignment.argument.stored = .ok value ∧
    assignment.Suits value ∧ 1 ≤ assignment.target ∧ assignment.target ≤ count
  unconverted : ∀ error, assignment.argument.stored = .error error →
    answer = .error (.database error)
  unsuitable : ∀ value, assignment.argument.stored = .ok value → ¬ assignment.Suits value →
    answer = .error (.binding assignment.position assignment.tag value.storage)
  outside : ∀ value, assignment.argument.stored = .ok value → assignment.Suits value →
    ¬ (1 ≤ assignment.target ∧ assignment.target ≤ count) →
    answer = .error (.database .positionOutOfRange)

/-- Assignments with their answers. -/
abbrev Answered : Type 1 :=
  List ((_ : Assignment) × Except ExecutionError Unit)

/-- One of the assignments to the placeholder has been accepted. -/
def Fills (answered : Answered) (placeholder : Nat) : Prop :=
  ∃ assignment : Assignment, ⟨assignment, .ok ()⟩ ∈ answered ∧ assignment.target = placeholder

/-- A placeholder holds the last argument that has been accepted for it, or nothing if there has
been none. An undefined number is held as nothing. -/
structure HoldsLast (answered : Answered) (placeholder : Nat) (held : Value) : Prop where
  missing : ¬ Fills answered placeholder → held = .null
  last : ∀ (before : Answered) (assignment : Assignment) (behind : Answered),
    answered = before ++ ⟨assignment, .ok ()⟩ :: behind → assignment.target = placeholder →
    ¬ Fills behind placeholder →
    ∃ value, assignment.argument.stored = .ok value ∧ held = value.bound

end Assignment

end DataAccess
