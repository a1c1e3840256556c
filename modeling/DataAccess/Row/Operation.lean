/-
This file holds sequences of operations on sources of rows, with the answers that they get.
-/

import DataAccess.Row.Cursor

namespace DataAccess

/-! Requests that are served one after the other, each in the state that the earlier ones left. -/
namespace Run

variable {State : Type} {Request : Type 1} {Answer : Request → Type}
  (serve : State → (request : Request) → Answer request × State)

/-- The state behind all requests. -/
def final : State → List Request → State
  | state, [] => state
  | state, request :: rest => final (serve state request).2 rest

/-- Each request with its answer. -/
def answers : State → List Request → List (Σ request, Answer request)
  | _, [] => []
  | state, request :: rest =>
      ⟨request, (serve state request).1⟩ :: answers (serve state request).2 rest

end Run

namespace ResultSource

/-- What can be asked of every source of rows. -/
inductive Operation : Type 1 where
  | advance
  | current
  | get {Result : Type} (column : Nat) (reader : Reader Result)

namespace Operation

def Answer : Operation → Type
  | .advance => Except ExecutionError Bool
  | .current => Option Row
  | @get Result _ _ => Except ExecutionError Result

def isAdvance : Operation → Bool
  | .advance => true
  | .current => false
  | .get _ _ => false

end Operation

/-- The answer to an operation, and the source behind it. -/
def perform {Source : Type} [ResultSource Source] (source : Source) :
    (operation : Operation) → operation.Answer × Source
  | .advance => advance source
  | .current => (current? source, source)
  | .get column reader => (get source column reader, source)

end ResultSource

namespace ResultSet

/-- What can be asked of a result set: what can be asked of every source, and the number of rows
that are left. -/
inductive Operation : Type 1 where
  | ofSource (operation : ResultSource.Operation)
  | remaining

namespace Operation

def Answer : Operation → Type
  | .ofSource operation => operation.Answer
  | .remaining => Nat

def isAdvance : Operation → Bool
  | .ofSource operation => operation.isAdvance
  | .remaining => false

end Operation

/-- The answer to an operation, and the result set behind it. -/
def perform (rows : ResultSet) : (operation : Operation) → operation.Answer × ResultSet
  | .ofSource operation => ResultSource.perform rows operation
  | .remaining => (rows.remaining, rows)

end ResultSet

end DataAccess
