/-
This file runs compiled methods on prepared statements. All placeholders are bound before the first
step is taken.
-/

import DataAccess.Compile.Registry
import DataAccess.Execution.Statement
import DataAccess.Row.Collection

namespace DataAccess

/-- What a query method returns. -/
inductive Outcome where
  | unit
  | rows (rows : ResultSet)
  | scalar (type : ValueType) (value : type.Carrier)
  | list (type : ValueType) (values : Array type.Carrier)
  | set (type : ValueType) (values : SortedSet type.Carrier)

/-- What the caller of a method sees. -/
inductive Answer where
  | returned (outcome : Outcome)
  | failed (error : ExecutionError)
  | stopped (message : String)

namespace Extract

/-- Values are extracted from the first column. -/
def valueColumn : Nat := 1

/-- Executes a bound statement and makes of its rows what a method returns. No declaration asks for
a set of a type without an order. -/
def run (extract : Extract) (statement : Statement) : Except ExecutionError Outcome × Cursor :=
  let cursor := statement.query
  match extract with
  | .finish =>
      let (result, after) := ResultSource.finish cursor
      (result.map fun _ => .unit, after)
  | .resultSet =>
      let (result, after) := ResultSet.collect cursor
      (result.map .rows, after)
  | .scalar accessor =>
      let (result, after) := ResultSource.first cursor valueColumn accessor.read
      (result.map (.scalar accessor.type), after)
  | .collection kind accessor =>
      match kind, accessor.type.order? with
      | .set, some _ =>
          let (result, after) := ResultSource.toSortedSet cursor valueColumn accessor.read
          (result.map (.set accessor.type), after)
      | _, _ =>
          let (result, after) := ResultSource.toList cursor valueColumn accessor.read
          (result.map (.list accessor.type), after)

end Extract

namespace FailureMode

/-- A malformed text stops the caller in either mode. -/
def answer (failure : FailureMode) (result : Except ExecutionError Outcome) : Answer :=
  match result with
  | .ok outcome => .returned outcome
  | .error error =>
      match error, failure with
      | .malformedText _ _, _ => .stopped error.message
      | _, .unchecked => .stopped ("query execution failed: " ++ error.message)
      | _, .propagate => .failed error

end FailureMode

/-- The course of a call: its result, and the statement that was stepped with the cursor that is
left, if all arguments could be bound. -/
structure Execution where
  result : Except ExecutionError Outcome
  stepped? : Option (Statement × Cursor)

namespace CompiledMethod

/-- Binds the arguments of a call, which come in the order of their parameters. -/
def bindAll : List Binding → List Bindable → Statement → Except ExecutionError Statement
  | binding :: bindings, argument :: arguments, statement =>
      match statement.bind binding.position argument binding.tag with
      | .error error => .error error
      | .ok bound => bindAll bindings arguments bound
  | _, _, statement => .ok statement

end CompiledMethod

/-- Binds all arguments before the statement is stepped. -/
def Execution.ofParts (bindings : List Binding) (extract : Extract) (arguments : List Bindable)
    (statement : Statement) : Execution :=
  match CompiledMethod.bindAll bindings arguments statement with
  | .error error => ⟨.error error, none⟩
  | .ok bound =>
      let (result, cursor) := extract.run bound
      ⟨result, some (bound, cursor)⟩

namespace CompiledMethod

def execute (method : CompiledMethod) (arguments : List Bindable) (statement : Statement) :
    Execution :=
  .ofParts method.bindings method.extract arguments statement

/-- Calls a method on the statement that its query was prepared as. -/
def call (method : CompiledMethod) (arguments : List Bindable)
    (prepared : Except DatabaseError Statement) : Answer :=
  match prepared with
  | .error error => method.failure.answer (.error (.database error))
  | .ok statement => method.failure.answer (method.execute arguments statement).result

end CompiledMethod

end DataAccess
