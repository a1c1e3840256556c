/-
This file proves that calls on the sample database do what the code of the called method says, and
with that what its declaration means.
-/

import DataAccess.Proofs.Execution.Meaning
import DataAccess.Sample.Database

namespace DataAccess.Sample.Database

/-- The statement that a text is prepared as. -/
def statementFor (database : Database) (text : String) : Except DatabaseError Statement :=
  (database.prepareText text).map PreparedQuery.statement

/-- A call is answered as a call of the method on what its query is prepared as. -/
theorem answer_call (database : Database) (method : CompiledMethod) (values : List Bindable) :
    (database.call method values).1 =
      method.call values (database.statementFor method.query.value) := by
  unfold call statementFor
  cases database.prepareText method.query.value <;> rfl

/-- A query that cannot be prepared leaves the database as it is. -/
theorem database_of_unprepared {database : Database} {method : CompiledMethod}
    {values : List Bindable} {error : DatabaseError}
    (fails : database.prepareText method.query.value = .error error) :
    (database.call method values).2 = database := by
  unfold call
  rw [fails]

section

variable {method : CompiledMethod} {generated : GeneratedMethod} {database : Database}

/-- A call is answered as the code of the method says. -/
theorem answer_of_read? (read : GeneratedMethod.read? (Render.method method).tokens = some generated)
    (arguments : CallArguments) :
    (database.call method (arguments.inOrder method.bindings)).1 =
      generated.call arguments database.statementFor := by
  rw [answer_call, GeneratedMethod.call_of_read? read]

/-- Values that are passed by position belong to arguments by name, so every call with a value for
each binding is answered as the code of the method says. -/
theorem exists_answer_of_read? {values : List Bindable}
    (read : GeneratedMethod.read? (Render.method method).tokens = some generated)
    (distinct : (method.bindings.map fun binding => binding.parameter.text).Nodup)
    (complete : method.bindings.length = values.length) :
    ∃ arguments : CallArguments, arguments.inOrder method.bindings = values ∧
      (database.call method values).1 = generated.call arguments database.statementFor := by
  obtain ⟨arguments, rfl⟩ := CallArguments.exists_inOrder distinct complete
  exact ⟨arguments, rfl, answer_of_read? read arguments⟩

/-- The database changes as the statement says that the code of the method steps. -/
theorem database_of_read? {prepared : PreparedQuery}
    (read : GeneratedMethod.read? (Render.method method).tokens = some generated)
    (succeeds : database.prepareText method.query.value = .ok prepared)
    (arguments : CallArguments) :
    (database.call method (arguments.inOrder method.bindings)).2 =
      ((generated.execute arguments prepared.statement).stepped?.map fun stepped =>
        prepared.effect stepped.1.slots).getD database := by
  rw [GeneratedMethod.execute_of_read? read]
  simp only [call, succeeds]
  cases (method.execute (arguments.inOrder method.bindings) prepared.statement).stepped? <;> rfl

end

/-- A call of a method of a described interface is answered as its declaration means. -/
theorem answer_eq_meaning {declaration : TraitDeclaration} {interface : InterfaceDescriptor}
    {descriptor : MethodDescriptor} {method : CompiledMethod}
    (described : Interface.describe declaration = .ok interface)
    (member : descriptor ∈ interface.methods)
    (accepted : CompiledMethod.ofDescriptor descriptor = .ok method) :
    ∃ declared, TraitItem.method declared ∈ declaration.items ∧
      Interface.describeMethod interface.name declared = some (.ok descriptor) ∧
      ∀ arguments, Meaning.Fits arguments declared.signature → ∀ database : Database,
        Meaning.call? declared arguments database.statementFor =
          some (database.call method (arguments.inOrder method.bindings)).1 := by
  obtain ⟨declared, _, item, same, compiles⟩ := Meaning.exists_compiles described member accepted
  refine ⟨declared, item, same, fun arguments fits database => ?_⟩
  rw [answer_call]
  exact compiles.call fits database.statementFor

end DataAccess.Sample.Database
