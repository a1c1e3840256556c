/-
This file proves which errors are reported for a marked trait. Each check adds its own errors to
those of the others, so that no problem of a description hides another one.
-/

import DataAccess.Proofs.Compile.Batch
import Mathlib.Data.List.Basic

namespace DataAccess

section

variable {Problem Value Other : Type}

/-- No problem is lost when results are collected, and none is added. -/
@[simp]
theorem problemsOf_collectAll (results : List (Except (List Problem) Value)) :
    problemsOf (collectAll results) = results.flatMap problemsOf := by
  rw [collectAll]
  cases told : results.flatMap problemsOf with
  | nil => rfl
  | cons problem others => rfl

/-- A failure tells what it tells, whatever would have been made of the value. -/
theorem problemsOf_bind_of_error {result : Except (List Problem) Value} {problems : List Problem}
    (next : Value → Except (List Problem) Other) (failed : result = .error problems) :
    problemsOf (result.bind next) = problems := by
  rw [failed]
  rfl

end

namespace Interface

/-- The parameters have the errors of the receiver, and then those of each other input. -/
theorem problemsOf_parameters (signature : Signature) :
    problemsOf (parameters signature) = receiverErrors signature ++
      (signature.arguments.tail.map (describeInput signature.name)).flatMap problemsOf := by
  rw [← problemsOf_collectAll, parameters]
  cases receiverErrors signature <;>
    cases collectAll (signature.arguments.tail.map (describeInput signature.name)) <;>
    simp [problemsOf]

/-- A query has the errors of the signature, of the body, of its text and of the parameters, in this
order. -/
theorem problemsOf_describeQuery (method : Method) (first : Attribute)
    (others : List Attribute) :
    problemsOf (describeQuery method first others) =
      signatureErrors method.signature ++ bodyErrors method ++
        problemsOf (query method.signature.name first others) ++
        problemsOf (parameters method.signature) := by
  rw [describeQuery]
  split
  next literal found early read parametric =>
    rw [early, read, parametric]
    rfl
  next => rfl

/-- The errors that are told of an item of a trait. -/
def itemErrors (interface : Name) (item : TraitItem) : List CompileError :=
  (describeItem interface item).toList.flatMap problemsOf

/-- A trait has its own errors and those of all its items. -/
theorem problemsOf_describe (declaration : TraitDeclaration) :
    problemsOf (describe declaration) =
      traitErrors declaration ++ declaration.items.flatMap (itemErrors declaration.name) := by
  have items : declaration.items.flatMap (itemErrors declaration.name) =
      problemsOf (collectAll (declaration.items.filterMap (describeItem declaration.name))) := by
    rw [problemsOf_collectAll, List.filterMap_eq_flatMap_toList, List.flatMap_assoc]
    rfl
  rw [items, describe]
  cases collectAll (declaration.items.filterMap (describeItem declaration.name)) with
  | error errors => rfl
  | ok methods => cases traitErrors declaration <;> simp [problemsOf]

end Interface

namespace CompiledBatch

/-- The errors of a marked trait are those of its compilation. -/
theorem reported_interface {item : Item} {declaration : TraitDeclaration}
    (marked : item.interface? = some declaration) :
    item.reported = problemsOf (compileInterface declaration) := by
  obtain ⟨silent, unit, compiled, _⟩ | ⟨_, failed, _⟩ := compileItem_interface marked
  · rw [silent, compiled]
    rfl
  · rw [failed]
    rfl

/-- A trait that could be described has the errors of its methods' return types and no others. -/
theorem problemsOf_compileInterface_of_ok {declaration : TraitDeclaration}
    {interface : InterfaceDescriptor} (described : Interface.describe declaration = .ok interface) :
    problemsOf (compileInterface declaration) = interface.methods.flatMap fun method =>
      problemsOf ((CompiledMethod.ofDescriptor method).mapError ([·])) := by
  have compiled : problemsOf (ImplementationUnit.ofInterface interface) = problemsOf (collectAll
      (interface.methods.map fun method =>
        (CompiledMethod.ofDescriptor method).mapError ([·]))) := by
    rw [ImplementationUnit.ofInterface]
    split
    next collected =>
      rw [collected]
      rfl
    next collected =>
      rw [collected]
      rfl
  rw [compileInterface, described]
  change problemsOf (ImplementationUnit.ofInterface interface) = _
  rw [compiled, problemsOf_collectAll, List.flatMap_map]

/-- The errors of an item stand together among those of its batch. -/
theorem reported_together (write : String → Option FileFailure) {batch : Batch} {item : Item}
    (member : item ∈ batch.items) : item.reported <:+: (ofBatch write batch).errors := by
  obtain ⟨before, after, split⟩ := List.append_of_mem member
  refine ⟨before.flatMap Item.reported,
    after.flatMap Item.reported ++ debugErrors write batch.options, ?_⟩
  rw [ofBatch, compileItems_eq, split, List.flatMap_append, List.flatMap_cons]
  simp only [List.append_assoc]

end CompiledBatch

end DataAccess
