/-
This file says what the implementation of a trait has to hold: one method for each method that the
trait leaves without a body, and nothing else.
-/

import DataAccess.Compile.Emission
import DataAccess.Execution.GeneratedMethod
import Mathlib.Data.List.Forall2

namespace DataAccess

/-- An item is required of an implementation if it is a method without a default body. -/
def TraitItem.required? : TraitItem → Option Method
  | .method declared => if declared.body.isNone then some declared else none
  | .other _ => none

/-- The methods that the trait leaves without a body, in their order. -/
def TraitDeclaration.required (declaration : TraitDeclaration) : List Method :=
  declaration.items.filterMap TraitItem.required?

/-- The tokens implement a declared method. They repeat its signature, and their body asks for the
literal of its only query attribute. -/
structure Method.ImplementedBy (declared : Method) (tokens : List Token) : Prop where
  signed : ∃ inner, tokens =
    declared.signature.tokens ++ [.group .brace .callSite .callSite inner]
  asked : ∃ mark literal generated, declared.attributes.filter Interface.isQuery = [mark] ∧
    mark.stringArgument = .ok literal ∧ GeneratedMethod.read? tokens = some generated ∧
    generated.query = literal

/-- The implementation of an interface with the methods. -/
def Token.implementation (interface holder : Name) (methods : List (List Token)) : List Token :=
  [.keyword "impl" .callSite, .word interface, .keyword "for" .callSite, .word holder,
    .group .brace .callSite .callSite methods.flatten]

/-- What is emitted for a marked trait covers it: behind the trait without its query markers stand
the holder of the handle and one implementation of the trait, whose methods are those that the
trait requires, one for one and in their order. -/
structure TraitDeclaration.CoveredBy (declaration : TraitDeclaration) (emitted : List Token)
    (unit : ImplementationUnit) (methods : List (List Token)) : Prop where
  named : unit.interface = declaration.name ∧
    unit.name = ImplementationUnit.nameFor declaration.name
  tokens : emitted = (Interface.cleaned declaration).tokens ++
    Code.tokens (Render.holder unit ++ Render.construction unit ++
      Render.accessImplementation unit) ++ Token.implementation unit.interface unit.name methods
  plain : ∀ item ∈ (Interface.cleaned declaration).items, ∃ method, item = .method method
  kept : (Interface.cleaned declaration).required =
    declaration.required.map Interface.cleanedMethod
  exactly : List.Forall₂ Method.ImplementedBy declaration.required methods

end DataAccess
