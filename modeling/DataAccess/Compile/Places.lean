/-
This file says where the errors of a batch point.
-/

import DataAccess.Compile.WellFormed
import DataAccess.Source.Places

namespace DataAccess

/-- An error points to known places, also where it refers to an earlier one. -/
def CompileError.PlacedAt (known : Position → Prop) (error : CompileError) : Prop :=
  known error.position ∧ ∀ previous ∈ error.previous?, known previous

/-- Generics that are nothing but conditions. -/
def Generics.IsConditional (generics : Generics) : Prop :=
  generics.parameters = [] ∧ generics.whereClause.isSome = true

/-- Generics have the place of their bracket, so the errors about mere conditions have none. -/
inductive TraitDeclaration.Unplaced (declaration : TraitDeclaration) : CompileError → Prop where
  | trait (conditional : declaration.generics.IsConditional) :
      declaration.Unplaced (.unsupportedTrait declaration.name .callSite .generics)
  | method {method : Method} (queried : method ∈ declaration.queried)
      (conditional : method.signature.generics.IsConditional) :
      declaration.Unplaced (.unsupportedMethod method.signature.name .callSite .generics)

/-- An error about the conditions of a marked trait. -/
def Item.Unplaced (item : Item) (error : CompileError) : Prop :=
  ∃ declaration, item.interface? = some declaration ∧ declaration.Unplaced error

/-- The errors of an item point to its own tokens, apart from those about mere conditions. -/
structure Item.ToldIn (item : Item) (segment : List Token) : Prop where
  placed : ∀ error ∈ item.reported, ¬ item.Unplaced error →
    error.PlacedAt (· ∈ Token.placesOf segment)
  unplaced : ∀ error, item.Unplaced error → error ∈ item.reported ∧ error.position = .callSite

end DataAccess
