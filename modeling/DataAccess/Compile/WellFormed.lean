/-
This file says which traits can be described, and what a description tells of its trait. It looks at
the forms of declarations alone and not at the errors that are told of others.
-/

import DataAccess.Compile.Dispatch
import Mathlib.Data.List.Forall2

namespace DataAccess

/-- The attribute holds a string literal between its delimiters and nothing else. -/
def Attribute.Holds (mark : Attribute) (literal : StringLiteral) : Prop :=
  ∃ delimiter opening closing token, mark.content = .list delimiter opening closing [token] ∧
    StringLiteral.ofToken? token = some literal

/-- Something is left of the text after trimming. -/
def StringLiteral.IsWritten (literal : StringLiteral) : Prop :=
  ∃ character ∈ literal.value.toList, Text.isWhitespace character = false

/-- The word for the implementing type, unqualified and without arguments. -/
inductive DeclaredType.IsSelf : DeclaredType → Prop
  | word (position : Position) : IsSelf (.path [] ⟨"Self", position⟩ .none)

/-- The bound of types with a size, whatever qualifies its name. A relaxed one is another bound. -/
inductive Bound.IsSized : Bound → Prop
  | named (enclosure : Option (Position × Position)) (binder qualifier : Code)
      (position : Position) (arguments : Arguments) :
      IsSized (.named enclosure none binder qualifier ⟨"Sized", position⟩ arguments)

namespace Signature

/-- The conditions bound the implementing type by `Sized`, which keeps the method off objects. -/
def IsKeptOff (signature : Signature) : Prop :=
  ∃ clause binder bounded colon bounds bound, signature.generics.whereClause = some clause ∧
    Predicate.type binder bounded colon bounds ∈ Separated.entries clause.predicates ∧
    bounded.IsSelf ∧ bound ∈ Separated.entries bounds ∧ bound.IsSized

/-- The signature has no qualifiers, no generic parameters, no conditions and no open end. -/
structure IsPlain (signature : Signature) : Prop where
  constness : signature.constness = none
  asyncness : signature.asyncness = none
  unsafety : signature.unsafety = none
  abi : signature.abi = none
  parameters : signature.generics.parameters = []
  conditions : signature.generics.whereClause = none
  variadic : signature.variadic = none

end Signature

namespace Input

/-- A receiver by reference: any lifetime, perhaps `mut`, and no type of its own. -/
inductive IsReference : Input → Prop
  | receiver (attributes : List Attribute) (ampersand : Position) (lifetime : Option Name)
      (mutability : Option Position) (self : Position) :
      IsReference (.receiver attributes (some (ampersand, lifetime)) mutability self none)

/-- A parameter has a plain name and a type that can be bound, whose tag it is described with. -/
inductive Declares : Input → ParameterDescriptor → Prop
  | parameter {attributes : List Attribute} {mutability : Option Position} {name : Name}
      {colon : Position} {declared : DeclaredType} {value : ValueType} {tag : WireTag}
      (bound : Mapping.resolveParameter declared = .ok (value, tag)) :
      Declares (.typed attributes (.named none mutability name none) colon declared) ⟨name, tag⟩

end Input

namespace Method

/-- The method carries at least one query marker. -/
def isQueried (method : Method) : Bool :=
  method.attributes.any Interface.isQuery

/-- A method without a query has a body, and it is kept off objects or can be called on them. -/
structure IsProvided (method : Method) : Prop where
  bodied : method.body.isSome = true
  callable : method.signature.IsKeptOff ∨
    (Interface.Dispatchable method.signature ∧ Interface.IsClosed method.signature)

/-- A method that an implementation can be generated for: one query that is not blank, no body, a
plain signature, a receiver by reference, and parameters that can be bound. -/
structure IsGenerated (method : Method) : Prop where
  query : ∃ mark literal, method.attributes.filter Interface.isQuery = [mark] ∧
    mark.Holds literal ∧ literal.IsWritten
  bodiless : method.body = none
  plain : method.signature.IsPlain
  inputs : ∃ receiver others, method.signature.arguments = receiver :: others ∧
    receiver.IsReference ∧ ∀ input ∈ others, ∃ parameter, input.Declares parameter

/-- The descriptor repeats the method's name and signature, has the literal of its only query
marker, and has its inputs behind the receiver one for one, each with its own name and with the tag
of its own type. -/
structure DescribedBy (method : Method) (descriptor : MethodDescriptor) : Prop where
  name : descriptor.name = method.signature.name
  signature : descriptor.signature = method.signature
  query : ∃ mark, method.attributes.filter Interface.isQuery = [mark] ∧
    mark.Holds descriptor.query
  parameters : List.Forall₂ Input.Declares method.signature.arguments.tail descriptor.parameters

end Method

def TraitItem.queried? : TraitItem → Option Method
  | .method declared => if declared.isQueried then some declared else none
  | .other _ => none

namespace TraitDeclaration

/-- The trait has no generic parameters, no conditions, no qualifiers and no supertraits. -/
structure IsPlain (declaration : TraitDeclaration) : Prop where
  parameters : declaration.generics.parameters = []
  conditions : declaration.generics.whereClause = none
  unsafety : declaration.unsafety = none
  automatic : declaration.automatic = none
  supertraits : declaration.supertraits = []

/-- A plain trait that holds methods alone, with a query or provided. -/
structure IsWellFormed (declaration : TraitDeclaration) : Prop where
  plain : declaration.IsPlain
  methods : ∀ item ∈ declaration.items, ∃ method, item = .method method
  provided : ∀ method, TraitItem.method method ∈ declaration.items →
    method.isQueried = false → method.IsProvided
  generated : ∀ method, TraitItem.method method ∈ declaration.items →
    method.isQueried = true → method.IsGenerated

/-- The methods with a query, in the order of their declaration. -/
def queried (declaration : TraitDeclaration) : List Method :=
  declaration.items.filterMap TraitItem.queried?

/-- The description has the name and the visibility of the trait and describes its methods with a
query, one for one and in their order. -/
structure DescribedBy (declaration : TraitDeclaration) (interface : InterfaceDescriptor) :
    Prop where
  name : interface.name = declaration.name
  visibility : interface.visibility = declaration.visibility
  methods : List.Forall₂ Method.DescribedBy declaration.queried interface.methods

end TraitDeclaration

end DataAccess
