/-
This file says which places of a declaration have to be known for everything that can be told of it
to have a known place.
-/

import DataAccess.Declaration.Item
import DataAccess.Source.Places

namespace DataAccess

variable (known : Position → Prop)

/-- What an attribute holds is known by the places inside of it. -/
def AttributeContent.Placed : AttributeContent → Prop
  | .bare => True
  | .list _ _ closing inner => known closing ∧ Token.AllAt known inner
  | .value equals _ => known equals

/-- What can be told of an attribute points to its number sign, its path or its content. -/
structure Attribute.Placed (mark : Attribute) : Prop where
  pound : known mark.pound
  path : known mark.path.position
  first : known mark.path.first.position
  content : mark.content.Placed known

/-- Generics without parameters, whose conditions come later, have no place. -/
structure Generics.Placed (generics : Generics) : Prop where
  opening : generics.parameters ≠ [] → known generics.opening
  parameters : ∀ parameter ∈ generics.parameters, parameter.entry.code.Begins known

/-- A receiver is told as a whole; of a typed input its pattern and its type can be told, too. -/
def Input.Placed : Input → Prop
  | .receiver attributes reference mutability self ascription =>
      (Input.receiver attributes reference mutability self ascription).code.Begins known
  | .typed attributes pattern colon declared =>
      (Input.typed attributes pattern colon declared).code.Begins known ∧
        pattern.code.Begins known ∧ declared.code.Begins known

/-- What can be told of a signature points to one of its parts. -/
structure Signature.Placed (signature : Signature) : Prop where
  constness : ∀ position ∈ signature.constness, known position
  asyncness : ∀ position ∈ signature.asyncness, known position
  unsafety : ∀ position ∈ signature.unsafety, known position
  abi : ∀ abi ∈ signature.abi, known abi.position
  name : known signature.name.position
  generics : signature.generics.Placed known
  inputs : ∀ input ∈ signature.inputs, input.entry.Placed known
  variadic : ∀ variadic ∈ signature.variadic, variadic.code.Begins known
  output : ∀ output ∈ signature.output, output.declared.code.Begins known

/-- What can be told of a method points to an attribute, to its signature or to its body. -/
structure Method.Placed (method : Method) : Prop where
  attributes : ∀ mark ∈ method.attributes, mark.Placed known
  signature : method.signature.Placed known
  body : ∀ body ∈ method.body, known body.opening

/-- An item that is no method can only be told as a whole. -/
def TraitItem.Placed : TraitItem → Prop
  | .method declared => declared.Placed known
  | .other code => code.Begins known

/-- What can be told of a trait points to its head or to one of its items. -/
structure TraitDeclaration.Placed (declaration : TraitDeclaration) : Prop where
  unsafety : ∀ position ∈ declaration.unsafety, known position
  automatic : ∀ position ∈ declaration.automatic, known position
  generics : declaration.generics.Placed known
  supertraits : ∀ bound ∈ declaration.supertraits, bound.entry.code.Begins known
  items : ∀ item ∈ declaration.items, item.Placed known

/-- Of an item that is no trait only its attributes can be told. -/
def Item.Placed : Item → Prop
  | .trait declaration => declaration.Placed known
  | .plain item => ∀ mark ∈ item.attributes, mark.Placed known
  | .verbatim _ => True

end DataAccess
