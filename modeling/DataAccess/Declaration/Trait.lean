/-
This file holds the traits that declare data access interfaces.
-/

import DataAccess.Declaration.Signature

namespace DataAccess

/-- The braces of a default body and the statements between them. -/
structure Body where
  opening : Position
  closing : Position
  statements : Code

/-- The braces with the inner attributes of what they belong to. -/
def Body.code (body : Body) (attributes : List Attribute) : Code :=
  [.group .brace body.opening body.closing (Attribute.innerCode attributes ++ body.statements)]

/-- A method ends in a semicolon or has a default body. -/
structure Method where
  attributes : List Attribute
  signature : Signature
  body : Option Body
  semicolon : Position

def Method.code (method : Method) : Code :=
  Attribute.outerCode method.attributes ++ method.signature.code ++
    (match method.body with
      | some body => body.code method.attributes
      | none => Code.mark ";" method.semicolon)

inductive TraitItem where
  | method (method : Method)
  | other (code : Code)

namespace TraitItem

def code : TraitItem → Code
  | .method declared => declared.code
  | .other code => code

def position (item : TraitItem) : Position :=
  Token.startOf item.code.tokens

end TraitItem

structure TraitDeclaration where
  attributes : List Attribute
  visibility : Code
  unsafety : Option Position
  automatic : Option Position
  keyword : Position
  name : Name
  generics : Generics
  colon : Position
  supertraits : List (Separated Bound)
  opening : Position
  closing : Position
  items : List TraitItem

namespace TraitDeclaration

def supertraitCode (declaration : TraitDeclaration) : Code :=
  Separated.code "+" (declaration.supertraits.map (Separated.map Bound.code))

def body (declaration : TraitDeclaration) : Body :=
  ⟨declaration.opening, declaration.closing, declaration.items.flatMap TraitItem.code⟩

/-- A colon without supertraits is not printed. -/
def code (declaration : TraitDeclaration) : Code :=
  Attribute.outerCode declaration.attributes ++ declaration.visibility ++
    Code.keyword? "unsafe" declaration.unsafety ++
    Code.keyword? "auto" declaration.automatic ++
    Code.keyword "trait" declaration.keyword ++ Code.word declaration.name ++
    declaration.generics.code ++
    (if declaration.supertraits.isEmpty then []
      else Code.mark ":" declaration.colon ++ declaration.supertraitCode) ++
    declaration.generics.whereCode ++ declaration.body.code declaration.attributes

def tokens (declaration : TraitDeclaration) : List Token :=
  declaration.code.tokens

end TraitDeclaration

end DataAccess
