/-
This file holds the items of a batch.
-/

import DataAccess.Declaration.Trait

namespace DataAccess

/-- The kinds of items that can carry attributes, traits apart. -/
inductive ItemKind where
  | constant
  | enumeration
  | externCrate
  | function
  | foreignBlock
  | implementation
  | invocation
  | moduleBlock
  | record
  | staticValue
  | traitAlias
  | typeAlias
  | unionType
  | useDeclaration
deriving DecidableEq, Repr

/-- An item that is passed through: its attributes, the code before its braces, and what stands
between them. Inner attributes are printed at the front of the braces. -/
structure PlainItem where
  kind : ItemKind
  attributes : List Attribute
  before : Code
  braces : Option Body

def PlainItem.code (item : PlainItem) : Code :=
  Attribute.outerCode item.attributes ++ item.before ++
    (match item.braces with
      | some body => body.code item.attributes
      | none => [])

/-- An item whose form is not looked at keeps its tokens unchanged, attributes included. -/
inductive Item where
  | trait (declaration : TraitDeclaration)
  | plain (item : PlainItem)
  | verbatim (tokens : List Token)

namespace Item

def code : Item → Code
  | .trait declaration => declaration.code
  | .plain passed => passed.code
  | .verbatim tokens => Code.refuse .item tokens

def tokens (item : Item) : List Token :=
  item.code.tokens

end Item

end DataAccess
