/-
This file says what the name of a registry is made of. The texts that a registry holds are absorbed
one after the other into a word, whose digits keep the name apart from others.
-/

import DataAccess.Compile.Registry

namespace DataAccess

namespace Digest

/-- The digest of a text is that of its bytes. -/
def ofText (text : String) : UInt64 :=
  ofBytes text.toUTF8.toList

/-- One word is absorbed, in whole numbers. -/
def absorbed (state word : Nat) : Nat :=
  (state + word) * 0xf1357aea2e62a9c5 % UInt64.size

/-- The digest of each text and an end mark behind it are absorbed. -/
def stateOf (texts : List String) : Nat :=
  texts.foldl (fun state text => absorbed (absorbed state (ofText text).toNat) 0xff) 0

end Digest

namespace Registry

/-- The texts on which the name of a registry depends, in the order in which they are absorbed. -/
def textsOf (batch : Name) (units : List ImplementationUnit) : List String :=
  hashedTexts batch (ofUnits batch units).entries

/-- Two sequences of texts of one length differ in exactly one place. -/
structure DifferAt (texts others : List String) (place : Nat) (text other : String) : Prop where
  length : texts.length = others.length
  here : texts[place]? = some text
  there : others[place]? = some other
  unequal : text ≠ other
  elsewhere : ∀ index, index ≠ place → texts[index]? = others[index]?

/-- A registry's name is a fixed word and sixteen lower-case digits to the base of sixteen. -/
def IsNamedBy (name digits : String) : Prop :=
  name = "DaoRegistry" ++ digits ∧ digits.length = 16 ∧
    ∀ digit ∈ digits.toList, digit ∈ "0123456789abcdef".toList

end Registry

end DataAccess
