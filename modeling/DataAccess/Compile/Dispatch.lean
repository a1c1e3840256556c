/-
This file says what a method must be like so that its trait can be used as an object, and what of
its types is passed over when they are resolved.
-/

import DataAccess.Compile.Emission
import DataAccess.Mapping.Support

namespace DataAccess

mutual

/-- What stands in a declared type beside the names of its form: what qualifies a path, lifetimes,
arguments that are no types, and the code of types that are no paths. -/
def DeclaredType.unread : DeclaredType → List Token
  | .unit _ _ => []
  | .parenthesized _ _ inner => inner.unread
  | .grouped _ _ inner => inner.unread
  | .reference _ lifetime _ referent =>
      (match lifetime with
        | some name => [.lifetime name]
        | none => []) ++ referent.unread
  | .path qualifier last arguments => qualifier.tokens ++ arguments.unread last
  | .other code => code.tokens

/-- Behind a name with a list of inputs nothing is read, nor is the name itself. -/
def Arguments.unread (arguments : Arguments) (last : Name) : List Token :=
  match arguments with
  | .none => []
  | .angled _ _ list _ => unreadArguments list
  | .called code => .word last :: code.tokens

def unreadArguments : List Argument → List Token
  | [] => []
  | .type declared _ :: rest => declared.unread ++ unreadArguments rest
  | .lifetime name _ :: rest => .lifetime name :: unreadArguments rest
  | .other code _ :: rest => code.tokens ++ unreadArguments rest

end

namespace TypeForm

mutual

/-- All names in a form. -/
def names : TypeForm → List String
  | .unit => []
  | .reference _ referent => referent.names
  | .bare name => [name]
  | .applied name arguments => name :: argumentNames arguments
  | .other => []

def argumentNames : List TypeForm → List String
  | [] => []
  | argument :: rest => argument.names ++ argumentNames rest

end

/-- A result with its error type. -/
inductive FailsWith : TypeForm → TypeForm → Prop
  | error (answer error : TypeForm) : FailsWith (.applied "Result" [answer, error]) error

end TypeForm

/-- The word stands in the type where resolution does not look: beside the names of the form, or in
the error type of a result. -/
def DeclaredType.Overlooks (declared : DeclaredType) (word : String) : Prop :=
  Token.anyMentions word declared.unread = true ∨
    ∃ error, declared.form.FailsWith error ∧ word ∈ error.names

namespace Interface

/-- The words for the implementing type and for types that only an implementation knows. -/
def implementerWords : List String := ["Self", "impl"]

/-- The method can be called on an object, as far as that does not depend on its types. -/
structure Dispatchable (signature : Signature) : Prop where
  generic : ∀ parameter ∈ Separated.entries signature.generics.parameters,
    parameter.isLifetime = true
  received : signature.arguments.head?.any isReceiver = true
  synchronous : signature.asyncness = none

/-- The types of parameters and of the answer do not depend on the implementation. -/
def IsClosed (signature : Signature) : Prop :=
  ∀ declared ∈ namedTypes signature, ∀ word ∈ implementerWords,
    Token.anyMentions word declared.tokens = false

/-- Nowhere do the types name the implementing type where resolution does not look. -/
def IsReadThrough (signature : Signature) : Prop :=
  ∀ declared ∈ namedTypes signature, ∀ word ∈ implementerWords, ¬ declared.Overlooks word

end Interface

end DataAccess
