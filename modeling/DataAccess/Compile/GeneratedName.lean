/-
This file says which names the generated code of a batch adds to the traits that it serves, and what
the identifiers in its bindings denote. A raw prefix makes no other name.
-/

import DataAccess.Compile.Coverage
import DataAccess.Compile.RegistryName

namespace DataAccess

/-- The name without its raw prefix. -/
def Name.plain (name : Name) : String :=
  match Lexeme.after "r#" name.text.toList with
  | some body => String.ofList body
  | none => name.text

def Item.trait? : Item → Option TraitDeclaration
  | .trait declaration => some declaration
  | .plain _ | .verbatim _ => none

namespace Batch

/-- The names of all traits, marked or not. -/
def traitNames (batch : Batch) : List String :=
  (batch.items.filterMap Item.trait?).map fun declaration => declaration.name.plain

/-- The names of the marked traits, whether they compile or not. -/
def interfaceNames (batch : Batch) : List String :=
  (batch.items.filterMap Item.interface?).map fun declaration => declaration.name.plain

end Batch

/-- What a name stands for in a generated method: what executes, or a parameter of the method. -/
inductive Referent where
  | statement
  | parameter (name : String)
deriving DecidableEq, Repr

/-- The name that a plain input introduces. -/
def Input.name? : Input → Option Name
  | .typed _ (.named _ _ name none) _ _ => some name
  | .typed _ _ _ _ | .receiver _ _ _ _ _ => none

namespace Signature

def parameterNames (signature : Signature) : List Name :=
  signature.arguments.filterMap Input.name?

/-- The names that can be used between the bars and the end of a closure, the inner ones first: that
of the closure's own parameter and those of the parameters of the method around it. -/
def scope (signature : Signature) : List (String × Referent) :=
  (Render.statementName, .statement) ::
    signature.parameterNames.map fun name => (name.plain, .parameter name.plain)

/-- An identifier denotes what introduces its name furthest inside. -/
def denoted? (signature : Signature) (identifier : Name) : Option Referent :=
  signature.scope.lookup identifier.plain

end Signature

namespace CompiledMethod

/-- The code of a method binds the parameters of its signature, one for one and in their order. What
it refers to is the parameter, unless that is called like the parameter of the closure. -/
structure Binds (method : CompiledMethod) (generated : GeneratedMethod) : Prop where
  read : GeneratedMethod.read? (Render.method method).tokens = some generated
  signature : generated.signature = method.signature.tokens
  parameters : generated.bindings.map Binding.parameter = method.signature.parameterNames
  reached : ∀ name ∈ method.signature.parameterNames,
    method.signature.denoted? name = some (.parameter name.plain) ↔
      name.plain ≠ Render.statementName
  hidden : ∀ name ∈ method.signature.parameterNames,
    method.signature.denoted? name = some .statement ↔ name.plain = Render.statementName

end CompiledMethod

namespace CompiledBatch

/-- The names of the structs that are generated for a batch: one for each implementation, and that
of the registry. -/
def structNames (batch : Batch) : List String :=
  (units batch).map (fun unit => unit.name.plain) ++ [(registry batch).name]

/-- The tokens inside a module declare the structs that are generated for its batch. -/
structure Declares (inner : List Token) (batch : Batch) : Prop where
  implementations : ∀ unit ∈ units batch,
    [Token.keyword "struct" .callSite, .word unit.name] <:+: inner ∧
      Token.implementation unit.interface unit.name
        (unit.methods.map fun method => (Render.method method).tokens) <:+: inner
  registry : ∃ listed generated, listed <:+ inner ∧
    GeneratedRegistry.read? listed = some generated ∧ generated.name = (registry batch).name

/-- The names of the structs are apart from each other. A trait has one of them exactly if it is
called like a trait that compiled with the suffix of implementations, or like the registry, so that
its name ends in that suffix or is the prefix of registries with sixteen digits. -/
structure AreApart (batch : Batch) : Prop where
  distinct : (structNames batch).Nodup
  clashing : ∀ name ∈ batch.traitNames, name ∈ structNames batch ↔
    (∃ interface ∈ batch.compiledNames, name = interface.plain ++ "Impl") ∨
      name = (registry batch).name
  formed : ∀ name ∈ structNames batch,
    (∃ start, name = start ++ "Impl") ∨ ∃ digits, Registry.IsNamedBy name digits

end CompiledBatch

end DataAccess
