/-
This file holds the implementation units of a batch and the registry that lists them. A registry's
name depends on what it lists, so that distinct batches do not collide.
-/

import DataAccess.Compile.Interface
import DataAccess.Digest
import DataAccess.Text.Quoted

namespace DataAccess

/-- Binds a parameter to a placeholder; placeholders count from one. -/
structure Binding where
  position : Nat
  parameter : Name
  tag : WireTag

/-- What is done with the executed statement. -/
inductive Extract where
  | finish
  | resultSet
  | scalar (accessor : Accessor)
  | collection (kind : ContainerKind) (element : Accessor)
deriving DecidableEq, Repr

structure CompiledMethod where
  signature : Signature
  query : StringLiteral
  bindings : List Binding
  extract : Extract
  failure : FailureMode

/-- The implementation of one interface. -/
structure ImplementationUnit where
  name : Name
  interface : Name
  visibility : Code
  methods : List CompiledMethod

structure RegistryEntry where
  interface : Name
  implementation : Name

structure Registry where
  name : String
  batch : Name
  entries : List RegistryEntry

namespace CompiledMethod

/-- A value that can be returned can be extracted, and always from the first column. -/
def extractOf? : ReturnShape → Option Extract
  | .void => some .finish
  | .cursor => some .resultSet
  | .scalar value => value.accessor?.map .scalar
  | .collection kind element => element.accessor?.map (.collection kind)

def bindingsFrom : Nat → List ParameterDescriptor → List Binding
  | _, [] => []
  | position, parameter :: rest =>
      ⟨position, parameter.name, parameter.tag⟩ :: bindingsFrom (position + 1) rest

def unsupportedReturn (method : MethodDescriptor) (reason : Rejection) : CompileError :=
  match method.signature.output with
  | some output =>
      .unsupportedReturn method.name output.declared.text output.declared.position reason
  | none => .unsupportedReturn method.name "()" method.name.position reason

def ofDescriptor (method : MethodDescriptor) : Except CompileError CompiledMethod :=
  match Mapping.resolveReturn (method.signature.output.map ReturnType.declared) with
  | .error reason => .error (unsupportedReturn method reason)
  | .ok descriptor =>
      match extractOf? descriptor.shape with
      | none => .error (unsupportedReturn method .parameterOnly)
      | some extract =>
          .ok ⟨method.signature, method.query, bindingsFrom 1 method.parameters, extract,
            descriptor.failure⟩

end CompiledMethod

namespace ImplementationUnit

def nameFor (interface : Name) : Name :=
  { interface with text := interface.text ++ "Impl" }

/-- A single failing method leaves the whole interface without an implementation. -/
def ofInterface (interface : InterfaceDescriptor) :
    Except (List CompileError) ImplementationUnit :=
  match collectAll (interface.methods.map fun method =>
      (CompiledMethod.ofDescriptor method).mapError ([·])) with
  | .ok methods =>
      .ok ⟨nameFor interface.name, interface.name, interface.visibility, methods⟩
  | .error errors => .error errors

end ImplementationUnit

namespace Registry

def hashedTexts (batch : Name) (entries : List RegistryEntry) : List String :=
  batch.text ::
    entries.flatMap fun entry => [entry.interface.text, entry.implementation.text]

def nameFor (batch : Name) (entries : List RegistryEntry) : String :=
  "DaoRegistry" ++ Digest.hexadecimal (Digest.ofTexts (hashedTexts batch entries))

def ofUnits (batch : Name) (units : List ImplementationUnit) : Registry :=
  let entries := units.map fun unit => ⟨unit.interface, unit.name⟩
  ⟨nameFor batch entries, batch, entries⟩

end Registry

/-- Why a text cannot be an identifier. -/
inductive NameProblem where
  | empty
  | number
  | invalid (text : String)
deriving DecidableEq, Repr

namespace NameProblem

def message : NameProblem → String
  | .empty => "Ident is not allowed to be empty; use Option<Ident>"
  | .number => "Ident cannot be a number; use Literal instead"
  | .invalid text => Text.Quoted.shown text ++ " is not a valid Ident"

end NameProblem

/-- A name made from a text that no source holds. -/
def Name.ofText (text : String) : Except NameProblem Name :=
  if text.isEmpty then .error .empty
  else if text.toList.all Char.isDigit then .error .number
  else if Text.Identifier.isIdentifier text then .ok ⟨text, .callSite⟩
  else .error (.invalid text)

/-- The registry of a batch whose interfaces have no methods. -/
def Registry.ofNames (batch : String) (interfaces : List String) :
    Except NameProblem Registry := do
  let units ← interfaces.mapM fun text => do
    let interface ← Name.ofText text
    return (⟨ImplementationUnit.nameFor interface, interface, [], []⟩ : ImplementationUnit)
  let batch ← Name.ofText batch
  return ofUnits batch units

end DataAccess
