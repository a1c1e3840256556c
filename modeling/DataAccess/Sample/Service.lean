/-
This file offers the sample batches at run time: generated implementations with their registries,
and two registries that no batch declares.
-/

import DataAccess.Resolution.Resolver
import DataAccess.Sample.Database
import DataAccess.Sample.Declarations

namespace DataAccess.Sample

/-- An interface by the path of its declaration. -/
structure InterfacePath where
  segments : List String
deriving DecidableEq

namespace InterfacePath

def ofBatch (batch name : String) : InterfacePath := ⟨[batch, name]⟩

/-- The name of the interface's trait objects, when batches are declared in the module `home`. -/
def named (home : List String) (path : InterfacePath) : String :=
  "dyn " ++ "::".intercalate (home ++ path.segments)

end InterfacePath

/-- What implements an interface: generated code, or code that only says a text. -/
inductive Behaviour where
  | generated (unit : ImplementationUnit)
  | saying (text : String)

/-- An implementation with the database that it was constructed with. -/
structure Service where
  behaviour : Behaviour
  database : Database

abbrev ServiceManifest : Type :=
  Manifest InterfacePath Database Service

/-- A method that a trait provides calls other methods and answers what the last one answers. -/
structure ProvidedMethod where
  parameters : List ValueType
  calls : List (String × (List Bindable → List Bindable))

namespace ProvidedMethod

/-- The methods with a body, in the trait that is looked at. -/
def named? (interface method : String) : Option ProvidedMethod :=
  if interface == "KvDao" && method == "put_twice" then
    some ⟨[.borrowed, .long], [("put", id), ("put", id), ("count", fun _ => [])]⟩
  else none

end ProvidedMethod

namespace Service

def parameterTypes (signature : Signature) : List ValueType :=
  (signature.arguments.filterMap Interface.inputType?).filterMap fun declared =>
    (Mapping.resolveParameter declared).toOption.map Prod.fst

def method? (unit : ImplementationUnit) (name : String) : Option CompiledMethod :=
  unit.methods.find? fun method => method.signature.name.text == name

/-- The types of the arguments that a method takes; none if there is no such method. -/
def parameters? (service : Service) (method : String) : Option (List ValueType) :=
  match service.behaviour with
  | .saying _ => some []
  | .generated unit =>
      match ProvidedMethod.named? unit.interface.text method with
      | some provided => some provided.parameters
      | none => (method? unit method).map fun found => parameterTypes found.signature

/-- Calls methods one after the other until one of them does not return. -/
def callAll (unit : ImplementationUnit) (arguments : List Bindable) (database : Database) :
    List (String × (List Bindable → List Bindable)) → Option (Answer × Database)
  | [] => none
  | (name, choose) :: rest => do
      let method ← method? unit name
      let (answer, after) := database.call method (choose arguments)
      match answer, rest with
      | .returned _, _ :: _ => callAll unit arguments after rest
      | _, _ => return (answer, after)

/-- Calls a method of the service. -/
def call? (service : Service) (method : String) (arguments : List Bindable) :
    Option (Answer × Database) :=
  match service.behaviour with
  | .saying text => some (.returned (.scalar .string text), service.database)
  | .generated unit =>
      match ProvidedMethod.named? unit.interface.text method with
      | some provided => callAll unit arguments service.database provided.calls
      | none =>
          (method? unit method).map fun found => service.database.call found arguments

end Service

namespace ServiceManifest

/-- The registry of a batch constructs what the batch emits. -/
def ofBatch (batch : Batch) : ServiceManifest :=
  let units := CompiledBatch.units batch
  let name := batch.name.text
  ⟨name, name, units.map fun unit => unit.interface.text,
    fun interface database =>
      (units.find? fun unit => InterfacePath.ofBatch name unit.interface.text = interface).map
        fun unit => ⟨interface, .generated unit, database⟩⟩

/-- A registry that answers every lookup with an implementation of something else. -/
def lying : ServiceManifest :=
  ⟨"lying", "lying", ["Hello", "Bye"], fun _ database => some ⟨⟨[]⟩, .saying "lie", database⟩⟩

/-- A registry with an implementation of its own for an interface of another batch. -/
def shadow : ServiceManifest :=
  let hello := InterfacePath.ofBatch "english_db" "Hello"
  ⟨"shadow", "shadow", ["Hello"], fun interface database =>
    if interface = hello then some ⟨hello, .saying "shadow", database⟩ else none⟩

/-- The manifests that are discovered. -/
def discovered : List ServiceManifest :=
  batches.map ofBatch

def named? (name : String) : Option ServiceManifest :=
  (discovered ++ [lying, shadow]).find? fun manifest => manifest.name == name

end ServiceManifest

end DataAccess.Sample
