/-
This file finds implementations at run time. The registries of all batches are asked in turn, and
what a registry answers counts only if it implements the interface that was asked for.
-/

import DataAccess.Text.Quoted

namespace DataAccess

/-- Something that a registry constructs, with the interface that it really implements. -/
structure Implementation (Interface Object : Type) where
  interface : Interface
  object : Object

/-- What a batch offers at run time. -/
structure LookupTable (Interface Handle Object : Type) where
  name : String
  interfaces : List String
  construct? : Interface → Handle → Option (Implementation Interface Object)

/-- The record by which the lookup table of a batch is discovered. -/
structure Manifest (Interface Handle Object : Type) where
  name : String
  registry : LookupTable Interface Handle Object

/-- No registry provides an interface. -/
structure ResolutionError (Interface : Type) where
  interface : Interface
deriving DecidableEq

structure Resolver (Interface Handle Object : Type) where
  manifests : List (Manifest Interface Handle Object)

variable {Interface Handle Object : Type}

namespace Manifest

/-- A manifest is shown by its name and the interfaces of its registry. -/
def shown (manifest : Manifest Interface Handle Object) : String :=
  "Manifest \x7b name: " ++ Text.Quoted.shown manifest.name ++ ", interfaces: [" ++
    ", ".intercalate (manifest.registry.interfaces.map Text.Quoted.shown) ++ "] \x7d"

/-- The registry's object, if it implements the interface. -/
def provided? [DecidableEq Interface] (manifest : Manifest Interface Handle Object)
    (interface : Interface) (handle : Handle) : Option Object :=
  match manifest.registry.construct? interface handle with
  | some found => if found.interface = interface then some found.object else none
  | none => none

end Manifest

/-- The message about an interface, given how the interface is named. -/
def ResolutionError.message (error : ResolutionError Interface) (named : Interface → String) :
    String :=
  "no registry provides an implementation of `" ++ named error.interface ++ "`"

namespace Resolver

def ofManifests (manifests : List (Manifest Interface Handle Object)) :
    Resolver Interface Handle Object :=
  ⟨manifests⟩

/-- A registered manifest is asked after those before it. -/
def register (resolver : Resolver Interface Handle Object)
    (manifest : Manifest Interface Handle Object) : Resolver Interface Handle Object :=
  ⟨resolver.manifests ++ [manifest]⟩

def resolveIn [DecidableEq Interface] (interface : Interface) (handle : Handle) :
    List (Manifest Interface Handle Object) → Except (ResolutionError Interface) Object
  | [] => .error ⟨interface⟩
  | manifest :: rest =>
      match manifest.provided? interface handle with
      | some object => .ok object
      | none => resolveIn interface handle rest

/-- The object of the first registry that has one. -/
def resolve [DecidableEq Interface] (resolver : Resolver Interface Handle Object)
    (interface : Interface) (handle : Handle) : Except (ResolutionError Interface) Object :=
  resolveIn interface handle resolver.manifests

end Resolver

end DataAccess
