/-
This file says what each item of a batch contributes: its own code, the code that is emitted for it,
the errors that are reported for it, and the interface that is listed for it.
-/

import DataAccess.Compile.Batch
import DataAccess.Compile.GeneratedRegistry
import DataAccess.Source.Placeless

namespace DataAccess

namespace Item

/-- The trait that carries the marker of an interface, without the marker. -/
def interface? (item : Item) : Option TraitDeclaration :=
  match Declaration.ofItem item with
  | .interface declaration => some declaration
  | .passthrough _ | .misplaced _ _ => none

/-- The item without markers, as it is emitted whatever is wrong with it. -/
def kept (item : Item) : Code :=
  match Declaration.ofItem item with
  | .passthrough passed => passed.code
  | .misplaced carrier _ => carrier.code
  | .interface declaration => (Interface.cleaned declaration).code

/-- All code that is emitted for an item. -/
def emitted (item : Item) : Code :=
  Render.batchItem (CompiledBatch.compileItem item).item

/-- The errors that are reported for an item. -/
def reported (item : Item) : List CompileError :=
  (CompiledBatch.compileItem item).errors

/-- The name of a marked trait for which no error is reported. -/
def compiled? (item : Item) : Option Name :=
  match item.interface?, item.reported with
  | some declaration, [] => some declaration.name
  | _, _ => none

end Item

/-- The names of the marked traits that compiled, in the order of the items. -/
def Batch.compiledNames (batch : Batch) : List Name :=
  batch.items.filterMap Item.compiled?

/-- The registry that the name of a batch and the names of interfaces determine. -/
def Registry.listing (batch : String) (interfaces : List String) : Registry :=
  let entries : List RegistryEntry := interfaces.map fun interface =>
    ⟨⟨interface, .callSite⟩, ImplementationUnit.nameFor ⟨interface, .callSite⟩⟩
  ⟨nameFor ⟨batch, .callSite⟩ entries, ⟨batch, .callSite⟩, entries⟩

namespace CompiledBatch

/-- The registry of a batch. -/
def registry (batch : Batch) : Registry :=
  Registry.ofUnits batch.name (units batch)

/-- What stands in front of the items of a module. -/
def prelude : List Token :=
  Code.tokens (Template.innerAttribute "allow" "unused_variables" ++
    Template.innerAttribute "allow" "unused_imports" ++
    Template.innerAttribute "allow" "dead_code" ++
    Template.word "use" ++ Template.relative ["super"] ++ Template.mark "::" ++
    Template.mark "*" ++ Template.mark ";")

/-- A module of a batch around what stands behind its prelude. -/
def enclosed (name : Name) (isPublic : Bool) (inner : List Token) : List Token :=
  (if isPublic then [Token.keyword "pub" .callSite] else []) ++
    [Token.keyword "mod" .callSite, .word name,
      .group .brace .callSite .callSite (prelude ++ inner)]

/-- A debug file is created, and an item has code that the formatter does not know. -/
def Stops (write : String → Option FileFailure) (batch : Batch) (failure : FormatFailure) :
    Prop :=
  isFormatted write batch.options = true ∧
    batch.items.findSome? (fun item => item.kept.failure?) = some failure

end CompiledBatch

/-- The tokens declare a struct and implement an interface for it. -/
def Implements (tokens : List Token) (interface implementation : Name) : Prop :=
  [Token.keyword "struct" .callSite, .word implementation] <:+: tokens ∧
    [Token.keyword "impl" .callSite, .word interface, Token.keyword "for" .callSite,
      .word implementation] <:+: tokens

end DataAccess
