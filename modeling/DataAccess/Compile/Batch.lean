/-
This file compiles batches. Interfaces are compiled independently of each other: a failure removes
only the implementation of its own interface, and all errors are answered beside the generated code.
-/

import DataAccess.Compile.DebugText
import DataAccess.Compile.Render
import DataAccess.Parse.Batch

namespace DataAccess

/-- An item after its marker has been looked at; a marker is removed from what carried it. -/
inductive Declaration where
  | passthrough (item : Item)
  | interface (declaration : TraitDeclaration)
  | misplaced (item : PlainItem) (marker : Position)

namespace Declaration

def interfaceMarker : String := "dao"

/-- The marker of an interface has no arguments. -/
def isInterfaceMarker (mark : Attribute) : Bool :=
  mark.isMarker interfaceMarker && mark.isBare

/-- The first marker among attributes and the attributes without it. -/
def takeMarker : List Attribute → Option (Attribute × List Attribute)
  | [] => none
  | first :: rest =>
      if isInterfaceMarker first then some (first, rest)
      else (takeMarker rest).map fun (marker, others) => (marker, first :: others)

def ofItem (item : Item) : Declaration :=
  match item with
  | .verbatim _ => .passthrough item
  | .trait declaration =>
      match takeMarker declaration.attributes with
      | some (_, others) => .interface { declaration with attributes := others }
      | none => .passthrough item
  | .plain plain =>
      match takeMarker plain.attributes with
      | some (marker, others) =>
          .misplaced { plain with attributes := others } marker.path.position
      | none => .passthrough item

end Declaration

/-- The generated code of a batch and everything that was wrong with it. -/
structure CompiledBatch where
  code : Code
  errors : List CompileError

namespace CompiledBatch

def tokens (compiled : CompiledBatch) : List Token :=
  compiled.code.tokens

/-- An item with what is generated for it, and its errors. -/
structure CompiledItem where
  item : Render.BatchItem
  errors : List CompileError

def compileInterface (declaration : TraitDeclaration) :
    Except (List CompileError) ImplementationUnit :=
  (Interface.describe declaration).bind ImplementationUnit.ofInterface

def compileItem (item : Item) : CompiledItem :=
  match Declaration.ofItem item with
  | .passthrough item => ⟨.passthrough item, []⟩
  | .misplaced item marker =>
      ⟨.passthrough (.plain item), [.markerOnNonTrait marker item.kind]⟩
  | .interface declaration =>
      match compileInterface declaration with
      | .ok unit => ⟨.interface (Interface.cleaned declaration) (some unit), []⟩
      | .error errors => ⟨.interface (Interface.cleaned declaration) none, errors⟩

/-- The items compiled so far, with all errors that were found in them. -/
structure Progress where
  items : List Render.BatchItem
  errors : List CompileError

def Progress.add (progress : Progress) (item : Item) : Progress :=
  let compiled := compileItem item
  ⟨progress.items ++ [compiled.item], progress.errors ++ compiled.errors⟩

/-- Items are compiled one after the other. -/
def compileItems (items : List Item) : Progress :=
  items.foldl Progress.add ⟨[], []⟩

def unit? : Render.BatchItem → Option ImplementationUnit
  | .passthrough _ => none
  | .interface _ unit => unit

/-- The implementations that are emitted, in the order of their interfaces. -/
def units (batch : Batch) : List ImplementationUnit :=
  (compileItems batch.items).items.filterMap unit?

/-- The error of a file that cannot be written is the last one. -/
def debugErrors (write : String → Option FileFailure) (options : BatchOptions) :
    List CompileError :=
  match options.debugFile with
  | none => []
  | some literal => ((write literal.value).map (.debugOutput literal.position)).toList

/-- The generated module of a batch. -/
def module (batch : Batch) : Code :=
  Render.batch batch.name batch.options.isPublic (compileItems batch.items).items
    (Registry.ofUnits batch.name (units batch))

/-- The generated code and all errors of a batch; `write` tells whether a file can be written. -/
def ofBatch (write : String → Option FileFailure) (batch : Batch) : CompiledBatch :=
  ⟨module batch, (compileItems batch.items).errors ++ debugErrors write batch.options⟩

/-- A file is formatted for once it has been created. -/
def isFormatted (write : String → Option FileFailure) (options : BatchOptions) : Bool :=
  match options.debugFile with
  | none => false
  | some literal => (write literal.value).all FileFailure.isBehindCreation

/-- The text of the debug file, if one was asked for and could be written. The generated code is
formatted as soon as there is a file. -/
def debugText? (write : String → Option FileFailure) (batch : Batch) :
    Except FormatFailure (Option String) :=
  if isFormatted write batch.options then
    (DebugText.ofCode (module batch)).map fun text =>
      if (debugErrors write batch.options).isEmpty then some text else none
  else .ok none

/-- Compiles a batch and writes its debug file. Code that the formatter does not know stops the
compiler. -/
def compile (write : String → Option FileFailure) (batch : Batch) :
    Except FormatFailure CompiledBatch :=
  (debugText? write batch).map fun _ => ofBatch write batch

end CompiledBatch

end DataAccess
