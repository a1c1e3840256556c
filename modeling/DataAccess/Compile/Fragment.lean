/-
This file lists the fragments of generated code that are checked to be what they are meant to be,
and says what the module of a batch has to hold.
-/

import DataAccess.Compile.Emission
import DataAccess.Parse.Fragment
import DataAccess.Parse.Layout
import Mathlib.Data.List.Forall2

namespace DataAccess

open Template

/-- A piece of generated code with what it is meant to be. -/
structure Fragment where
  kind : Parse.FragmentKind
  code : Code

namespace Fragment

/-- Generated code is read as soon as it has been made, and compiling stops where that fails. -/
def check (fragment : Fragment) : Except SyntaxError Unit :=
  Parser.run (fragment.kind.parser (Parse.grammarFor fragment.code.tokens)) fragment.code.tokens

/-- The paths to what generated code uses. -/
def paths : List Fragment :=
  [Render.handlePath, Render.accessPath, absolute ["dbx", "execute"],
    absolute ["dbx", "unchecked"], absolute ["dbx", "WireTag"], absolute ["dbx", "ResultSource"],
    absolute Render.materializePath, absolute ["dbx", "DaoRegistry"],
    Render.manifestPath].map (⟨.path, ·⟩)

def ofMethod (method : CompiledMethod) : List Fragment :=
  method.bindings.map (fun bound => ⟨.statement, Render.binding bound⟩) ++
    [⟨.expression, Render.extract method.extract⟩, ⟨.method, Render.method method⟩]

def ofUnit (unit : ImplementationUnit) : List Fragment :=
  unit.methods.flatMap ofMethod ++
    [⟨.implementation, Render.accessImplementation unit⟩, ⟨.file, Render.implementation unit⟩]

/-- Everything that is checked while a batch is compiled. -/
def ofBatch (batch : Batch) : List Fragment :=
  paths ++ (CompiledBatch.units batch).flatMap ofUnit ++
    [⟨.file, Render.registry (CompiledBatch.registry batch)⟩, ⟨.module, CompiledBatch.module batch⟩]

end Fragment

namespace Render

/-- The struct of a registry. -/
def registryRecord (registry : Registry) : Code :=
  documentation (spelled "r\" Looks up the implementations generated in this batch.\"") ++
    words ["pub", "struct", registry.name] ++ mark ";"

/-- What a registry looks up. -/
def registryImplementation (registry : Registry) : Code :=
  word "impl" ++ absolute ["dbx", "DaoRegistry"] ++ words ["for", registry.name] ++
    braces (registryMethods registry)

/-- The constant that points to a registry. -/
def manifest (registry : Registry) : Code :=
  documentation (spelled "r\" Points the resolver at this batch's registry.\"") ++
    words ["pub", "const", "MANIFEST"] ++ mark ":" ++ manifestPath ++ mark "=" ++
    manifestPath ++ mark "::" ++ word "new" ++
    parentheses (text registry.batch.text ++ mark "," ++ mark "&" ++ word registry.name) ++
    mark ";"

end Render

/-- An item of a generated module: what is kept of an item of the batch, or generated code of a
certain kind. -/
inductive ModuleEntry where
  | kept (code : Code)
  | generated (kind : ItemKind) (code : Code)

namespace ModuleEntry

def tokens : ModuleEntry → List Token
  | .kept code => code.tokens
  | .generated _ code => code.tokens

/-- What is read prints what was kept, or is of the kind that was generated. -/
def Describes : ModuleEntry → Item → Prop
  | .kept code, read => read.tokens = code.tokens
  | .generated kind _, read => ∃ item, read = .plain item ∧ item.kind = kind

/-- What brings the surroundings of the module into it. -/
def surroundings : ModuleEntry :=
  .generated .useDeclaration
    (word "use" ++ relative ["super"] ++ mark "::" ++ mark "*" ++ mark ";")

/-- The four items of an implementation: the struct that holds the handle, its constructor, the
access to its handle, and the methods of the interface. -/
def ofUnit (unit : ImplementationUnit) : List ModuleEntry :=
  [.generated .record (Render.holder unit), .generated .implementation (Render.construction unit),
    .generated .implementation (Render.accessImplementation unit),
    .generated .implementation (Render.interfaceImplementation unit)]

/-- An item without a marker is kept as it is, and one that cannot carry it without the marker. A
marked trait is kept without all markers, and its implementation follows if it compiles. -/
def ofItem (item : Item) : List ModuleEntry :=
  match Declaration.ofItem item with
  | .passthrough passed => [.kept passed.code]
  | .misplaced carrier _ => [.kept carrier.code]
  | .interface declaration =>
      .kept (Interface.cleaned declaration).code ::
        match CompiledBatch.compileInterface declaration with
        | .ok unit => ofUnit unit
        | .error _ => []

/-- The struct of a registry, what it looks up, and the manifest that points to it. -/
def ofRegistry (registry : Registry) : List ModuleEntry :=
  [.generated .record (Render.registryRecord registry),
    .generated .implementation (Render.registryImplementation registry),
    .generated .constant (Render.manifest registry)]

/-- The items of the module of a batch in their order. -/
def ofBatch (batch : Batch) : List ModuleEntry :=
  surroundings :: batch.items.flatMap ofItem ++ ofRegistry (CompiledBatch.registry batch)

end ModuleEntry

/-- A module has the name of the batch and is public exactly if the batch says so. Its items are the
expected ones, each of them read from its own tokens. -/
structure ModuleReading.Realizes (module : ModuleReading) (batch : Batch) (grammar : Grammar) :
    Prop where
  name : module.name = batch.name
  exposure : module.exposure.tokens =
    if batch.options.isPublic then [Token.keyword "pub" .callSite] else []
  items : ∃ items, module.items = some items ∧
    List.Forall₂ ModuleEntry.Describes (ModuleEntry.ofBatch batch) items ∧
    Parser.ReadInTurn grammar.item
      ((ModuleEntry.ofBatch batch).map ModuleEntry.tokens).flatten items
      ((ModuleEntry.ofBatch batch).map ModuleEntry.tokens) []

/-- In front of what can follow them, the tokens are read as something that prints them again. -/
def Parser.ReadsBack {Result : Type} (parser : Parser Result) (code : Result → Code)
    (follows : List Token → Prop) (tokens : List Token) : Prop :=
  ∀ (stream : Stream) (rest : List Token), follows rest → stream.tokens = tokens ++ rest →
    ∃ result, parser stream = .ok (result, { stream with tokens := rest }) ∧
      (code result).tokens = tokens

/-- The signature of a method is read again in front of a semicolon, where it is declared. The grammar
may nest deeper than the tokens need. -/
def CompiledMethod.PrintsBack (method : CompiledMethod) : Prop :=
  ∀ depth, 8 * Token.count method.signature.tokens + 64 ≤ depth →
    (Parse.signature (Parse.grammar depth)).ReadsBack Signature.code
      (fun rest => Peek.mark ";" rest = true) method.signature.tokens

/-- What was read of a batch prints to tokens that are read again as one item each, and the
signatures of the methods that are implemented are read again, too. -/
structure Batch.PrintsBack (batch : Batch) : Prop where
  items : ∀ item ∈ batch.items, ∀ depth, 8 * Token.count item.kept.tokens + 64 ≤ depth →
    (Parse.grammar depth).item.ReadsBack Item.code (fun _ => True) item.kept.tokens
  signatures : ∀ unit ∈ CompiledBatch.units batch, ∀ method ∈ unit.methods, method.PrintsBack

end DataAccess
