/-
This file proves that the errors, the implementations and the registry of a batch agree. The
generated code is read back from its tokens.
-/

import DataAccess.Proofs.Compile.Batch
import DataAccess.Proofs.Compile.GeneratedRegistry

namespace DataAccess

/-- The code of an implementation declares its struct and implements its interface. -/
theorem implements_implementation (unit : ImplementationUnit) :
    Implements (Render.implementation unit).tokens unit.interface unit.name := by
  have struct : [Token.keyword "struct" .callSite, .word unit.name] <:+:
      (Render.holder unit).tokens := by
    simp only [Render.holder, Code.tokens_append, Template.tokens_word, Template.tokens_named]
    rw [List.append_assoc _ [_] [_]]
    exact List.infix_append _ _ _
  have implemented : [Token.keyword "impl" .callSite, .word unit.interface,
      Token.keyword "for" .callSite, .word unit.name] <:+:
      (Render.interfaceImplementation unit).tokens := by
    simp only [Render.interfaceImplementation, Code.tokens_append, Template.tokens_word,
      Template.tokens_named]
    exact (List.prefix_append _ _).isInfix
  simp only [Implements, Render.implementation, Code.tokens_append]
  constructor
  · rw [List.append_assoc, List.append_assoc]
    exact struct.trans (List.prefix_append _ _).isInfix
  · exact implemented.trans (List.suffix_append _ _).isInfix

namespace CompiledBatch

/-- What is answered for a batch agrees with itself: an interface is implemented exactly when no
error is reported for it, and the registry lists what is implemented. The listed tokens are those of
the registry and of the manifest; the generated registry is what they say. -/
structure Agrees (write : String → Option FileFailure) (batch : Batch) (compiled : CompiledBatch)
    (listed : List Token) (generated : GeneratedRegistry) : Prop where
  tokens : compiled.tokens = enclosed batch.name batch.options.isPublic
    (batch.items.flatMap (fun item => item.emitted.tokens) ++ listed)
  errors : compiled.errors =
    batch.items.flatMap Item.reported ++ debugErrors write batch.options
  implemented : ∀ item ∈ batch.items, ∀ declaration, item.interface? = some declaration →
    (item.reported = [] ↔ ∃ implementation,
      item.emitted.tokens = item.kept.tokens ++ implementation ∧
        Implements implementation declaration.name
          (ImplementationUnit.nameFor declaration.name))
  skipped : ∀ item ∈ batch.items, item.interface?.isNone ∨ item.reported ≠ [] →
    item.emitted.tokens = item.kept.tokens
  read : GeneratedRegistry.read? listed = some generated
  answered : generated.interfaces = batch.compiledNames.map Name.text
  asked : generated.lookups.map GeneratedLookup.asked = batch.compiledNames
  boxed : generated.lookups.map GeneratedLookup.boxed = batch.compiledNames
  constructed : generated.lookups.map GeneratedLookup.constructed =
    batch.compiledNames.map ImplementationUnit.nameFor
  manifest : generated.manifestRegistry = generated.name ∧
    generated.implementing = generated.name ∧ generated.batch = batch.name.text ∧
      generated.manifestBatch = batch.name.text
  silent : (∀ item ∈ batch.items, item.compiled? = none) →
    generated.interfaces = [] ∧ generated.lookups = []

/-- Without an error there is an implementation, and with one there is none. -/
theorem implemented_iff {item : Item} {declaration : TraitDeclaration}
    (marked : item.interface? = some declaration) :
    item.reported = [] ↔ ∃ implementation,
      item.emitted.tokens = item.kept.tokens ++ implementation ∧
        Implements implementation declaration.name
          (ImplementationUnit.nameFor declaration.name) := by
  rw [kept_of_interface? marked, Item.emitted]
  obtain ⟨none, unit, compiled, same⟩ | ⟨present, _, same⟩ := compileItem_interface marked
  · obtain ⟨interface, name, _, _⟩ := compileInterface_eq_ok compiled
    refine iff_of_true none ⟨(Render.implementation unit).tokens, ?_, ?_⟩
    · rw [same, Render.batchItem, Code.tokens_append]
    · rw [← name, ← interface]
      exact implements_implementation unit
  · refine iff_of_false present ?_
    rintro ⟨implementation, emitted, struct, _⟩
    rw [same, Render.batchItem, List.append_nil, List.self_eq_append_right] at emitted
    rw [emitted, List.infix_nil] at struct
    exact List.cons_ne_nil _ _ struct

/-- An item that is no interface, or one with an error, is emitted as it was. -/
theorem emitted_eq_kept {item : Item}
    (unimplemented : item.interface?.isNone ∨ item.reported ≠ []) :
    item.emitted.tokens = item.kept.tokens := by
  rw [Item.emitted]
  cases marked : item.interface? with
  | none =>
    obtain ⟨passed, same, kept⟩ := compileItem_passthrough marked
    rw [same, kept]
    rfl
  | some declaration =>
    obtain ⟨none, _⟩ | ⟨_, _, same⟩ := compileItem_interface marked
    · rw [marked] at unimplemented
      exact (unimplemented.resolve_left Bool.false_ne_true none).elim
    · rw [same, kept_of_interface? marked, Render.batchItem, List.append_nil]

/-- What is answered for a batch agrees with itself. -/
theorem agrees_ofBatch (write : String → Option FileFailure) (batch : Batch) :
    Agrees write batch (ofBatch write batch) (Render.registry (registry batch)).tokens
      (Rendered.registryOf (registry batch)) where
  tokens := tokens_module batch
  errors := by rw [ofBatch, compileItems_eq]
  implemented _ _ _ marked := implemented_iff marked
  skipped _ _ unimplemented := emitted_eq_kept unimplemented
  read := GeneratedRegistry.read?_registry _
  answered := by
    rw [Rendered.registryOf, entries_registry, List.map_map]
    rfl
  asked := by
    rw [Rendered.registryOf, entries_registry, List.map_map, List.map_map]
    exact List.map_id _
  boxed := by
    rw [Rendered.registryOf, entries_registry, List.map_map, List.map_map]
    exact List.map_id _
  constructed := by
    rw [Rendered.registryOf, entries_registry, List.map_map, List.map_map]
    rfl
  manifest := ⟨rfl, rfl, rfl, rfl⟩
  silent absent := by
    have nobody : batch.compiledNames = [] := List.filterMap_eq_nil_iff.mpr absent
    rw [Rendered.registryOf, entries_registry, nobody]
    exact ⟨rfl, rfl⟩

/-- The errors, the implementations and the registry of every batch agree, unless a debug file is
created for code that the formatter does not know. Then nothing is answered at all. -/
theorem errors_implementations_registry_agree (write : String → Option FileFailure)
    (batch : Batch) :
    (∀ failure, compile write batch = .error failure ↔ Stops write batch failure) ∧
      ∀ compiled, compile write batch = .ok compiled →
        ∃ listed generated, Agrees write batch compiled listed generated := by
  refine ⟨compile_eq_error_iff write batch, ?_⟩
  intro compiled answered
  rw [compile_eq_ok answered]
  exact ⟨_, _, agrees_ofBatch write batch⟩

section

open Sample

/-- A broken interface stops the compiler when there is a debug file. Without one, what compiled is
listed beside the error. -/
theorem errors_implementations_registry_agree_of_sample :
    compile (fun _ => none) ⟨name "db", ⟨false, some debugFile⟩, [whole, broken]⟩ =
        .error (.unknown .traitItem hiddenTokens) ∧
      ∃ compiled listed generated,
        compile (fun _ => none) ⟨name "db", ⟨false, none⟩, [whole, broken]⟩ = .ok compiled ∧
          GeneratedRegistry.read? listed = some generated ∧
          generated.interfaces = ["Numbers"] ∧ compiled.errors.length = 1 := by
  constructor
  · exact ((errors_implementations_registry_agree _ _).1 _).mpr ⟨rfl, rfl⟩
  · obtain ⟨listed, generated, agrees⟩ := (errors_implementations_registry_agree (fun _ => none)
      ⟨name "db", ⟨false, none⟩, [whole, broken]⟩).2 _ rfl
    refine ⟨_, listed, generated, rfl, agrees.read, ?_, ?_⟩
    · rw [agrees.answered]
      rfl
    · rw [agrees.errors]
      rfl

end

end CompiledBatch

end DataAccess
