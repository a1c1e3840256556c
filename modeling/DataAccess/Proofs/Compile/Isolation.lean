/-
This file proves that the items of a batch are isolated from each other. It compares two batches of
which one item differs, together with their debug files.
-/

import DataAccess.Proofs.Compile.Listing

namespace DataAccess

namespace CompiledBatch

/-- An answer in which an item stands between others: each item has contributed its own code and its
own errors, in the order of the items. The registry and the further errors stand behind. -/
structure Surrounds (name : Name) (isPublic : Bool) (before after : List Item) (item : Item)
    (listed : List Token) (further : List CompileError) (compiled : CompiledBatch) : Prop where
  tokens : compiled.tokens = enclosed name isPublic
    (before.flatMap (fun other => other.emitted.tokens) ++ item.emitted.tokens ++
      after.flatMap (fun other => other.emitted.tokens) ++ listed)
  errors : compiled.errors =
    before.flatMap Item.reported ++ item.reported ++ after.flatMap Item.reported ++ further

/-- The registry and the manifest say what the batch name and the names that compiled determine. -/
def IsListing (listed : List Token) (batch : Name) (compiled : List Name) : Prop :=
  Token.placelessAll listed =
    (Render.registry (Registry.listing batch.text (compiled.map Name.text))).tokens

/-- The only further error is the one of a debug file that cannot be written. -/
structure ReportsFile (write : String → Option FileFailure) (debugFile : Option StringLiteral)
    (further : List CompileError) : Prop where
  single : further.length ≤ 1
  reported : ∀ error ∈ further, ∃ literal failure, debugFile = some literal ∧
    write literal.value = some failure ∧ error = .debugOutput literal.position failure
  silent : further = [] ↔ ∀ literal, debugFile = some literal → write literal.value = none

theorem reportsFile_debugErrors (write : String → Option FileFailure) (options : BatchOptions) :
    ReportsFile write options.debugFile (debugErrors write options) := by
  rw [debugErrors]
  cases options.debugFile with
  | none => constructor <;> simp
  | some literal =>
    cases written : write literal.value with
    | none => constructor <;> simp [written]
    | some failure => constructor <;> simp [written]

/-- An item contributes its own code and its own errors to the answer. -/
theorem surrounds_ofBatch (write : String → Option FileFailure) (name : Name)
    (options : BatchOptions) (before after : List Item) (item : Item) :
    Surrounds name options.isPublic before after item
      (Render.registry (registry ⟨name, options, before ++ item :: after⟩)).tokens
      (debugErrors write options) (ofBatch write ⟨name, options, before ++ item :: after⟩) where
  tokens := by
    rw [CompiledBatch.tokens, ofBatch, tokens_module, List.flatMap_append, List.flatMap_cons]
    simp only [List.append_assoc]
  errors := by
    rw [ofBatch, compileItems_eq, List.flatMap_append, List.flatMap_cons]
    simp only [List.append_assoc]

/-- The debug file has no part in the generated code. -/
theorem tokens_ofBatch_of_files (firstWrite secondWrite : String → Option FileFailure)
    (name : Name) (isPublic : Bool) (firstFile secondFile : Option StringLiteral)
    (items : List Item) :
    (ofBatch firstWrite ⟨name, ⟨isPublic, firstFile⟩, items⟩).tokens =
      (ofBatch secondWrite ⟨name, ⟨isPublic, secondFile⟩, items⟩).tokens := by
  rw [tokens, tokens, ofBatch, ofBatch, module, module, units, units]

/-- Two batches that differ in one item are answered alike but for what that item contributes,
whatever is done about their debug files. Nothing is answered only when a debug file is created for
code that the formatter does not know. The listing of any batch depends on names alone. -/
theorem items_isolated (firstWrite secondWrite : String → Option FileFailure) (name : Name)
    (isPublic : Bool) (firstFile secondFile : Option StringLiteral) (before after : List Item)
    (firstItem secondItem : Item) :
    let first : Batch := ⟨name, ⟨isPublic, firstFile⟩, before ++ firstItem :: after⟩
    let second : Batch := ⟨name, ⟨isPublic, secondFile⟩, before ++ secondItem :: after⟩
    (∀ failure, compile firstWrite first = .error failure ↔ Stops firstWrite first failure) ∧
      (∀ firstAnswer secondAnswer, compile firstWrite first = .ok firstAnswer →
        compile secondWrite second = .ok secondAnswer →
          ∃ firstListed secondListed firstFurther secondFurther,
            Surrounds name isPublic before after firstItem firstListed firstFurther firstAnswer ∧
            Surrounds name isPublic before after secondItem secondListed secondFurther
              secondAnswer ∧
            IsListing firstListed name first.compiledNames ∧
            IsListing secondListed name second.compiledNames ∧
            (first.compiledNames = second.compiledNames → firstListed = secondListed) ∧
            (firstItem = secondItem → firstAnswer.tokens = secondAnswer.tokens) ∧
            ReportsFile firstWrite firstFile firstFurther ∧
            ReportsFile secondWrite secondFile secondFurther) ∧
      ∀ batch answer, compile firstWrite batch = .ok answer → ∃ items listed,
        answer.tokens = enclosed batch.name batch.options.isPublic (items ++ listed) ∧
          IsListing listed batch.name batch.compiledNames := by
  intro first second
  have around := surrounds_ofBatch firstWrite name ⟨isPublic, firstFile⟩ before after firstItem
  have around' := surrounds_ofBatch secondWrite name ⟨isPublic, secondFile⟩ before after secondItem
  have congruent : first.compiledNames = second.compiledNames →
      (Render.registry (registry first)).tokens = (Render.registry (registry second)).tokens := by
    intro same
    rw [registry_eq, registry_eq, same]
  refine ⟨compile_eq_error_iff firstWrite first, ?_, ?_⟩
  · intro firstAnswer secondAnswer answered answered'
    rw [compile_eq_ok answered, compile_eq_ok answered']
    refine ⟨_, _, _, _, around, around', placelessAll_tokens_registry first,
      placelessAll_tokens_registry second, congruent, ?_,
      reportsFile_debugErrors firstWrite ⟨isPublic, firstFile⟩,
      reportsFile_debugErrors secondWrite ⟨isPublic, secondFile⟩⟩
    intro same
    subst same
    exact tokens_ofBatch_of_files ..
  · intro batch answer answered
    rw [compile_eq_ok answered]
    exact ⟨_, _, tokens_module batch, placelessAll_tokens_registry batch⟩

section

open Sample

/-- A broken interface takes the others with it when there is a debug file. Otherwise they and the
listing are the same as beside code that is no interface, and a file that cannot be created only
adds its error. -/
theorem items_isolated_of_sample :
    compile (fun _ => none) ⟨name "db", ⟨false, some debugFile⟩, [whole, broken]⟩ =
        .error (.unknown .traitItem hiddenTokens) ∧
      ∃ firstAnswer secondAnswer listed,
        compile (fun _ => none) ⟨name "db", ⟨false, none⟩, [whole, broken]⟩ = .ok firstAnswer ∧
          compile (fun _ => some .isDirectory) ⟨name "db", ⟨false, some debugFile⟩,
            [whole, .verbatim hiddenTokens]⟩ = .ok secondAnswer ∧
          Surrounds (name "db") false [whole] [] broken listed [] firstAnswer ∧
          Surrounds (name "db") false [whole] [] (.verbatim hiddenTokens) listed
            [.debugOutput .callSite .isDirectory] secondAnswer := by
  constructor
  · exact ((items_isolated _ (fun _ => none) _ _ _ none [whole] [] broken broken).1 _).mpr
      ⟨rfl, rfl⟩
  · obtain ⟨listed, other, further, reported, first, second, _, _, same, _, silent, single⟩ :=
      (items_isolated (fun _ => none) (fun _ => some .isDirectory) (name "db") false none
        (some debugFile) [whole] [] broken (.verbatim hiddenTokens)).2.1 _ _ rfl rfl
    have quiet : further = [] := silent.silent.mpr fun _ absent => nomatch absent
    have told : reported = [.debugOutput .callSite .isDirectory] := by
      have present : reported ≠ [] := fun absent => nomatch single.silent.mp absent debugFile rfl
      obtain ⟨error, rfl⟩ := List.length_eq_one_iff.mp
        (Nat.le_antisymm single.single (List.length_pos_iff.mpr present))
      obtain ⟨literal, failure, asked, met, rfl⟩ :=
        single.reported error (List.mem_singleton.mpr rfl)
      rw [← Option.some.inj asked, ← Option.some.inj met]
      rfl
    rw [quiet] at first
    rw [told, ← same rfl] at second
    exact ⟨_, _, listed, rfl, rfl, first, second⟩

end

end CompiledBatch

end DataAccess
