/-
This file proves that the module of a batch is read as the items that it has to hold.
-/

import DataAccess.Proofs.Compile.AcceptedRegistry
import DataAccess.Proofs.Compile.Batch

namespace DataAccess

open DataAccess.Parser DataAccess.Parse

/-- A batch can be read: its name is no keyword, and its implementations can be read. -/
structure Batch.IsReadable (batch : Batch) : Prop where
  name : batch.name.IsPlain
  units : ∀ unit ∈ CompiledBatch.units batch, unit.IsReadable

/-- The items of a batch and the signatures of its implementations nest less deep than the
grammar. -/
structure Batch.FitsIn (batch : Batch) (depth : Nat) : Prop where
  items : ∀ item ∈ batch.items, 8 * Token.count item.kept.tokens + 64 ≤ depth
  signatures : ∀ unit ∈ CompiledBatch.units batch, ∀ method ∈ unit.methods,
    8 * Token.count method.signature.tokens + 64 ≤ depth

/-! What a module holds makes up its tokens. -/
namespace ModuleEntry

/-- The tokens of several entries, one after the other. -/
def tokensOf (entries : List ModuleEntry) : List Token :=
  (entries.map tokens).flatten

/-- The tokens of a module begin with those of its first entry. -/
theorem tokensOf_cons (entry : ModuleEntry) (entries : List ModuleEntry) :
    tokensOf (entry :: entries) = entry.tokens ++ tokensOf entries := rfl

/-- The tokens of two parts of a module follow each other. -/
theorem tokensOf_append (first second : List ModuleEntry) :
    tokensOf (first ++ second) = tokensOf first ++ tokensOf second := by
  rw [tokensOf, List.map_append, List.flatten_append]
  rfl

/-- The four items of an implementation are what is rendered of it. -/
theorem tokensOf_ofUnit (unit : ImplementationUnit) :
    tokensOf (ofUnit unit) = (Render.implementation unit).tokens := by
  simp only [Render.implementation, Code.tokens_append, List.append_assoc]
  simp only [tokensOf, ofUnit, List.map_cons, List.map_nil, tokens, List.flatten_cons,
    List.flatten_nil, List.append_nil]

/-- What is kept of an item, and the items of its implementation if there is one. -/
theorem ofItem_eq (item : Item) : ofItem item =
    .kept item.kept :: ((CompiledBatch.unit? (CompiledBatch.compileItem item).item).map
      ofUnit).getD [] := by
  rw [ofItem, Item.kept, CompiledBatch.compileItem]
  cases Declaration.ofItem item with
  | passthrough passed => rfl
  | misplaced carrier marker => rfl
  | interface declaration =>
    dsimp only
    cases CompiledBatch.compileInterface declaration <;> rfl

/-- What an item contributes to the module is what is emitted for it. -/
theorem tokensOf_ofItem (item : Item) : tokensOf (ofItem item) = item.emitted.tokens := by
  rw [ofItem, Item.emitted, CompiledBatch.compileItem]
  cases Declaration.ofItem item with
  | passthrough passed => exact List.append_nil _
  | misplaced carrier marker => exact List.append_nil _
  | interface declaration =>
    dsimp only
    cases CompiledBatch.compileInterface declaration with
    | ok unit =>
      rw [tokensOf_cons, tokensOf_ofUnit, Render.batchItem, Code.tokens_append]
      rfl
    | error errors =>
      rw [tokensOf_cons, Render.batchItem, Code.tokens_append]
      rfl

/-- What several items contribute is what is emitted for each of them. -/
theorem tokensOf_flatMap (items : List Item) :
    tokensOf (items.flatMap ofItem) = items.flatMap fun item => item.emitted.tokens := by
  induction items with
  | nil => rfl
  | cons item items hypothesis =>
    rw [List.flatMap_cons, tokensOf_append, tokensOf_ofItem, hypothesis, List.flatMap_cons]

/-- The three items of a registry are what is rendered of it. -/
theorem tokensOf_ofRegistry (registry : Registry) :
    tokensOf (ofRegistry registry) = (Render.registry registry).tokens := by
  rw [Render.registry_eq, Code.tokens_append, Code.tokens_append, List.append_assoc]
  simp only [tokensOf, ofRegistry, List.map_cons, List.map_nil, tokens, List.flatten_cons,
    List.flatten_nil, List.append_nil]

/-- The lints that are switched off in generated code. -/
def allowances : List Token :=
  Code.tokens (Template.innerAttribute "allow" "unused_variables" ++
    Template.innerAttribute "allow" "unused_imports" ++
    Template.innerAttribute "allow" "dead_code")

/-- The braces of a module hold its lints and its entries. -/
theorem tokens_module (batch : Batch) : (CompiledBatch.module batch).tokens =
    (if batch.options.isPublic then [Token.keyword "pub" .callSite] else []) ++
      [Token.keyword "mod" .callSite, .word batch.name,
        .group .brace .callSite .callSite (allowances ++ tokensOf (ofBatch batch))] := by
  have inner : CompiledBatch.prelude ++ (batch.items.flatMap (fun item => item.emitted.tokens) ++
      (Render.registry (CompiledBatch.registry batch)).tokens) =
      allowances ++ tokensOf (ofBatch batch) := by
    rw [ofBatch, List.cons_append, tokensOf_cons, tokensOf_append, tokensOf_flatMap,
      tokensOf_ofRegistry, ← List.append_assoc allowances]
    rfl
  rw [CompiledBatch.tokens_module, CompiledBatch.enclosed, inner]

/-! Every entry is read in front of whatever follows it. -/

/-- The entry is read as the item that it describes. -/
def IsRead (entry : ModuleEntry) (depth : Nat) : Prop :=
  ∀ rest, Accepts (grammar depth).item (entry.tokens ++ rest) rest entry.Describes

variable {depth : Nat}

/-- Generated code that is read as an item is read as an entry. -/
theorem isRead_generated {kind : ItemKind} {code : Code}
    (reads : Render.ReadsItem depth kind code) :
    (ModuleEntry.generated kind code).IsRead (depth + 1) :=
  reads

/-- Code that prints back is read as an entry. -/
theorem isRead_kept {code : Code}
    (prints : (grammar depth).item.ReadsBack Item.code (fun _ => True) code.tokens) :
    (ModuleEntry.kept code).IsRead depth :=
  fun rest _ => prints _ rest trivial rfl

/-- No item is read of nothing. -/
theorem IsRead.written {entry : ModuleEntry} (reads : entry.IsRead (depth + 1)) :
    entry.tokens ≠ [] := by
  intro empty
  obtain ⟨read, done, -⟩ := reads [] ⟨[], .callSite, none, none⟩
  rw [empty] at done
  have fails : ∃ error, (grammar (depth + 1)).item ⟨[], .callSite, none, none⟩ = .error error :=
    ⟨_, rfl⟩
  obtain ⟨error, failed⟩ := fails
  exact nomatch failed.symm.trans done

/-- The use of the surroundings is read as an entry. -/
theorem isRead_surroundings : surroundings.IsRead (depth + 1) :=
  isRead_generated fun _ => accepts_item (accepts_outerAttributes rfl).any accepts_use

/-- Each of the four items of an implementation is read as an entry. -/
theorem isRead_ofUnit {unit : ImplementationUnit} (readable : unit.IsReadable)
    (deep : 32 ≤ depth) (fits : ∀ compiled ∈ unit.methods,
      8 * Token.count compiled.signature.tokens + 64 ≤ depth) :
    ∀ entry ∈ ofUnit unit, entry.IsRead (depth + 1) := by
  obtain ⟨depth, rfl⟩ : ∃ previous, depth = previous + 12 := ⟨depth - 12, by omega⟩
  simp only [ofUnit, List.forall_mem_cons]
  exact ⟨isRead_generated (Render.readsItem_holder readable),
    isRead_generated (Render.readsImplementation_construction readable).readsItem,
    isRead_generated (Render.readsImplementation_access readable).readsItem,
    isRead_generated (Render.readsImplementation_interface readable fits).readsItem,
    fun _ absent => nomatch absent⟩

/-- Each of the three items of a registry is read as an entry. -/
theorem isRead_ofRegistry {registry : Registry} (readable : registry.IsReadable)
    (deep : 32 ≤ depth) : ∀ entry ∈ ofRegistry registry, entry.IsRead (depth + 1) := by
  obtain ⟨depth, rfl⟩ : ∃ previous, depth = previous + 17 := ⟨depth - 17, by omega⟩
  simp only [ofRegistry, List.forall_mem_cons]
  exact ⟨isRead_generated (Render.readsItem_registryRecord readable),
    isRead_generated (Render.readsImplementation_registry readable).readsItem,
    isRead_generated (Render.readsItem_manifest readable), fun _ absent => nomatch absent⟩

section Batch

variable {batch : Batch} (readable : batch.IsReadable) (prints : batch.PrintsBack)
  (fits : batch.FitsIn depth) (deep : 32 ≤ depth)

include readable prints fits deep

/-- Everything that an item contributes is read as an entry. -/
theorem isRead_ofItem {item : Item} (listed : item ∈ batch.items) :
    ∀ entry ∈ ofItem item, entry.IsRead (depth + 1) := by
  rw [ofItem_eq, List.forall_mem_cons]
  refine ⟨isRead_kept (prints.items item listed _ (Nat.le_succ_of_le (fits.items item listed))), ?_⟩
  cases found : CompiledBatch.unit? (CompiledBatch.compileItem item).item with
  | none => exact fun _ absent => nomatch absent
  | some unit =>
    have among : unit ∈ CompiledBatch.units batch := by
      rw [CompiledBatch.units, CompiledBatch.compileItems_eq]
      exact List.mem_filterMap.mpr ⟨_, List.mem_map_of_mem listed, found⟩
    exact isRead_ofUnit (readable.units unit among) deep (fits.signatures unit among)

/-- Everything that stands in the module of a batch is read as an entry. -/
theorem isRead_ofBatch : ∀ entry ∈ ofBatch batch, entry.IsRead (depth + 1) := by
  have registry : (CompiledBatch.registry batch).IsReadable :=
    Registry.isReadable_ofUnits batch.name readable.units
  simp only [ofBatch, List.forall_mem_append, List.forall_mem_cons, List.forall_mem_flatMap]
  exact ⟨⟨isRead_surroundings, fun item listed =>
    isRead_ofItem readable prints fits deep listed⟩, isRead_ofRegistry registry deep⟩

end Batch

end ModuleEntry

namespace Parse

variable {grammar : Grammar} {rest inner : List Token}

/-- The lints of a module are read in front of its first item. -/
theorem accepts_allowances {depth : Nat} {position : Position} :
    Accepts (innerAttributes (Parse.grammar depth))
      (ModuleEntry.allowances ++ Token.keyword "use" position :: rest)
      (Token.keyword "use" position :: rest) fun _ => True := by
  rintro ⟨_, _, _, leftover⟩
  cases leftover <;> exact ⟨_, rfl, trivial⟩

/-- A module with a name and with braces, perhaps behind the word for its visibility. -/
theorem accepts_loneModule {name : Name} {opening closing : Position} {isPublic : Bool}
    {holds : List Item → Prop} (plain : name.IsPlain)
    (within : Accepts (do
      let inner ← innerAttributes grammar
      return (inner, ← untilEmpty grammar.item)) inner [] fun found => holds found.2) :
    Accepts (loneModule grammar) ((if isPublic then [Token.keyword "pub" .callSite] else []) ++
      [Token.keyword "mod" .callSite, .word name, .group .brace opening closing inner]) []
      fun module => module.name = name ∧
        module.exposure.tokens = (if isPublic then [Token.keyword "pub" .callSite] else []) ∧
        ∃ items, module.items = some items ∧ holds items := by
  have exposed : Accepts visibility ((if isPublic then [Token.keyword "pub" .callSite] else []) ++
      [Token.keyword "mod" .callSite, .word name, .group .brace opening closing inner])
      [Token.keyword "mod" .callSite, .word name, .group .brace opening closing inner]
      fun code => code.tokens = if isPublic then [Token.keyword "pub" .callSite] else [] := by
    cases isPublic <;> exact fun _ => ⟨_, rfl, rfl⟩
  have unmarked : Peek.mark "#" ((if isPublic then [Token.keyword "pub" .callSite] else []) ++
      [Token.keyword "mod" .callSite, .word name, .group .brace opening closing inner]) =
      false := by cases isPublic <;> rfl
  refine (accepts_outerAttributes unmarked).any.skip fun outer => exposed.bind fun code same => ?_
  refine (accepts_keyword?_of_absent rfl).any.skip fun _ => (accepts_keyword "mod").skip fun _ => ?_
  refine .peek_false (plain.word "try" rfl) ((accepts_identifier plain).bind ?_)
  rintro _ rfl
  exact .peek_false rfl (within.group.map fun enclosed held => ⟨rfl, same, _, rfl, held⟩)

end Parse

namespace CompiledBatch

variable {batch : Batch} {depth : Nat} (readable : batch.IsReadable) (prints : batch.PrintsBack)
  (fits : batch.FitsIn depth) (deep : 32 ≤ depth)

include readable prints fits deep

/-- The module of a batch is read as what the batch has to hold, given enough depth. -/
theorem accepts_module :
    Accepts (loneModule (grammar (depth + 1))) (module batch).tokens []
      fun module => module.Realizes batch (grammar (depth + 1)) := by
  have reads := ModuleEntry.isRead_ofBatch readable prints fits deep
  have entries := accepts_untilEmpty reads fun entry listed => (reads entry listed).written
  have begins : ∃ more, ((ModuleEntry.ofBatch batch).map ModuleEntry.tokens).flatten =
      Token.keyword "use" .callSite :: more := ⟨_, rfl⟩
  obtain ⟨more, begins⟩ := begins
  have lints : Accepts (innerAttributes (grammar (depth + 1)))
      (ModuleEntry.allowances ++ ((ModuleEntry.ofBatch batch).map ModuleEntry.tokens).flatten)
      ((ModuleEntry.ofBatch batch).map ModuleEntry.tokens).flatten fun _ => True := by
    rw [begins]
    exact accepts_allowances
  let holds (items : List Item) : Prop :=
    List.Forall₂ ModuleEntry.Describes (ModuleEntry.ofBatch batch) items ∧
      ReadInTurn (grammar (depth + 1)).item
        ((ModuleEntry.ofBatch batch).map ModuleEntry.tokens).flatten items
        ((ModuleEntry.ofBatch batch).map ModuleEntry.tokens) []
  have within : Accepts (do
      let inner ← innerAttributes (grammar (depth + 1))
      return (inner, ← untilEmpty (grammar (depth + 1)).item))
      (ModuleEntry.allowances ++ ModuleEntry.tokensOf (ModuleEntry.ofBatch batch)) []
      fun found => holds found.2 :=
    lints.skip fun _ => entries.map fun _ held => held
  rw [ModuleEntry.tokens_module]
  refine (accepts_loneModule readable.name within).imp ?_
  rintro module ⟨name, exposure, items, same, described, turns⟩
  exact ⟨name, exposure, items, same, described, turns⟩

end CompiledBatch

end DataAccess
