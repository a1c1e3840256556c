/-
This file proves that every fragment that is checked while a batch is compiled passes its check.
-/

import DataAccess.Proofs.Compile.AcceptedModule

namespace DataAccess

open DataAccess.Parser DataAccess.Parse

/-! A part of generated code has no more tokens than the whole. -/

/-- A part that stands among others has no more tokens than all of them. -/
theorem Token.count_le_of_mem_flatten {part : List Token} {parts : List (List Token)}
    (member : part ∈ parts) : Token.count part ≤ Token.count parts.flatten := by
  obtain ⟨before, behind, rfl⟩ := List.append_of_mem member
  rw [List.flatten_append, List.flatten_cons, Token.count_append, Token.count_append]
  omega

/-- A group counts its two delimiters. -/
theorem Token.count_group (delimiter : Delimiter) (opening closing : Position)
    (inner : List Token) :
    Token.count [.group delimiter opening closing inner] = 2 + Token.count inner := by
  rw [Token.count, Token.count, Nat.add_zero]

/-- The implementation of an interface holds the signature of each of its methods. -/
theorem Render.count_signature_lt {unit : ImplementationUnit} {compiled : CompiledMethod}
    (listed : compiled ∈ unit.methods) : Token.count compiled.signature.tokens <
      Token.count (Render.interfaceImplementation unit).tokens := by
  have inside : Token.count compiled.signature.tokens ≤ Token.count (method compiled).tokens := by
    rw [tokens_method, Token.count_append]
    exact Nat.le_add_right _ _
  have among := Token.count_le_of_mem_flatten
    (List.mem_map_of_mem (f := fun compiled => (method compiled).tokens) listed)
  rw [tokens_interfaceImplementation, Token.count_cons, Token.count_append, Token.count_group]
  omega

namespace ModuleEntry

/-- An entry of a module has no more tokens than the module. -/
theorem count_le {entry : ModuleEntry} {entries : List ModuleEntry} (listed : entry ∈ entries) :
    Token.count entry.tokens ≤ Token.count (tokensOf entries) :=
  Token.count_le_of_mem_flatten (List.mem_map_of_mem listed)

/-- What an item contributes stands in the module. -/
theorem mem_ofBatch {batch : Batch} {item : Item} {entry : ModuleEntry}
    (among : item ∈ batch.items) (listed : entry ∈ ofItem item) : entry ∈ ofBatch batch :=
  List.mem_append_left _ (List.mem_cons_of_mem _ (List.mem_flatMap.mpr ⟨item, among, listed⟩))

/-- The implementations of a batch stand behind the items that they are generated for. -/
theorem mem_ofBatch_of_mem_units {batch : Batch} {unit : ImplementationUnit} {entry : ModuleEntry}
    (among : unit ∈ CompiledBatch.units batch) (listed : entry ∈ ofUnit unit) :
    entry ∈ ofBatch batch := by
  obtain ⟨item, stands, found⟩ := CompiledBatch.exists_item_of_mem_units among
  refine mem_ofBatch stands ?_
  rw [ofItem_eq, found]
  exact List.mem_cons_of_mem _ listed

end ModuleEntry

/-- What stands in the braces of a module nests less deep than the whole. -/
theorem Batch.fitsIn_module (batch : Batch) :
    batch.FitsIn (8 * Token.count (CompiledBatch.module batch).tokens + 63) := by
  have within : Token.count (ModuleEntry.tokensOf (ModuleEntry.ofBatch batch)) <
      Token.count (CompiledBatch.module batch).tokens := by
    rw [ModuleEntry.tokens_module, Token.count_append, Token.count_cons,
      Token.count_cons (.word batch.name), Token.count_group, Token.count_append]
    omega
  refine ⟨fun item among => ?_, fun unit among compiled listed => ?_⟩
  · have kept : ModuleEntry.kept item.kept ∈ ModuleEntry.ofBatch batch := by
      refine ModuleEntry.mem_ofBatch among ?_
      rw [ModuleEntry.ofItem_eq]
      exact List.mem_cons_self
    have inside : Token.count item.kept.tokens ≤ _ := ModuleEntry.count_le kept
    omega
  · have implemented : ModuleEntry.generated .implementation (Render.interfaceImplementation unit) ∈
        ModuleEntry.ofBatch batch :=
      ModuleEntry.mem_ofBatch_of_mem_units among (by simp [ModuleEntry.ofUnit])
    have inside : Token.count (Render.interfaceImplementation unit).tokens ≤ _ :=
      ModuleEntry.count_le implemented
    have shorter := Render.count_signature_lt listed
    omega

namespace Fragment

/-- A fragment passes its check if its parser accepts all of its tokens. -/
theorem check_of_accepts {Result : Type} {fragment : Fragment} {parser : Parser Result}
    (reads : Accepts parser fragment.code.tokens [] fun _ => True)
    (same : fragment.kind.parser (grammarFor fragment.code.tokens) = do let _ ← parser) :
    fragment.check = .ok () := by
  have whole : Accepts (do let _ ← parser) fragment.code.tokens [] fun _ => True :=
    reads.skip fun _ => .pure trivial
  obtain ⟨_, done, -⟩ := whole.run
  rw [check, same]
  exact done

/-- All paths to what generated code uses pass their checks. -/
theorem check_paths : ∀ fragment ∈ paths, fragment.check = .ok () := by
  simp only [paths, List.forall_mem_map, List.forall_mem_cons]
  exact ⟨rfl, rfl, rfl, rfl, rfl, rfl, rfl, rfl, rfl, fun _ absent => nomatch absent⟩

/-- The binding of a parameter passes its check as a statement if its name can be bound. -/
theorem check_binding {bound : Binding} (bindable : bound.parameter.IsBindable) :
    Fragment.check ⟨.statement, Render.binding bound⟩ = .ok () := by
  have reads : Accepts (loneStatement (grammarFor (Render.binding bound).tokens))
      ((Render.binding bound).tokens ++ []) [] fun _ => True := by
    refine (Render.accepts_binding bindable).bind fun found ended => ?_
    rw [ended]
    exact .pure trivial
  rw [List.append_nil] at reads
  exact check_of_accepts reads rfl

/-- Every extraction passes its check as an expression. -/
theorem check_extract (extraction : Extract) :
    Fragment.check ⟨.expression, Render.extract extraction⟩ = .ok () := by
  have reads : Accepts ((grammarFor (Render.extract extraction).tokens).expression true)
      (Render.extract extraction).tokens [] Expression.IsValue :=
    accepts_expression (Render.accepts_extract extraction) .nil
  exact check_of_accepts reads.any rfl

/-- A method passes its check if its signature is read again. -/
theorem check_method {compiled : CompiledMethod} (readable : compiled.IsReadable) :
    Fragment.check ⟨.method, Render.method compiled⟩ = .ok () := by
  have deep : 8 * Token.count compiled.signature.tokens + 64 ≤
      8 * Token.count (Render.method compiled).tokens + 64 := by
    rw [Render.tokens_method, Token.count_append]
    omega
  exact check_of_accepts (Render.accepts_method_alone readable deep) rfl

/-- The access to the handle passes its check as an implementation. -/
theorem check_access {unit : ImplementationUnit} (readable : unit.IsReadable) :
    Fragment.check ⟨.implementation, Render.accessImplementation unit⟩ = .ok () :=
  check_of_accepts (Render.readsImplementation_access readable).lone rfl

/-- Entries of which the first one is documented are read as the items of a file. -/
theorem check_file {entries : List ModuleEntry} {code : Code} {depth : Nat}
    (written : ModuleEntry.tokensOf entries = code.tokens)
    (deep : 8 * Token.count code.tokens + 64 = depth + 1)
    (reads : ∀ entry ∈ entries, entry.IsRead (depth + 1))
    (documented : ∃ literal, Render.documentationTokens literal <+: ModuleEntry.tokensOf entries) :
    Fragment.check ⟨.file, code⟩ = .ok () := by
  obtain ⟨literal, more, documented⟩ := documented
  have unmarked : (Peek.mark "#" (ModuleEntry.tokensOf entries) &&
      Peek.mark "!" ((ModuleEntry.tokensOf entries).drop 1)) = false := by
    rw [← documented]
    rfl
  have items := accepts_untilEmpty reads fun entry listed => (reads entry listed).written
  have whole : Accepts (Parse.file (grammar (depth + 1))) (ModuleEntry.tokensOf entries) []
      fun _ => True :=
    (accepts_innerAttributes unmarked).any.skip fun _ => items.any
  rw [written, ← deep] at whole
  exact check_of_accepts whole rfl

/-- The code of an implementation passes its check as a file. -/
theorem check_implementation {unit : ImplementationUnit} (readable : unit.IsReadable) :
    Fragment.check ⟨.file, Render.implementation unit⟩ = .ok () := by
  have smaller : Token.count (Render.interfaceImplementation unit).tokens ≤
      Token.count (Render.implementation unit).tokens := by
    rw [Render.implementation, Code.tokens_append, Token.count_append]
    exact Nat.le_add_left _ _
  have fits : ∀ compiled ∈ unit.methods, 8 * Token.count compiled.signature.tokens + 64 ≤
      8 * Token.count (Render.implementation unit).tokens + 63 := by
    intro compiled listed
    have inside := Render.count_signature_lt listed
    omega
  refine check_file (ModuleEntry.tokensOf_ofUnit unit) rfl
    (ModuleEntry.isRead_ofUnit readable (by omega) fits) ?_
  rw [ModuleEntry.ofUnit, ModuleEntry.tokensOf_cons, ModuleEntry.tokens, Render.tokens_holder,
    List.append_assoc]
  exact ⟨_, List.prefix_append _ _⟩

/-- The code of a registry passes its check as a file. -/
theorem check_registry {registry : Registry} (readable : registry.IsReadable) :
    Fragment.check ⟨.file, Render.registry registry⟩ = .ok () := by
  refine check_file (ModuleEntry.tokensOf_ofRegistry registry) rfl
    (ModuleEntry.isRead_ofRegistry readable (by omega)) ?_
  rw [ModuleEntry.ofRegistry, ModuleEntry.tokensOf_cons, ModuleEntry.tokens,
    Render.tokens_registryRecord, List.append_assoc]
  exact ⟨_, List.prefix_append _ _⟩

/-- Everything that is checked for a method passes. -/
theorem check_ofMethod {compiled : CompiledMethod} (readable : compiled.IsReadable) :
    ∀ fragment ∈ ofMethod compiled, fragment.check = .ok () := by
  simp only [ofMethod, List.forall_mem_append, List.forall_mem_map, List.forall_mem_cons]
  exact ⟨fun bound listed => check_binding (readable.bindable bound listed),
    check_extract compiled.extract, check_method readable, fun _ absent => nomatch absent⟩

/-- Everything that is checked for an implementation passes. -/
theorem check_ofUnit {unit : ImplementationUnit} (readable : unit.IsReadable) :
    ∀ fragment ∈ ofUnit unit, fragment.check = .ok () := by
  simp only [ofUnit, List.forall_mem_append, List.forall_mem_flatMap, List.forall_mem_cons]
  exact ⟨fun compiled listed => check_ofMethod (readable.methods compiled listed),
    check_access readable, check_implementation readable, fun _ absent => nomatch absent⟩

section Batch

variable {batch : Batch} (readable : batch.IsReadable) (prints : batch.PrintsBack)

include readable prints

/-- The module of a batch is read as what the batch has to hold. -/
theorem accepts_module :
    Accepts (loneModule (grammarFor (CompiledBatch.module batch).tokens))
      (CompiledBatch.module batch).tokens []
      fun module => module.Realizes batch (grammarFor (CompiledBatch.module batch).tokens) :=
  CompiledBatch.accepts_module readable prints batch.fitsIn_module (by omega)

/-- Everything that is checked for a batch passes. -/
theorem check_ofBatch : ∀ fragment ∈ ofBatch batch, fragment.check = .ok () := by
  have registry : (CompiledBatch.registry batch).IsReadable :=
    Registry.isReadable_ofUnits batch.name readable.units
  have module : Fragment.check ⟨.module, CompiledBatch.module batch⟩ = .ok () :=
    check_of_accepts (accepts_module readable prints).any rfl
  simp only [ofBatch, List.forall_mem_append, List.forall_mem_flatMap, List.forall_mem_cons]
  exact ⟨⟨check_paths, fun unit listed => check_ofUnit (readable.units unit listed)⟩,
    check_registry registry, module, fun _ absent => nomatch absent⟩

end Batch

end Fragment

end DataAccess
