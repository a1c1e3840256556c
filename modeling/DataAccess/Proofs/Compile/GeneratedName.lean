/-
This file proves which generated names clash with the names that they serve. Nothing checks them, so
it is their forms alone that keep them apart.
-/

import DataAccess.Compile.GeneratedName
import DataAccess.Proofs.Compile.RegistryName
import DataAccess.Proofs.Compile.WellFormed
import Mathlib.Data.List.Nodup

namespace DataAccess

/-- Two characters make a raw prefix. -/
theorem Lexeme.after_raw (first second : Char) (rest : List Char) :
    after "r#" (first :: second :: rest) =
      if first = 'r' ∧ second = '#' then some rest else none := by
  simp only [eq_comm (a := first), eq_comm (a := second)]
  simp [after, startsWith, List.isPrefixOf]

/-- The suffix of implementations stays behind a name whose raw prefix is left out. -/
theorem Name.plain_nameFor (interface : Name) :
    (ImplementationUnit.nameFor interface).plain = interface.plain ++ "Impl" := by
  have suffixed : Lexeme.after "r#" (interface.text ++ "Impl").toList =
      (Lexeme.after "r#" interface.text.toList).map (· ++ "Impl".toList) := by
    rw [String.toList_append]
    match interface.text.toList with
    | [] => rfl
    | [first] => simp [Lexeme.after, Lexeme.startsWith]
    | first :: second :: rest =>
      rw [List.cons_append, List.cons_append, Lexeme.after_raw, Lexeme.after_raw]
      split <;> rfl
  rw [plain, plain, ImplementationUnit.nameFor, suffixed]
  cases Lexeme.after "r#" interface.text.toList with
  | none => rfl
  | some body =>
    change String.ofList (body ++ "Impl".toList) = String.ofList body ++ "Impl"
    rw [String.ofList_append, String.ofList_toList]

namespace Registry

/-- The digits of a registry are not the suffix of an implementation. -/
theorem IsNamedBy.ne_suffixed {name digits : String} (named : IsNamedBy name digits)
    (start : String) : name ≠ start ++ "Impl" := by
  obtain ⟨rfl, length, each⟩ := named
  intro same
  -- The suffix ends in a letter that is no digit to the base of sixteen.
  have last := congrArg (fun text => text.toList.getLast?) same
  have present : digits.toList ≠ [] := by
    intro absent
    rw [← String.length_toList, absent] at length
    exact nomatch length
  rw [String.toList_append, String.toList_append, List.getLast?_append_of_ne_nil _ present,
    List.getLast?_append_of_ne_nil _ (by decide), List.getLast?_eq_some_getLast present] at last
  have digit := each _ (List.getLast_mem present)
  rw [Option.some.inj last] at digit
  exact absurd digit (by decide)

end Registry

namespace Signature

/-- Among the parameters a listed name stands for itself. -/
theorem lookup_parameter {names : List Name} {name : Name} (listed : name ∈ names) :
    (names.map fun other => (other.plain, Referent.parameter other.plain)).lookup name.plain =
      some (.parameter name.plain) := by
  -- The first entry of the name is found, and all entries of one name are equal.
  induction names with
  | nil => exact nomatch listed
  | cons first rest hypothesis =>
    rw [List.map_cons, List.lookup_cons]
    cases same : name.plain == first.plain with
    | true => rw [eq_of_beq same]
    | false =>
      refine hypothesis ((List.mem_cons.mp listed).resolve_left ?_)
      rintro rfl
      rw [beq_self_eq_true] at same
      exact nomatch same

/-- The parameter of the closure hides the parameters of the method that have its name. -/
theorem denoted?_of_mem {signature : Signature} {name : Name}
    (listed : name ∈ signature.parameterNames) :
    signature.denoted? name =
      if name.plain = Render.statementName then some .statement
      else some (.parameter name.plain) := by
  rw [denoted?, scope, List.lookup_cons, lookup_parameter listed]
  by_cases hidden : name.plain = Render.statementName
  · rw [if_pos hidden, hidden, beq_self_eq_true]
  · rw [if_neg hidden, beq_false_of_ne hidden]

/-- A listed name stands for the parameter where it is not the closure's. -/
theorem denoted?_eq_parameter_iff {signature : Signature} {name : Name}
    (listed : name ∈ signature.parameterNames) :
    signature.denoted? name = some (.parameter name.plain) ↔ name.plain ≠ Render.statementName := by
  rw [denoted?_of_mem listed]
  split
  next hidden => exact iff_of_false (by simp) fun apart => apart hidden
  next apart => exact iff_of_true rfl apart

/-- A listed name stands for the statement where it is the closure's. -/
theorem denoted?_eq_statement_iff {signature : Signature} {name : Name}
    (listed : name ∈ signature.parameterNames) :
    signature.denoted? name = some .statement ↔ name.plain = Render.statementName := by
  rw [denoted?_of_mem listed]
  split
  next hidden => exact iff_of_true rfl hidden
  next apart => exact iff_of_false (by simp) apart

end Signature

namespace CompiledMethod

/-- The bindings of a method name the inputs that its parameters were described from. -/
theorem map_parameter_bindingsFrom {inputs : List Input} {parameters : List ParameterDescriptor}
    (declares : List.Forall₂ Input.Declares inputs parameters) (position : Nat) :
    (bindingsFrom position parameters).map Binding.parameter = inputs.filterMap Input.name? := by
  induction declares generalizing position with
  | nil => rfl
  | cons declared _ hypothesis =>
    cases declared
    rw [bindingsFrom, List.map_cons, hypothesis]
    rfl

/-- A method that was compiled binds its parameters. -/
theorem binds_of_ofDescriptor {declared : Method} {descriptor : MethodDescriptor}
    {method : CompiledMethod} (generated : declared.IsGenerated)
    (described : declared.DescribedBy descriptor) (accepted : ofDescriptor descriptor = .ok method) :
    ∃ code, method.Binds code := by
  obtain ⟨_, _, _, _, signature, _, bindings⟩ := ofDescriptor_eq_ok accepted
  refine ⟨_, GeneratedMethod.read?_method method, rfl, ?_,
    fun _ => Signature.denoted?_eq_parameter_iff, fun _ => Signature.denoted?_eq_statement_iff⟩
  obtain ⟨receiver, others, arguments, reference, _⟩ := generated.inputs
  have declares := described.parameters
  rw [arguments, List.tail_cons] at declares
  rw [bindings, map_parameter_bindingsFrom declares, signature, described.signature,
    Signature.parameterNames, arguments]
  cases reference
  rfl

end CompiledMethod

namespace CompiledBatch

/-- Every method of every implementation binds its parameters. -/
theorem binds_of_mem {batch : Batch} {unit : ImplementationUnit} {method : CompiledMethod}
    (among : unit ∈ units batch) (listed : method ∈ unit.methods) :
    ∃ generated, method.Binds generated := by
  obtain ⟨_, _, _, _, compiled, _⟩ := exists_declaration_of_mem_units among
  obtain ⟨_, _, _, generated, described, accepted⟩ := exists_generated_of_mem compiled listed
  exact CompiledMethod.binds_of_ofDescriptor generated described accepted

/-- The tokens of a module declare the structs of its batch. -/
theorem declares_module (batch : Batch) :
    Declares (batch.items.flatMap (fun item => item.emitted.tokens) ++
      (Render.registry (registry batch)).tokens) batch where
  implementations unit among := by
    obtain ⟨item, stands, declaration, _, _, emitted⟩ := exists_declaration_of_mem_units among
    have whole : (Render.implementation unit).tokens <:+:
        batch.items.flatMap (fun item => item.emitted.tokens) ++
          (Render.registry (registry batch)).tokens := by
      have here : (Render.implementation unit).tokens <:+: item.emitted.tokens := by
        rw [Item.emitted, emitted, Render.batchItem, Code.tokens_append]
        exact (List.suffix_append _ _).isInfix
      have items : item.emitted.tokens <:+:
          batch.items.flatMap fun item => item.emitted.tokens := by
        rw [List.flatMap_def]
        exact List.infix_of_mem_flatten (List.mem_map_of_mem stands)
      exact (here.trans items).trans (List.prefix_append _ _).isInfix
    refine ⟨(implements_implementation unit).1.trans whole, ?_⟩
    rw [← tokens_interfaceImplementation]
    refine List.IsInfix.trans ?_ whole
    rw [Render.implementation, Code.tokens_append]
    exact (List.suffix_append _ _).isInfix
  registry := ⟨_, _, List.suffix_append _ _, GeneratedRegistry.read?_registry _, rfl⟩

/-- What compiles are the marked traits for which no error is reported. -/
theorem compiledNames_eq (batch : Batch) :
    batch.compiledNames = ((batch.items.filter fun item => item.reported.isEmpty).filterMap
      Item.interface?).map TraitDeclaration.name := by
  rw [List.map_filterMap, List.filterMap_filter, Batch.compiledNames]
  congr 1
  funext item
  rw [Item.compiled?]
  cases item.interface? <;> cases item.reported <;> rfl

/-- The traits that compiled have distinct names where all marked traits have. -/
theorem nodup_compiledNames {batch : Batch} (distinct : batch.interfaceNames.Nodup) :
    (batch.compiledNames.map Name.plain).Nodup := by
  rw [compiledNames_eq, List.map_map]
  exact distinct.sublist ((List.filter_sublist.filterMap _).map _)

/-- Implementations are called like the traits that compiled, with a suffix. -/
theorem structNames_eq (batch : Batch) :
    structNames batch = (batch.compiledNames.map Name.plain).map (· ++ "Impl") ++
      [(registry batch).name] := by
  have entries := congrArg (List.map fun entry => entry.implementation.plain)
    (entries_registry batch)
  rw [registry, Registry.ofUnits, List.map_map, List.map_map] at entries
  rw [structNames, List.map_map]
  congr 1
  refine entries.trans (List.map_congr_left fun name _ => ?_)
  exact Name.plain_nameFor name

/-- The struct of a registry is called like no implementation. -/
theorem registry_name_ne_suffixed (batch : Batch) (start : String) :
    (registry batch).name ≠ start ++ "Impl" :=
  (Registry.isNamedBy_hexadecimal _).ne_suffixed start

/-- The structures of a module are named for its interfaces and for the registry. -/
theorem mem_structNames_iff {batch : Batch} {name : String} :
    name ∈ structNames batch ↔
      (∃ interface ∈ batch.compiledNames, name = interface.plain ++ "Impl") ∨
        name = (registry batch).name := by
  rw [structNames_eq, List.mem_append, List.mem_singleton, List.map_map, List.mem_map]
  simp only [Function.comp, eq_comm]

/-- The names of the structs are apart from each other and clash only with traits of their form. -/
theorem areApart_of_nodup {batch : Batch} (distinct : batch.interfaceNames.Nodup) :
    AreApart batch where
  distinct := by
    rw [structNames_eq, List.nodup_append]
    refine ⟨?_, List.nodup_singleton _, ?_⟩
    · refine (nodup_compiledNames distinct).map fun first second same => ?_
      exact (String.append_left_inj _).mp same
    · intro name listed other single same
      obtain ⟨start, _, rfl⟩ := List.mem_map.mp listed
      rw [List.mem_singleton.mp single] at same
      exact registry_name_ne_suffixed batch start same.symm
  clashing _ _ := mem_structNames_iff
  formed name listed := by
    obtain ⟨interface, _, rfl⟩ | rfl := mem_structNames_iff.mp listed
    · exact .inl ⟨interface.plain, rfl⟩
    · exact .inr ⟨_, Registry.isNamedBy_hexadecimal _⟩

/-- Generated names stay apart as far as their forms go. The module of a batch declares a struct for
each implementation and one for the registry, and where the marked traits have distinct names, so
have these. A trait of the batch has one of these names exactly if it is called like a trait that
compiled with the suffix of implementations or like the registry. The bindings of every method name
its parameters, and what they refer to is the parameter, unless it is called like the parameter of
the closure around the bindings, which hides it. -/
theorem generated_names_clash_by_form {write : String → Option FileFailure} {batch : Batch}
    {compiled : CompiledBatch} (answered : compile write batch = .ok compiled)
    (distinct : batch.interfaceNames.Nodup) :
    (∃ inner, compiled.tokens = enclosed batch.name batch.options.isPublic inner ∧
      Declares inner batch) ∧
    AreApart batch ∧
    ∀ unit ∈ units batch, ∀ method ∈ unit.methods, ∃ generated, method.Binds generated := by
  rw [compile_eq_ok answered]
  exact ⟨⟨_, tokens_module batch, declares_module batch⟩, areApart_of_nodup distinct,
    fun _ among _ listed => binds_of_mem among listed⟩

namespace Sample

/-- `fn all(&self, __internal_statement: i64);` behind the marker of its query -/
def captured : Method :=
  ⟨[Meaning.Sample.mark], { Meaning.Sample.signature with
      inputs :=
        [⟨.receiver [] (some (.callSite, none)) none .callSite none, some .callSite⟩,
          ⟨.typed [] (.named none none (name Render.statementName) none) .callSite
            (.path [] (name "i64") .none), none⟩]
      output := none }, none, .callSite⟩

/-- A trait without the marker, called like the registry of its batch. -/
def lookalike : Item :=
  .trait ⟨[], [], none, none, .callSite, name "DaoRegistryc7746bf3dee00550", .none, .callSite, [],
    .callSite, .callSite, []⟩

/-- One marked trait is called like the implementation of the other. -/
def clashing : Batch :=
  ⟨name "db", ⟨false, none⟩,
    [interface "T" [.method captured], interface "TImpl" [], lookalike]⟩

/-- The interfaces of the sample batch have different names. -/
theorem nodup_clashing : clashing.interfaceNames.Nodup := by
  decide

end Sample

section

open Sample

/-- Distinct names of marked traits do not keep generated names off the others: here all traits
compile, one of them is called like an implementation and one like the registry, and a binding
refers to what executes instead of to its parameter. -/
theorem generated_names_clash :
    clashing.interfaceNames.Nodup ∧
    (∃ compiled, compile (fun _ => none) clashing = .ok compiled ∧ compiled.errors = []) ∧
    ("TImpl" ∈ structNames clashing ∧ "TImpl" ∈ clashing.traitNames) ∧
    ((registry clashing).name ∈ structNames clashing ∧
      (registry clashing).name ∈ clashing.traitNames) ∧
    ∃ unit ∈ units clashing, ∃ method ∈ unit.methods, ∃ generated,
      GeneratedMethod.read? (Render.method method).tokens = some generated ∧
      ∃ bound ∈ generated.bindings,
        method.signature.denoted? bound.parameter = some .statement := by
  have named : (registry clashing).name = "DaoRegistryc7746bf3dee00550" := by
    decide +kernel
  refine ⟨nodup_clashing, ⟨_, rfl, rfl⟩, ⟨?_, ?_⟩, ⟨?_, ?_⟩, ?_⟩
  · exact mem_structNames_iff.mpr (.inl ⟨name "T", List.mem_cons_self, by decide⟩)
  · decide
  · exact mem_structNames_iff.mpr (.inr rfl)
  · rw [named]
    decide
  · exact ⟨_, List.mem_cons_self, _, List.mem_cons_self, _, GeneratedMethod.read?_method _, _,
      List.mem_cons_self, by decide⟩

/-- The structs of the batch with clashes are apart from each other and from a trait that has a name
of another form. -/
theorem generated_names_clash_by_form_of_sample :
    ∃ compiled, compile (fun _ => none) clashing = .ok compiled ∧
      clashing.interfaceNames.Nodup ∧ (structNames clashing).Nodup ∧
      "T" ∈ clashing.traitNames ∧ "T" ∉ structNames clashing := by
  have answered : compile (fun _ => none) clashing = .ok _ := rfl
  obtain ⟨_, apart, _⟩ := generated_names_clash_by_form answered nodup_clashing
  refine ⟨_, answered, nodup_clashing, apart.distinct, by decide, fun listed => ?_⟩
  have short : "T".length = 1 := rfl
  have suffix : "Impl".length = 4 := rfl
  obtain ⟨start, same⟩ | ⟨digits, same, length, _⟩ := apart.formed "T" listed
  · have long := congrArg String.length same
    rw [String.length_append] at long
    omega
  · have long := congrArg String.length same
    rw [String.length_append] at long
    omega

end

end CompiledBatch

end DataAccess
