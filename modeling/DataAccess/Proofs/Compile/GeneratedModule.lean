/-
This file proves that the code that is generated for a batch that was read is always what it is
meant to be.
-/

import DataAccess.Proofs.Compile.AcceptedFragments
import DataAccess.Proofs.Compile.WellFormed
import DataAccess.Proofs.Execution.Meaning
import DataAccess.Proofs.Parse.Readable

namespace DataAccess

open DataAccess.Parser

/-- A signature without qualifiers begins with its keyword. -/
theorem Signature.IsPlain.begins {signature : Signature} (plain : signature.IsPlain) :
    ∃ position more, signature.tokens = Token.keyword "fn" position :: more := by
  rw [tokens, code, plain.constness, plain.asyncness, plain.unsafety, plain.abi]
  exact ⟨signature.keyword, _, rfl⟩

namespace CompiledMethod

/-- Parameters that were read can be bound. -/
theorem bindable_bindingsFrom {inputs : List Input} {parameters : List ParameterDescriptor}
    (declares : List.Forall₂ Input.Declares inputs parameters)
    (readable : ∀ input ∈ inputs, input.IsReadable) (position : Nat) :
    ∀ bound ∈ bindingsFrom position parameters, bound.parameter.IsBindable := by
  induction declares generalizing position with
  | nil => exact fun _ absent => nomatch absent
  | cons declared _ hypothesis =>
    obtain ⟨first, others⟩ := List.forall_mem_cons.mp readable
    rw [bindingsFrom, List.forall_mem_cons]
    refine ⟨?_, hypothesis others (position + 1)⟩
    cases declared
    exact first

/-- A method that was compiled from one that was read can be read itself. -/
theorem isReadable_ofDescriptor {method : Method} {descriptor : MethodDescriptor}
    {compiled : CompiledMethod} (accepted : ofDescriptor descriptor = .ok compiled)
    (generated : method.IsGenerated) (described : method.DescribedBy descriptor)
    (readable : method.signature.IsReadable) (prints : compiled.PrintsBack) :
    compiled.IsReadable := by
  obtain ⟨_, _, _, _, signature, _, bindings⟩ := ofDescriptor_eq_ok accepted
  refine ⟨?_, prints, ?_⟩
  · rw [signature, described.signature]
    exact generated.plain.begins
  · rw [bindings]
    refine bindable_bindingsFrom described.parameters (fun input listed => ?_) 1
    obtain ⟨separated, among, rfl⟩ := List.mem_map.mp (List.mem_of_mem_tail listed)
    exact readable separated among

end CompiledMethod

namespace CompiledBatch

/-- The implementation of a trait that was read can be read. -/
theorem isReadable_compileInterface {declaration : TraitDeclaration} {unit : ImplementationUnit}
    (compiled : compileInterface declaration = .ok unit) (readable : declaration.IsReadable)
    (prints : ∀ method ∈ unit.methods, method.PrintsBack) : unit.IsReadable := by
  obtain ⟨interface, name, visibility, _⟩ := compileInterface_eq_ok compiled
  refine ⟨?_, ?_, ?_, fun method listed => ?_⟩
  · rw [name]
    exact ImplementationUnit.isPlain_nameFor declaration.name
  · rw [interface]
    exact readable.name
  · rw [visibility]
    exact readable.visibility
  · obtain ⟨_, _, item, generated, parts, same⟩ := exists_generated_of_mem compiled listed
    exact CompiledMethod.isReadable_ofDescriptor same generated parts (readable.items _ item)
      (prints method listed)

/-- What is implemented in a batch that was read can be read. -/
theorem isReadable_of_batch {tokens : List Token} {batch : Batch}
    (parsed : Parse.batch? tokens = .ok batch) (prints : batch.PrintsBack) : batch.IsReadable := by
  have read : batch.name.IsPlain ∧ ∀ item ∈ batch.items, item.IsReadable :=
    (Parse.ensures_batch _).of_run parsed
  refine ⟨read.1, fun unit among => ?_⟩
  obtain ⟨item, stands, declaration, marked, compiled, _⟩ := exists_declaration_of_mem_units among
  obtain ⟨whole, rfl, same⟩ := exists_trait_of_interface? marked
  have readable : whole.IsReadable := read.2 _ stands
  refine isReadable_compileInterface compiled ?_ (prints.signatures _ among)
  rw [← same]
  exact readable.attributed _

/-- Every fragment of the code that is generated for a batch passes its check. The whole is read as
one module, whose items are those of the batch without their markers, each marked trait that
compiles with its implementation behind it, and the registry at the end. -/
theorem generated_module_is_valid {tokens : List Token} {batch : Batch}
    (parsed : Parse.batch? tokens = .ok batch) (prints : batch.PrintsBack)
    (write : String → Option FileFailure) :
    (∀ fragment ∈ Fragment.ofBatch batch, fragment.check = .ok ()) ∧
      ∃ read, Parser.run (Parse.loneModule (Parse.grammarFor (ofBatch write batch).tokens))
          (ofBatch write batch).tokens = .ok read ∧
        read.Realizes batch (Parse.grammarFor (ofBatch write batch).tokens) := by
  have readable := isReadable_of_batch parsed prints
  exact ⟨Fragment.check_ofBatch readable prints, (Fragment.accepts_module readable prints).run⟩

namespace Sample

/-- `fn all ( & self , least : i64 ) -> Vec < i64 > ;` behind the marker of its query -/
def allTokens : List Token :=
  [.mark '#' false .callSite, .group .bracket .callSite .callSite
      [.keyword "query" .callSite,
        .group .parenthesis .callSite .callSite [.literal "\"q\"" .callSite]],
    .keyword "fn" .callSite, .keyword "all" .callSite,
    .group .parenthesis .callSite .callSite
      [.mark '&' false .callSite, .keyword "self" .callSite, .mark ',' false .callSite,
        .keyword "least" .callSite, .mark ':' false .callSite, .keyword "i64" .callSite],
    .mark '-' true .callSite, .mark '>' false .callSite, .keyword "Vec" .callSite,
    .mark '<' false .callSite, .keyword "i64" .callSite, .mark '>' false .callSite,
    .mark ';' false .callSite]

/-- `impl db ; struct Number ; #[dao] trait Numbers`, the trait with one method -/
def numbersTokens : List Token :=
  [.keyword "impl" .callSite, .keyword "db" .callSite, .mark ';' false .callSite,
    .keyword "struct" .callSite, .keyword "Number" .callSite, .mark ';' false .callSite,
    .mark '#' false .callSite, .group .bracket .callSite .callSite [.keyword "dao" .callSite],
    .keyword "trait" .callSite, .keyword "Numbers" .callSite,
    .group .brace .callSite .callSite allTokens]

/-- A structure without a marker, as the sample batch has one. -/
def record : Item :=
  .plain ⟨.record, [], [.token (.keyword "struct" .callSite), .token (.word (name "Number")),
    .token (.mark ';' false .callSite)], none⟩

/-- The interface of the sample batch. -/
def numbers : Item :=
  interface "Numbers" [.method Meaning.Sample.method]

/-- The sample batch: a structure and a marked interface with one query. -/
def numbersBatch : Batch :=
  ⟨name "db", ⟨false, none⟩, [record, numbers]⟩

set_option maxRecDepth 2000 in
/-- The text of the sample batch is read as that batch. -/
theorem parsed_numbersBatch : Parse.batch? numbersTokens = .ok numbersBatch := rfl

/-- The sample batch has one unit, with the one method of its interface. -/
theorem units_numbersBatch :
    units numbersBatch = [⟨ImplementationUnit.nameFor (name "Numbers"), name "Numbers", [],
      [Meaning.Sample.compiled]⟩] :=
  rfl

/-- The structure of the sample batch is read back from its tokens. -/
theorem readsBack_record {depth : Nat} :
    (Parse.grammar (depth + 8)).item.ReadsBack Item.code (fun _ => True) record.kept.tokens := by
  rintro ⟨_, _, _, leftover⟩ rest - rfl
  cases leftover <;> exact ⟨_, rfl, rfl⟩

set_option maxRecDepth 2000 in
/-- The interface of the sample batch is read back from its tokens. -/
theorem readsBack_numbers {depth : Nat} :
    (Parse.grammar (depth + 8)).item.ReadsBack Item.code (fun _ => True) numbers.kept.tokens := by
  rintro ⟨_, _, _, leftover⟩ rest - rfl
  cases leftover <;> exact ⟨_, rfl, rfl⟩

set_option maxRecDepth 2000 in
/-- The parts of the sample method are read back from their tokens. -/
theorem printsBack_compiled : Meaning.Sample.compiled.PrintsBack := by
  intro depth deep
  obtain ⟨depth, rfl⟩ : ∃ previous, depth = previous + 8 := ⟨depth - 8, by omega⟩
  rintro ⟨_, _, _, leftover⟩ rest ends rfl
  match rest with
  | .mark character _ _ :: _ =>
    obtain rfl := eq_of_beq ends
    cases leftover <;> exact ⟨_, rfl, rfl⟩

/-- The whole sample batch is read back from its tokens. -/
theorem printsBack_numbersBatch : numbersBatch.PrintsBack where
  items item listed depth deep := by
    obtain ⟨depth, rfl⟩ : ∃ previous, depth = previous + 8 := ⟨depth - 8, by omega⟩
    simp only [numbersBatch, List.mem_cons, List.not_mem_nil, or_false] at listed
    obtain rfl | rfl := listed
    · exact readsBack_record
    · exact readsBack_numbers
  signatures unit among method listed := by
    rw [units_numbersBatch, List.mem_singleton] at among
    subst among
    rw [List.mem_singleton.mp listed]
    exact printsBack_compiled

end Sample

section

open Sample

/-- The module of the sample brings its surroundings in and holds the struct, the trait with the
four items of its implementation, and the three of the registry. -/
theorem generated_module_is_valid_of_sample :
    (∀ fragment ∈ Fragment.ofBatch numbersBatch, fragment.check = .ok ()) ∧
      ∃ read items,
        Parser.run (Parse.loneModule
            (Parse.grammarFor (ofBatch (fun _ => none) numbersBatch).tokens))
          (ofBatch (fun _ => none) numbersBatch).tokens = .ok read ∧
        read.name = name "db" ∧ read.exposure.tokens = [] ∧
        read.items = some items ∧ items.length = 1 + 1 + 5 + 3 := by
  obtain ⟨checks, read, done, realizes⟩ :=
    generated_module_is_valid parsed_numbersBatch printsBack_numbersBatch fun _ => none
  obtain ⟨items, found, described, _⟩ := realizes.items
  exact ⟨checks, read, items, done, realizes.name, realizes.exposure, found,
    described.length_eq.symm⟩

end

end CompiledBatch

end DataAccess
