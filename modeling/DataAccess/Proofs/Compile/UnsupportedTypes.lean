/-
This file proves that the types of a marked trait's parameters are looked at whatever else is wrong
with it, and that its return types are looked at exactly when nothing else is.
-/

import DataAccess.Compile.UnsupportedTypes
import DataAccess.Proofs.Compile.Reported
import DataAccess.Proofs.Compile.WellFormed

namespace DataAccess

open CompileError (isUnsupportedParameter isUnsupportedReturn)

namespace Interface

section

variable {error : CompileError}

/-- The problems of a trait itself have nothing to do with the types in it. -/
theorem code_of_mem_traitErrors {declaration : TraitDeclaration}
    (told : error ∈ traitErrors declaration) : error.code = 7 := by
  simp only [traitErrors, List.mem_append, Option.mem_toList, Option.map_eq_some_iff,
    List.mem_ite_nil_right, List.mem_ite_nil_left, List.mem_singleton] at told
  obtain ((⟨_, rfl⟩ | ⟨_, _, rfl⟩) | ⟨_, _, rfl⟩) | ⟨_, rfl⟩ := told <;> rfl

/-- Every error of a signature has code 8. -/
theorem code_of_mem_signatureErrors {signature : Signature}
    (told : error ∈ signatureErrors signature) : error.code = 8 := by
  simp only [signatureErrors, List.mem_append, Option.mem_toList, Option.map_eq_some_iff,
    List.mem_ite_nil_right, List.mem_singleton] at told
  obtain ((((⟨_, _, rfl⟩ | ⟨_, _, rfl⟩) | ⟨_, _, rfl⟩) | ⟨_, _, rfl⟩) | ⟨_, rfl⟩) | ⟨_, _, rfl⟩ :=
    told <;> rfl

/-- Every error of a body has code 6. -/
theorem code_of_mem_bodyErrors {method : Method} (told : error ∈ bodyErrors method) :
    error.code = 6 := by
  simp only [bodyErrors, Option.mem_toList, Option.map_eq_some_iff] at told
  obtain ⟨_, _, rfl⟩ := told
  rfl

/-- Every error of a receiver has code 10. -/
theorem code_of_mem_receiverErrors {signature : Signature}
    (told : error ∈ receiverErrors signature) : error.code = 10 := by
  unfold receiverErrors at told
  split at told
  next =>
    rw [List.mem_singleton.mp told]
    rfl
  next =>
    obtain ⟨_, single⟩ := List.mem_ite_nil_left.mp told
    rw [List.mem_singleton.mp single]
    rfl

/-- No error of a query is one of an unsupported type. -/
theorem code_of_mem_query {method : Name} {first : Attribute} {others : List Attribute}
    (told : error ∈ problemsOf (query method first others)) : 4 ≤ error.code := by
  have duplicated : ∀ error ∈ others.map fun other =>
      CompileError.duplicateQuery method other.pound first.pound, 4 ≤ error.code := by
    intro error told
    obtain ⟨_, _, rfl⟩ := List.mem_map.mp told
    exact Nat.le_succ 4
  rw [query] at told
  split at told
  next =>
    split at told
    next =>
      obtain repeated | single := List.mem_append.mp told
      · exact duplicated error repeated
      · rw [List.mem_singleton.mp single]
        exact Nat.le_refl 4
    next =>
      split at told
      next => contradiction
      next => exact duplicated error told
  next =>
    obtain repeated | single := List.mem_append.mp told
    · exact duplicated error repeated
    · rw [List.mem_singleton.mp single]
      exact Nat.le_of_ble_eq_true rfl

end

/-- Of all that is told of an input, the rejection of its type alone counts as unsupported. -/
theorem filter_describeInput (method : Name) (input : Input) :
    (problemsOf (describeInput method input)).filter isUnsupportedParameter =
        (input.unsupported? method).toList ∧
      (problemsOf (describeInput method input)).filter isUnsupportedReturn = [] := by
  cases input with
  | receiver => exact ⟨rfl, rfl⟩
  | typed attributes pattern colon declared =>
    unfold Input.unsupported?
    split
    next same =>
      obtain ⟨_, rfl, _, rfl⟩ := Input.typed.inj same
      rw [describeInput, describeTyped]
      cases Mapping.resolveParameter declared <;> exact ⟨rfl, rfl⟩
    next named same =>
      obtain ⟨rfl, rfl, rfl, rfl⟩ := Input.typed.inj same
      rw [describeInput, describeTyped]
      · exact ⟨rfl, rfl⟩
      · exact fun mutability name plain => named mutability name (plain ▸ rfl)
    next same => contradiction

/-- No error of a code above one is about an unsupported type. -/
theorem filter_eq_nil_of_code {errors : List CompileError}
    (coded : ∀ error ∈ errors, 1 < error.code) :
    errors.filter isUnsupportedParameter = [] ∧ errors.filter isUnsupportedReturn = [] := by
  simp only [List.filter_eq_nil_iff, isUnsupportedParameter, isUnsupportedReturn, beq_iff_eq]
  exact ⟨fun error told => Nat.ne_of_gt (Nat.lt_of_succ_lt (coded error told)),
    fun error told => Nat.ne_of_gt (coded error told)⟩

/-- The parameters have one error for each unsupported input, and none of what is returned. -/
theorem filter_parameters (signature : Signature) :
    (problemsOf (parameters signature)).filter isUnsupportedParameter =
        signature.arguments.tail.filterMap (Input.unsupported? signature.name) ∧
      (problemsOf (parameters signature)).filter isUnsupportedReturn = [] := by
  have silent := filter_eq_nil_of_code fun error (told : error ∈ receiverErrors signature) =>
    code_of_mem_receiverErrors told ▸ Nat.lt_of_sub_eq_succ rfl
  rw [problemsOf_parameters, List.filter_append, List.filter_append, silent.1, silent.2]
  constructor
  · rw [List.nil_append, List.flatMap_map, List.filter_flatMap, List.filterMap_eq_flatMap_toList]
    exact congrArg (signature.arguments.tail.flatMap ·)
      (funext fun input => (filter_describeInput signature.name input).1)
  · rw [List.nil_append, List.flatMap_map, List.filter_flatMap, List.flatMap_eq_nil_iff]
    exact fun input _ => (filter_describeInput signature.name input).2

/-- Whatever else is wrong with a method, the types of its parameters are told of. -/
theorem filter_describeQuery (method : Method) (first : Attribute) (others : List Attribute) :
    (problemsOf (describeQuery method first others)).filter isUnsupportedParameter =
        method.unsupportedParameters ∧
      (problemsOf (describeQuery method first others)).filter isUnsupportedReturn = [] := by
  have silent : ∀ error ∈ signatureErrors method.signature ++ bodyErrors method ++
      problemsOf (query method.signature.name first others), 1 < error.code := by
    intro error told
    simp only [List.mem_append] at told
    obtain (signed | bodied) | queried := told
    · exact code_of_mem_signatureErrors signed ▸ Nat.lt_of_sub_eq_succ rfl
    · exact code_of_mem_bodyErrors bodied ▸ Nat.lt_of_sub_eq_succ rfl
    · exact Nat.lt_of_lt_of_le (Nat.lt_of_sub_eq_succ rfl) (code_of_mem_query queried)
  obtain ⟨parametric, returned⟩ := filter_parameters method.signature
  obtain ⟨unbound, unreturned⟩ := filter_eq_nil_of_code silent
  rw [problemsOf_describeQuery]
  exact ⟨by rw [List.filter_append (_ ++ _ ++ _), unbound, parametric]; rfl,
    by rw [List.filter_append (_ ++ _ ++ _), unreturned, returned]; rfl⟩

/-- Of all that is told of an item, the rejections of parameter types alone count as unsupported. -/
theorem filter_itemErrors (interface : Name) (item : TraitItem) :
    (itemErrors interface item).filter isUnsupportedParameter =
        item.queried?.toList.flatMap Method.unsupportedParameters ∧
      (itemErrors interface item).filter isUnsupportedReturn = [] := by
  cases item with
  | other code => exact ⟨rfl, rfl⟩
  | method method =>
    rw [itemErrors, describeItem, describeMethod]
    cases marks : method.attributes.filter isQuery with
    | nil =>
      have unqueried : TraitItem.queried? (.method method) = none := by
        simp [TraitItem.queried?, isQueried_eq_false_iff.mpr marks]
      rw [unqueried]
      simp only [describeProvided]
      cases method.body with
      | none => exact ⟨rfl, rfl⟩
      | some body => cases dispatchObstacle? method.signature <;> exact ⟨rfl, rfl⟩
    | cons first others =>
      have queried : TraitItem.queried? (.method method) = some method := by
        have marked : ¬ method.isQueried = false := by simp [isQueried_eq_false_iff, marks]
        simp [TraitItem.queried?, Bool.of_not_eq_false marked]
      obtain ⟨parametric, returned⟩ := filter_describeQuery method first others
      rw [queried]
      simp only [Option.toList_some, List.flatMap_singleton]
      exact ⟨parametric, returned⟩

/-- A trait's description tells of every parameter type that cannot be bound, and of no return
type. -/
theorem filter_describe (declaration : TraitDeclaration) :
    (problemsOf (describe declaration)).filter isUnsupportedParameter =
        declaration.unsupportedParameters ∧
      (problemsOf (describe declaration)).filter isUnsupportedReturn = [] := by
  have silent := filter_eq_nil_of_code fun error (told : error ∈ traitErrors declaration) =>
    code_of_mem_traitErrors told ▸ Nat.lt_of_sub_eq_succ rfl
  rw [problemsOf_describe, List.filter_append, List.filter_append, silent.1, silent.2]
  constructor
  · rw [List.nil_append, List.filter_flatMap, TraitDeclaration.unsupportedParameters,
      TraitDeclaration.queried, List.filterMap_eq_flatMap_toList, List.flatMap_assoc]
    exact congrArg (declaration.items.flatMap ·)
      (funext fun item => (filter_itemErrors declaration.name item).1)
  · rw [List.nil_append, List.filter_flatMap, List.flatMap_eq_nil_iff]
    exact fun item _ => (filter_itemErrors declaration.name item).2

/-- The methods with a query are those that carry its marker. -/
theorem mem_queried_iff {declaration : TraitDeclaration} {method : Method} :
    method ∈ declaration.queried ↔
      .method method ∈ declaration.items ∧ method.attributes.filter isQuery ≠ [] := by
  rw [TraitDeclaration.queried, List.mem_filterMap, ne_eq, ← isQueried_eq_false_iff]
  constructor
  · rintro ⟨item, member, found⟩
    cases item with
    | other code => exact nomatch found
    | method other =>
      simp only [TraitItem.queried?, Option.ite_none_right_eq_some, Option.some.injEq] at found
      obtain ⟨marked, rfl⟩ := found
      exact ⟨member, by simp [marked]⟩
  · rintro ⟨member, marked⟩
    exact ⟨_, member, if_pos (Bool.of_not_eq_false marked)⟩

/-- Whatever is told of a method with a query is told of its trait. -/
theorem mem_describe_of_mem_describeQuery {declaration : TraitDeclaration} {method : Method}
    {error : CompileError} (queried : method ∈ declaration.queried)
    (told : ∀ first others, error ∈ problemsOf (describeQuery method first others)) :
    error ∈ problemsOf (describe declaration) := by
  obtain ⟨member, marked⟩ := mem_queried_iff.mp queried
  rw [problemsOf_describe]
  refine List.mem_append_right _ (List.mem_flatMap.mpr ⟨_, member, ?_⟩)
  rw [itemErrors, describeItem, describeMethod]
  cases marks : method.attributes.filter isQuery with
  | nil => exact absurd marks marked
  | cons first others => simpa using told first others

/-- A method whose first input is no receiver by reference is told of. -/
theorem badReceiver_mem_describe {declaration : TraitDeclaration} {method : Method}
    {first : Input} {others : List Input} (queried : method ∈ declaration.queried)
    (listed : method.signature.arguments = first :: others) (refused : ¬ first.IsReference) :
    .badReceiver method.signature.name first.position ∈ problemsOf (describe declaration) := by
  refine mem_describe_of_mem_describeQuery queried fun _ _ => ?_
  rw [← isReferenceReceiver_iff, Bool.not_eq_true] at refused
  rw [problemsOf_describeQuery, problemsOf_parameters]
  refine List.mem_append_right _ (List.mem_append_left _ ?_)
  simp [receiverErrors, listed, refused]

end Interface

namespace CompiledMethod

open Mapping TypeForm

/-- A value that can be returned can be extracted. -/
theorem extractOf?_isSome_of_returns {form : TypeForm} {shape : ReturnShape}
    (returned : form.Returns shape) : (extractOf? shape).isSome = true := by
  cases returned with
  | void => rfl
  | cursor => rfl
  | scalar extracted => simpa [extractOf?] using (extracts_iff.mp extracted).2
  | list _ extracted => simpa [extractOf?] using (extracts_iff.mp extracted).2
  | set _ extracted _ => simpa [extractOf?] using (extracts_iff.mp extracted).2

/-- What the resolver accepts as returned can be extracted. -/
theorem extractOf?_isSome_of_resolveReturn {output : Option DeclaredType}
    {returned : ReturnDescriptor} (resolved : resolveReturn output = .ok returned) :
    (extractOf? returned.shape).isSome = true := by
  cases output with
  | none =>
    rw [← Except.ok.inj resolved]
    rfl
  | some declared =>
    cases resolveReturn_eq_ok_iff.mp resolved with
    | propagate _ _ returned => exact extractOf?_isSome_of_returns returned
    | unchecked _ returned => exact extractOf?_isSome_of_returns returned

/-- A described method fails to compile exactly by the type that it returns. -/
theorem problemsOf_ofDescriptor {method : Method} {descriptor : MethodDescriptor}
    (described : method.DescribedBy descriptor) :
    problemsOf ((ofDescriptor descriptor).mapError ([·])) = method.unsupportedReturn?.toList := by
  rw [ofDescriptor, described.signature, Method.unsupportedReturn?]
  cases declared : method.signature.output with
  | none => rfl
  | some output =>
    rw [Option.map_some]
    cases resolved : resolveReturn (some output.declared) with
    | error reason =>
      simp only [resolved, unsupportedReturn, described.signature, declared, described.name]
      rfl
    | ok returned =>
      obtain ⟨extract, extracted⟩ :=
        Option.isSome_iff_exists.mp (extractOf?_isSome_of_resolveReturn resolved)
      simp only [resolved, extracted]
      rfl

end CompiledMethod

/-- The error of an unsupported returned type has code 1. -/
theorem Method.code_of_unsupportedReturn? {method : Method} {error : CompileError}
    (found : method.unsupportedReturn? = some error) : error.code = 1 := by
  unfold Method.unsupportedReturn? at found
  split at found
  next => exact nomatch found
  next =>
    split at found
    next => exact nomatch found
    next =>
      rw [← Option.some.inj found]
      rfl

namespace CompiledBatch

/-- A trait that could be described fails to compile exactly by the types its methods return. -/
theorem problemsOf_ofDescriptors {methods : List Method} {descriptors : List MethodDescriptor}
    (described : List.Forall₂ Method.DescribedBy methods descriptors) :
    (descriptors.flatMap fun descriptor =>
        problemsOf ((CompiledMethod.ofDescriptor descriptor).mapError ([·]))) =
      methods.filterMap Method.unsupportedReturn? := by
  rw [List.filterMap_eq_flatMap_toList]
  induction described with
  | nil => rfl
  | cons first _ hypothesis =>
    rw [List.flatMap_cons, List.flatMap_cons, CompiledMethod.problemsOf_ofDescriptor first,
      hypothesis]

/-- A well-formed trait has the errors of its returned types alone. -/
theorem problemsOf_compileInterface_of_isWellFormed {declaration : TraitDeclaration}
    (formed : declaration.IsWellFormed) :
    problemsOf (compileInterface declaration) = declaration.unsupportedReturns := by
  obtain ⟨interface, described⟩ := Interface.exists_describe_of_isWellFormed formed
  rw [problemsOf_compileInterface_of_ok described,
    problemsOf_ofDescriptors (Interface.describedBy_of_describe described).methods]
  rfl

/-- A malformed trait has the errors of its description alone. -/
theorem problemsOf_compileInterface_of_malformed {declaration : TraitDeclaration}
    (malformed : ¬ declaration.IsWellFormed) :
    problemsOf (compileInterface declaration) = problemsOf (Interface.describe declaration) := by
  cases described : Interface.describe declaration with
  | ok interface => exact absurd (Interface.isWellFormed_of_describe described) malformed
  | error errors =>
    rw [compileInterface, problemsOf_bind_of_error _ described]
    rfl

/-- What is told of the types of a trait, whether it could be described or not. -/
theorem typesToldIn_compileInterface (declaration : TraitDeclaration) :
    declaration.TypesToldIn (problemsOf (compileInterface declaration)) := by
  have told := Interface.filter_describe declaration
  by_cases formed : declaration.IsWellFormed
  · obtain ⟨interface, described⟩ := Interface.exists_describe_of_isWellFormed formed
    have returned := problemsOf_compileInterface_of_isWellFormed formed
    have coded : ∀ error ∈ declaration.unsupportedReturns, error.code = 1 := by
      intro error member
      obtain ⟨method, _, found⟩ := List.mem_filterMap.mp member
      exact Method.code_of_unsupportedReturn? found
    rw [described] at told
    rw [returned]
    refine ⟨?_, fun _ => ?_, fun malformed => absurd formed malformed, ?_⟩
    · rw [← told.1]
      simp only [problemsOf, List.filter_nil, List.filter_eq_nil_iff, isUnsupportedParameter]
      intro error member
      simp [coded error member]
    · simp only [List.filter_eq_self, isUnsupportedReturn]
      intro error member
      simp [coded error member]
    · intro method queried first others listed refused
      have member := Interface.badReceiver_mem_describe queried listed refused
      rw [described] at member
      contradiction
  · rw [problemsOf_compileInterface_of_malformed formed]
    exact ⟨told.1, fun other => absurd other formed, fun _ => told.2,
      fun method queried first others listed refused =>
        Interface.badReceiver_mem_describe queried listed refused⟩

/-- Every answer tells of the parameter types of every marked trait whatever else is wrong with it,
and of its return types exactly if the trait is well-formed. Nothing is answered only when a debug
file is created for code that the formatter does not know. -/
theorem unsupported_types_reported (write : String → Option FileFailure) (batch : Batch) :
    (∀ failure, compile write batch = .error failure ↔ Stops write batch failure) ∧
      ∀ compiled item declaration, compile write batch = .ok compiled → item ∈ batch.items →
        item.interface? = some declaration →
          item.reported <:+: compiled.errors ∧ declaration.TypesToldIn item.reported := by
  refine ⟨compile_eq_error_iff write batch, ?_⟩
  intro compiled item declaration answered member marked
  rw [compile_eq_ok answered]
  refine ⟨reported_together write member, ?_⟩
  rw [reported_interface marked]
  exact typesToldIn_compileInterface declaration

namespace Sample

/-- `u64` and `u8` are no value types. -/
def unsigned (text : String) : DeclaredType :=
  .path [] (name text) .none

/-- `fn all(&self, least: i64) -> u8` -/
def unanswerable : Method :=
  { Meaning.Sample.method with
    signature := { Meaning.Sample.signature with output := some ⟨.callSite, unsigned "u8"⟩ } }

/-- `fn all(&self, least: u64) -> u8` -/
def unreadable : Method :=
  { unanswerable with
    signature := { unanswerable.signature with
      inputs :=
        [⟨.receiver [] (some (.callSite, none)) none .callSite none, some .callSite⟩,
          ⟨.typed [] (.named none none (name "least") none) .callSite (unsigned "u64"), none⟩] } }

/-- An interface with an unsupported parameter, which conceals what it returns. -/
def concealing : Item :=
  interface "Numbers" [.method unreadable]

/-- An interface with an unsupported returned type alone. -/
def revealing : Item :=
  interface "Counts" [.method unanswerable]

/-- A batch of the two interfaces. -/
def mistyped : Batch :=
  ⟨name "db", ⟨false, none⟩, [concealing, revealing]⟩

end Sample

section

open Sample

/-- The type of a parameter hides the one of the answer, which is told of in another trait. -/
theorem unsupported_types_reported_of_sample :
    ∃ compiled, compile (fun _ => none) mistyped = .ok compiled ∧
      .unsupportedParameter (name "all") (name "least") "u64" .callSite .unknown ∈
        compiled.errors ∧
      .unsupportedReturn (name "all") "u8" .callSite .unknown ∈ compiled.errors ∧
      concealing.reported.filter isUnsupportedReturn = [] := by
  have told := (unsupported_types_reported (fun _ => none) mistyped).2
  obtain ⟨among, first⟩ := told _ concealing _ rfl (by simp [mistyped]) rfl
  obtain ⟨among', second⟩ := told _ revealing _ rfl (by simp [mistyped]) rfl
  refine ⟨_, rfl, ?_, ?_, ?_⟩
  · apply among.subset
    apply List.mem_of_mem_filter
    rw [first.parameters]
    exact List.mem_singleton.mpr rfl
  · apply among'.subset
    apply List.mem_of_mem_filter
    rw [second.returns (Interface.isWellFormed_of_describe rfl)]
    exact List.mem_singleton.mpr rfl
  · apply first.hidden
    intro formed
    obtain ⟨interface, described⟩ := Interface.exists_describe_of_isWellFormed formed
    exact nomatch described

end

end CompiledBatch

end DataAccess
