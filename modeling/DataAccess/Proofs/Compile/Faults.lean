/-
This file proves that the errors of a marked trait are complete, in order and local to its parts.
-/

import DataAccess.Compile.Faults
import DataAccess.Proofs.Compile.Reported
import DataAccess.Proofs.Compile.WellFormed

namespace DataAccess

namespace Interface

/-! The errors that each check finds are those of the part that it is about. -/

/-- A condition for a place is a condition for what is told of it. -/
theorem toList_map_ite {Place Error : Type} (condition : Bool) (place : Place)
    (tell : Place → Error) :
    ((if condition then some place else none).map tell).toList =
      if condition then [tell place] else [] := by
  cases condition <;> rfl

/-- What is told of a trait as a whole are its own errors. -/
theorem traitErrors_eq_ownErrors (declaration : TraitDeclaration) :
    traitErrors declaration = declaration.ownErrors := by
  rw [traitErrors, TraitDeclaration.ownErrors, List.filterMap_eq_flatMap_toList]
  simp only [List.flatMap_cons, List.flatMap_nil, TraitDeclaration.place?, toList_map_ite,
    List.append_assoc, List.append_nil]
  cases declaration.supertraits.isEmpty <;> rfl

/-- What is told of a signature are the errors of its features. -/
theorem signatureErrors_eq_featureErrors (signature : Signature) :
    signatureErrors signature = signature.featureErrors := by
  rw [signatureErrors, Signature.featureErrors, List.filterMap_eq_flatMap_toList]
  simp only [List.flatMap_cons, List.flatMap_nil, Signature.place?, toList_map_ite,
    Option.map_map, List.append_assoc, List.append_nil]
  rfl

/-- Of several queries every further one is told, and then the error of the first one. -/
theorem problemsOf_query {method : Name} {first : Attribute} {found : Option CompileError}
    (has : first.HasQuery method found) (others : List Attribute) :
    problemsOf (query method first others) =
      others.map (fun other => .duplicateQuery method other.pound first.pound) ++ found.toList := by
  cases has with
  | @written literal holds written =>
    rw [query, Attribute.stringArgument_eq_ok_iff.mpr holds]
    cases others <;> simp [isBlank_eq_false_iff.mpr written, problemsOf]
  | @blank literal holds blank =>
    have trimmed : Text.isBlank literal.value = true := by
      rwa [← isBlank_eq_false_iff, Bool.not_eq_false] at blank
    simp [query, Attribute.stringArgument_eq_ok_iff.mpr holds, trimmed, problemsOf]
  | malformed failed => simp [query, failed, problemsOf]

/-- The first query of a method has an error or none. -/
theorem exists_hasQuery (method : Name) (first : Attribute) :
    ∃ found, first.HasQuery method found := by
  cases argument : first.stringArgument with
  | error error => exact ⟨_, .malformed argument⟩
  | ok literal =>
    have holds := Attribute.stringArgument_eq_ok_iff.mp argument
    by_cases written : literal.IsWritten
    · exact ⟨_, .written holds written⟩
    · exact ⟨_, .blank holds written⟩

/-- What is told of a receiver is its error, if it has one. -/
theorem receiverErrors_eq {signature : Signature} {found : Option CompileError}
    (has : signature.HasReceiver found) : receiverErrors signature = found.toList := by
  cases has with
  | reference listed reference =>
    exact receiverErrors_eq_nil_iff.mpr ⟨_, _, listed, reference⟩
  | missing listed =>
    rw [receiverErrors, listed]
    rfl
  | other listed other =>
    rw [← isReferenceReceiver_iff] at other
    rw [receiverErrors, listed]
    exact if_neg other

/-- A signature has an error of its receiver or none. -/
theorem exists_hasReceiver (signature : Signature) : ∃ found, signature.HasReceiver found := by
  cases listed : signature.arguments with
  | nil => exact ⟨_, .missing listed⟩
  | cons first others =>
    by_cases reference : first.IsReference
    · exact ⟨_, .reference listed reference⟩
    · exact ⟨_, .other listed reference⟩

/-- What is told of an input is the error of its parameter, if it has one. -/
theorem problemsOf_describeInput {method : Name} {input : Input} {found : Option CompileError}
    (has : input.HasParameter method found) :
    problemsOf (describeInput method input) = found.toList := by
  cases has with
  | parameter declared =>
    rw [describeInput_eq_ok_iff.mpr declared]
    rfl
  | receiver attributes reference mutability self ascription => rfl
  | pattern nameless attributes colon declared =>
    rw [describeInput, describeTyped]
    · rfl
    · rintro mutability name rfl
      exact nameless name (.named mutability name)
  | type plain unsupported attributes colon =>
    obtain ⟨mutability, name⟩ := plain
    simp only [describeInput, describeTyped, unsupported, problemsOf, Option.toList_some]

/-- An input has an error of its parameter or none. -/
theorem exists_hasParameter (method : Name) (input : Input) :
    ∃ found, input.HasParameter method found := by
  cases input with
  | receiver attributes reference mutability self ascription =>
    exact ⟨_, .receiver attributes reference mutability self ascription⟩
  | typed attributes pattern colon declared =>
    by_cases named : ∃ name, pattern.IsPlain name
    case neg => exact ⟨_, .pattern (not_exists.mp named) attributes colon declared⟩
    obtain ⟨name, plain⟩ := named
    cases resolved : Mapping.resolveParameter declared with
    | error reason => exact ⟨_, .type plain resolved attributes colon⟩
    | ok found =>
      obtain ⟨mutability, name⟩ := plain
      exact ⟨_, .parameter (.parameter resolved)⟩

/-- The inputs behind the first one have their errors one by one. -/
theorem problemsOf_inputs {method : Name} {inputs : List Input}
    {found : List (Option CompileError)}
    (has : List.Forall₂ (Input.HasParameter method) inputs found) :
    (inputs.map (describeInput method)).flatMap problemsOf = found.reduceOption := by
  induction has with
  | nil => rfl
  | @cons input error inputs errors here behind hypothesis =>
    rw [List.map_cons, List.flatMap_cons, problemsOf_describeInput here, hypothesis]
    cases error <;> rfl

/-- A method with a query has the errors of its parts. -/
theorem problemsOf_describeQuery_eq_listed {method : Method} {first : Attribute}
    {others : List Attribute} {errors : QueryErrors} (has : method.HasErrors first others errors) :
    problemsOf (describeQuery method first others) = errors.listed := by
  have body : bodyErrors method = errors.body.toList := by
    rw [has.body, bodyErrors]
  rw [problemsOf_describeQuery, problemsOf_query has.query, problemsOf_parameters,
    receiverErrors_eq has.receiver, problemsOf_inputs has.inputs,
    signatureErrors_eq_featureErrors, body, ← has.features, ← has.duplicates, QueryErrors.listed]
  simp only [List.append_assoc]

/-- A query method has its list of errors. -/
theorem exists_queryErrors (method : Method) (first : Attribute) (others : List Attribute) :
    ∃ errors, method.HasErrors first others errors := by
  obtain ⟨query, hasQuery⟩ := exists_hasQuery method.signature.name first
  obtain ⟨receiver, hasReceiver⟩ := exists_hasReceiver method.signature
  obtain ⟨inputs, hasInputs⟩ :=
    exists_forall₂ fun input (_ : input ∈ method.signature.arguments.tail) =>
      exists_hasParameter method.signature.name input
  exact ⟨⟨_, _, _, query, receiver, inputs⟩, rfl, rfl, rfl, hasQuery, hasReceiver, hasInputs⟩

/-! The errors of items. -/

section

variable {interface : Name} {method : Method}

/-- The errors of a query method are those of its description. -/
theorem itemErrors_queried {first : Attribute} {others : List Attribute}
    (marks : method.attributes.filter isQuery = first :: others) :
    itemErrors interface (.method method) = problemsOf (describeQuery method first others) := by
  simp only [itemErrors, describeItem, describeMethod, marks, Option.toList_some,
    List.flatMap_singleton]

/-- The errors of a method without a query are those of what is provided. -/
theorem itemErrors_unmarked (unmarked : method.isQueried = false) :
    itemErrors interface (.method method) =
      (describeProvided interface method).toList.flatMap problemsOf := by
  rw [itemErrors, describeItem, describeMethod, isQueried_eq_false_iff.mp unmarked]

/-- A provided method has no errors. -/
theorem itemErrors_provided (unmarked : method.isQueried = false) (provided : method.IsProvided) :
    itemErrors interface (.method method) = [] := by
  rw [itemErrors, (describeItem_eq_none_iff unmarked).mpr provided]
  rfl

/-- A query method that code is generated for has no errors. -/
theorem itemErrors_generated (generated : method.IsGenerated) :
    itemErrors interface (.method method) = [] := by
  obtain ⟨descriptor, describes⟩ := exists_describedBy generated
  obtain ⟨mark, _, marks, _⟩ := generated.query
  rw [itemErrors_queried marks, (describeQuery_eq_ok_iff marks).mpr ⟨generated, describes⟩]
  rfl

end

/-- The errors of an item are the ones that are told of it. -/
theorem itemErrors_eq {interface : Name} {item : TraitItem} {errors : List CompileError}
    (has : item.HasErrors interface errors) : itemErrors interface item = errors := by
  cases has with
  | queried marks has =>
    rw [itemErrors_queried marks, problemsOf_describeQuery_eq_listed has]
  | provided unmarked provided => exact itemErrors_provided unmarked provided
  | missing unmarked bodiless =>
    rw [itemErrors_unmarked unmarked, describeProvided, bodiless]
    rfl
  | undispatchable unmarked bodied hindered =>
    rw [itemErrors_unmarked unmarked, describeProvided, bodied]
    simp only [hindered, Option.map_some, Option.toList_some, List.flatMap_singleton, problemsOf]
  | other code => rfl

/-- Every item of a trait has its list of errors. -/
theorem exists_hasErrors (interface : Name) (item : TraitItem) :
    ∃ errors, item.HasErrors interface errors := by
  cases item with
  | other code => exact ⟨_, .other code⟩
  | method method =>
    cases marks : method.attributes.filter isQuery with
    | cons first others =>
      obtain ⟨errors, has⟩ := exists_queryErrors method first others
      exact ⟨_, .queried marks has⟩
    | nil =>
      have unmarked := isQueried_eq_false_iff.mpr marks
      cases bodied : method.body with
      | none => exact ⟨_, .missing unmarked bodied⟩
      | some body =>
        cases hindered : dispatchObstacle? method.signature with
        | some obstacle => exact ⟨_, .undispatchable unmarked bodied hindered⟩
        | none =>
          have passed : describeItem interface (.method method) = none := by
            simp only [describeItem, describeMethod, marks, describeProvided, bodied, hindered,
              Option.map_none]
          exact ⟨_, .provided unmarked ((describeItem_eq_none_iff unmarked).mp passed)⟩

/-- An item has the errors that are told of it, and no others. -/
theorem hasErrors_iff {interface : Name} {item : TraitItem} {errors : List CompileError} :
    item.HasErrors interface errors ↔ itemErrors interface item = errors := by
  constructor
  · exact itemErrors_eq
  · rintro rfl
    obtain ⟨errors, has⟩ := exists_hasErrors interface item
    rwa [itemErrors_eq has]

/-- A valid method has no errors. -/
theorem itemErrors_of_isValid (interface : Name) {method : Method} (valid : method.IsValid) :
    itemErrors interface (.method method) = [] := by
  obtain ⟨unmarked, provided⟩ | generated := valid
  · exact itemErrors_provided unmarked provided
  · exact itemErrors_generated generated

/-! The errors of traits. -/

/-- A trait has the errors that are told of it, and no others. -/
theorem trait_hasErrors_iff {declaration : TraitDeclaration} {errors : List CompileError} :
    declaration.HasErrors errors ↔ problemsOf (describe declaration) = errors := by
  have each : TraitItem.HasErrors declaration.name =
      fun item errors => itemErrors declaration.name item = errors :=
    funext₂ fun _ _ => propext hasErrors_iff
  have listed (told : List (List CompileError)) :
      List.Forall₂ (TraitItem.HasErrors declaration.name) declaration.items told ↔
        declaration.items.map (itemErrors declaration.name) = told := by
    rw [each]
    exact List.forall₂_map_left_iff.symm.trans (by rw [List.forall₂_eq_eq_eq])
  simp only [TraitDeclaration.HasErrors, listed, exists_eq_left']
  rw [problemsOf_describe, traitErrors_eq_ownErrors, List.flatMap_def, eq_comm]

/-- A trait is refused with exactly the errors that are told of it. -/
theorem describe_eq_error_iff {declaration : TraitDeclaration} {errors : List CompileError} :
    describe declaration = .error errors ↔
      problemsOf (describe declaration) = errors ∧ errors ≠ [] := by
  have tells := tells_describe declaration
  cases described : describe declaration with
  | ok interface => exact iff_of_false nofun fun silent => silent.2 silent.1.symm
  | error others =>
    constructor
    · intro same
      obtain rfl := Except.error.inj same
      exact ⟨rfl, tells _ described⟩
    · rintro ⟨rfl, _⟩
      rfl

/-- A trait is described exactly if nothing is told of it. -/
theorem exists_describe_iff {declaration : TraitDeclaration} :
    (∃ interface, describe declaration = .ok interface) ↔
      problemsOf (describe declaration) = [] := by
  have tells := tells_describe declaration
  cases described : describe declaration with
  | ok interface => exact iff_of_true ⟨interface, rfl⟩ rfl
  | error errors => exact iff_of_false nofun (tells errors described)

/-- The errors of a marked trait are its own and then those of its items in their order; it is
described exactly when there are none. Every item has its errors by itself, so that those of items
in front of others are told in front of theirs, and a method with which nothing is wrong changes
none wherever it stands. -/
theorem errors_complete_ordered_local (declaration : TraitDeclaration) :
    let errorsOf (items : List TraitItem) :=
      problemsOf (describe { declaration with items := items })
    ((∃ interface, describe declaration = .ok interface) ↔ declaration.HasErrors []) ∧
    (∀ errors, describe declaration = .error errors ↔
      declaration.HasErrors errors ∧ errors ≠ []) ∧
    (∀ item : TraitItem, ∃! errors, item.HasErrors declaration.name errors) ∧
    (∀ front back, ∃ first second,
      errorsOf front = declaration.ownErrors ++ first ∧
      errorsOf back = declaration.ownErrors ++ second ∧
      errorsOf (front ++ back) = declaration.ownErrors ++ (first ++ second)) ∧
    ∀ method, method.IsValid → ∀ front back,
      errorsOf (front ++ .method method :: back) = errorsOf (front ++ back) := by
  intro errorsOf
  have told (items : List TraitItem) : errorsOf items =
      declaration.ownErrors ++ items.flatMap (itemErrors declaration.name) := by
    rw [← traitErrors_eq_ownErrors]
    exact problemsOf_describe { declaration with items := items }
  refine ⟨exists_describe_iff.trans trait_hasErrors_iff.symm, fun errors => ?_, fun item => ?_,
    fun front back => ⟨_, _, told front, told back, ?_⟩, fun method valid front back => ?_⟩
  · rw [trait_hasErrors_iff]
    exact describe_eq_error_iff
  · simp only [hasErrors_iff]
    exact existsUnique_eq'
  · rw [told, List.flatMap_append]
  · rw [told, told, List.flatMap_append, List.flatMap_cons,
      itemErrors_of_isValid declaration.name valid, List.nil_append, List.flatMap_append]

end Interface

namespace CompiledBatch.Sample

/-- `#[query("q")] #[query("q")] async fn all(least: u64, most: u64)` -/
def faulty : Method :=
  { Meaning.Sample.method with
    attributes := [Meaning.Sample.mark, Meaning.Sample.mark]
    signature := { Meaning.Sample.signature with
      asyncness := some .callSite
      inputs := [⟨.typed [] (.named none none (name "least") none) .callSite
          (.path [] (name "u64") .none), some .callSite⟩,
        ⟨.typed [] (.named none none (name "most") none) .callSite
          (.path [] (name "u64") .none), none⟩] } }

end CompiledBatch.Sample

namespace Interface

open CompiledBatch.Sample

/-- A method in which four things are wrong stands in front of one in which nothing is. -/
theorem errors_complete_ordered_local_of_sample :
    let told : List CompileError :=
      [.unsupportedTrait (name "Numbers") .callSite .unsafety,
        .unsupportedMethod (name "all") .callSite .asyncness,
        .duplicateQuery (name "all") .callSite .callSite,
        .badReceiver (name "all") .callSite,
        .unsupportedParameter (name "all") (name "most") "u64" .callSite .unknown]
    let unsafely := { Meaning.Sample.declaration with unsafety := some .callSite }
    describe { unsafely with items := [.method faulty] } = .error told ∧
      problemsOf (describe
        { unsafely with items := [.method faulty, .method Meaning.Sample.method] }) = told := by
  intro told unsafely
  have generated : Meaning.Sample.method.IsGenerated := by
    have described : describe Meaning.Sample.declaration = .ok _ := rfl
    exact (isWellFormed_of_describe described).generated _ List.mem_cons_self rfl
  obtain ⟨_, _, _, _, unchanged⟩ := errors_complete_ordered_local unsafely
  have alone : describe { unsafely with items := [.method faulty] } = .error told := rfl
  have unaltered := unchanged _ (.inr generated) [.method faulty] []
  exact ⟨alone, unaltered.trans (congrArg problemsOf alone)⟩

end Interface

end DataAccess
