/-
This file proves which traits can be described. Each check of a declaration finds nothing exactly
when the declaration has the form that the check is about, and so do all checks together.
-/

import DataAccess.Compile.WellFormed
import DataAccess.Proofs.Compile.Dispatch
import DataAccess.Proofs.Parse.Reads

namespace DataAccess

/-- Values are collected exactly when every result is one. -/
theorem collectAll_eq_ok_iff {Problem Value : Type} {results : List (Except (List Problem) Value)}
    {values : List Value} (tell : ∀ result ∈ results, Tells result) :
    collectAll results = .ok values ↔ results = values.map .ok := by
  constructor
  · exact collectAll_eq_ok tell
  · rintro rfl
    have silent : (values.map (Except.ok : Value → Except (List Problem) Value)).flatMap
        problemsOf = [] := by
      simp [List.flatMap_eq_nil_iff, problemsOf]
    have kept : (values.map (Except.ok : Value → Except (List Problem) Value)).filterMap
        Except.toOption = values := by
      rw [List.filterMap_map]
      exact List.filterMap_some
    rw [collectAll, silent, kept]
    rfl

/-- When every element of a list has a counterpart, there is a list of counterparts. -/
theorem exists_forall₂ {Element Result : Type} {relation : Element → Result → Prop}
    {elements : List Element} (each : ∀ element ∈ elements, ∃ result, relation element result) :
    ∃ results, List.Forall₂ relation elements results := by
  induction elements with
  | nil => exact ⟨[], .nil⟩
  | cons element rest hypothesis =>
    obtain ⟨result, here⟩ := each element List.mem_cons_self
    obtain ⟨results, behind⟩ := hypothesis fun other member =>
      each other (List.mem_cons_of_mem _ member)
    exact ⟨result :: results, .cons here behind⟩

/-- Results that are all values are the values of a list. -/
theorem exists_eq_map_ok {Problem Value : Type} {results : List (Except Problem Value)}
    (each : ∀ result ∈ results, ∃ value, result = .ok value) :
    ∃ values : List Value, results = values.map .ok := by
  obtain ⟨values, same⟩ := exists_forall₂ each
  refine ⟨values, ?_⟩
  rwa [← List.forall₂_eq_eq_eq, List.forall₂_map_right_iff]

/-- Generics are absent where there are neither parameters nor a where clause. -/
theorem Generics.isPresent_eq_false_iff {generics : Generics} :
    generics.isPresent = false ↔ generics.parameters = [] ∧ generics.whereClause = .none := by
  simp [Generics.isPresent]

/-- A literal is not blank where something is written in it. -/
theorem isBlank_eq_false_iff {literal : StringLiteral} :
    Text.isBlank literal.value = false ↔ literal.IsWritten := by
  simp [Text.isBlank, StringLiteral.IsWritten]

namespace Parser

/-- The first token is read as a literal or refused, and so is whatever stands behind it. -/
theorem runWithin_stringLiteral_cons (ending : Position) (token : Token) (rest : List Token) :
    runWithin ending stringLiteral (token :: rest) =
      match StringLiteral.ofToken? token, rest with
      | none, _ => .error ⟨⟨.expected [.stringLiteral] false, token.position⟩, []⟩
      | some literal, [] => .ok literal
      | some _, next :: _ => .error ⟨⟨.leftover none, next.position⟩, []⟩ := by
  rw [runWithin, stringLiteral_apply]
  dsimp only
  cases found : StringLiteral.ofToken? token with
  | none =>
    have others : ([.stringLiteral] : List Expectation).filter
        (fun choice => !Peek.expectation choice (token :: rest)) = [.stringLiteral] := by
      simp [Peek.expectation, Peek.stringLiteral, found]
    let refused (choices : List Expectation) : SyntaxError :=
      ⟨⟨.expected choices false, token.position⟩, []⟩
    exact congrArg (fun choices => (.error (refused choices) : Except _ StringLiteral)) others
  | some literal => cases rest <;> rfl

/-- A string literal is read to the end exactly from the token that it is. -/
theorem runWithin_stringLiteral_eq_ok_iff {ending : Position} {inner : List Token}
    {literal : StringLiteral} :
    runWithin ending stringLiteral inner = .ok literal ↔
      ∃ token, inner = [token] ∧ StringLiteral.ofToken? token = some literal := by
  cases inner with
  | nil => exact iff_of_false (fun read => nomatch read) (by simp)
  | cons token rest =>
    rw [runWithin_stringLiteral_cons]
    cases found : StringLiteral.ofToken? token with
    | none => exact iff_of_false (fun read => nomatch read) (by simp [found])
    | some other => cases rest <;> simp [found]

end Parser

/-- An attribute has a string as its argument where it holds that literal alone. -/
theorem Attribute.stringArgument_eq_ok_iff {mark : Attribute} {literal : StringLiteral} :
    mark.stringArgument = .ok literal ↔ mark.Holds literal := by
  rw [Attribute.stringArgument, Attribute.Holds]
  cases mark.content with
  | bare => simp
  | value equals code => simp
  | list delimiter opening closing inner =>
    dsimp only
    rw [Parser.runWithin_stringLiteral_eq_ok_iff]
    simp

namespace Interface

/-- A trait has no problem of its own exactly when it is plain. -/
theorem traitErrors_eq_nil_iff {declaration : TraitDeclaration} :
    traitErrors declaration = [] ↔ declaration.IsPlain := by
  have generic : (if declaration.generics.isPresent then
      [CompileError.unsupportedTrait declaration.name declaration.generics.position .generics]
      else []) = [] ↔ declaration.generics.isPresent = false := by
    cases declaration.generics.isPresent <;> simp
  have bounded : (if declaration.supertraits.isEmpty then [] else
      [CompileError.unsupportedTrait declaration.name
        (Token.startOf declaration.supertraitCode.tokens) .supertraits]) = [] ↔
      declaration.supertraits = [] := by
    cases declaration.supertraits <;> simp
  simp only [traitErrors, List.append_eq_nil_iff, Option.toList_eq_nil_iff,
    Option.map_eq_none_iff, generic, bounded, Generics.isPresent_eq_false_iff]
  constructor
  · rintro ⟨⟨⟨⟨parameters, conditions⟩, safe⟩, manual⟩, lone⟩
    exact ⟨parameters, conditions, safe, manual, lone⟩
  · rintro ⟨parameters, conditions, safe, manual, lone⟩
    exact ⟨⟨⟨⟨parameters, conditions⟩, safe⟩, manual⟩, lone⟩

/-- A signature has no problem exactly when it is plain. -/
theorem signatureErrors_eq_nil_iff {signature : Signature} :
    signatureErrors signature = [] ↔ signature.IsPlain := by
  have generic : (if signature.generics.isPresent then
      [CompileError.unsupportedMethod signature.name signature.generics.position .generics]
      else []) = [] ↔ signature.generics.isPresent = false := by
    cases signature.generics.isPresent <;> simp
  simp only [signatureErrors, List.append_eq_nil_iff, Option.toList_eq_nil_iff,
    Option.map_eq_none_iff, generic, Generics.isPresent_eq_false_iff]
  constructor
  · rintro ⟨⟨⟨⟨⟨runtime, synchronous⟩, safe⟩, native⟩, parameters, conditions⟩, fixed⟩
    exact ⟨runtime, synchronous, safe, native, parameters, conditions, fixed⟩
  · rintro ⟨runtime, synchronous, safe, native, parameters, conditions, fixed⟩
    exact ⟨⟨⟨⟨⟨runtime, synchronous⟩, safe⟩, native⟩, parameters, conditions⟩, fixed⟩

/-- A type is seen as the implementing type where it is that type. -/
theorem isSelfType_iff {declared : DeclaredType} :
    isSelfType declared = true ↔ declared.IsSelf := by
  constructor
  · intro itself
    unfold isSelfType at itself
    split at itself
    next last =>
      obtain ⟨text, position⟩ := last
      obtain rfl : text = "Self" := by simpa using itself
      exact .word position
    next => exact nomatch itself
  · rintro ⟨position⟩
    rfl

/-- A bound is seen as `Sized` where it is that bound. -/
theorem isSizedBound_iff {bound : Bound} : isSizedBound bound = true ↔ bound.IsSized := by
  constructor
  · intro sized
    unfold isSizedBound at sized
    split at sized
    next enclosure binder qualifier last arguments =>
      obtain ⟨text, position⟩ := last
      obtain rfl : text = "Sized" := by simpa using sized
      exact .named enclosure binder qualifier position arguments
    next => exact nomatch sized
  · rintro ⟨enclosure, binder, qualifier, position, arguments⟩
    rfl

/-- A predicate requires the implementing type to be sized where one of its bounds says so. -/
theorem requiresSizedIn_iff {predicate : Predicate} :
    requiresSizedIn predicate = true ↔ ∃ binder bounded colon bounds bound,
      predicate = .type binder bounded colon bounds ∧ bounded.IsSelf ∧
        bound ∈ Separated.entries bounds ∧ bound.IsSized := by
  cases predicate with
  | lifetime code => simp [requiresSizedIn]
  | type binder bounded colon bounds =>
    simp only [requiresSizedIn, Bool.and_eq_true, isSelfType_iff, List.any_eq_true,
      isSizedBound_iff, Separated.entries, List.mem_map]
    grind

/-- A method is kept off objects exactly by the condition that its type has a size. -/
theorem requiresSized_iff {signature : Signature} :
    requiresSized signature = true ↔ signature.IsKeptOff := by
  rw [requiresSized, Signature.IsKeptOff]
  cases signature.generics.whereClause with
  | none => simp
  | some clause =>
    simp only [List.any_eq_true, requiresSizedIn_iff, Separated.entries, List.mem_map,
      Option.some.injEq]
    grind

/-- A type is no obstacle exactly when it does not depend on the implementation. -/
theorem typeObstacle?_eq_none_iff {declared : DeclaredType} :
    typeObstacle? declared = none ↔
      ∀ word ∈ implementerWords, Token.anyMentions word declared.tokens = false := by
  rw [typeObstacle?, implementerWords]
  cases hidden : Token.anyMentions "impl" declared.tokens <;>
    cases itself : Token.anyMentions "Self" declared.tokens <;> simp [hidden, itself]

/-- Nothing hinders the use as an object exactly when the method is kept off it or can be called. -/
theorem dispatchObstacle?_eq_none_iff {signature : Signature} :
    dispatchObstacle? signature = none ↔
      signature.IsKeptOff ∨ (Dispatchable signature ∧ IsClosed signature) := by
  cases sized : requiresSized signature with
  | true =>
    rw [dispatchObstacle?, sized]
    exact iff_of_true rfl (.inl (requiresSized_iff.mp sized))
  | false =>
    have unbounded : ¬ signature.IsKeptOff := by
      rw [← requiresSized_iff, sized]
      exact Bool.false_ne_true
    constructor
    · intro clear
      exact .inr (dispatchable_of_dispatchObstacle? sized clear)
    · rintro (kept | ⟨dispatchable, closed⟩)
      · exact absurd kept unbounded
      · have generic : (Separated.entries signature.generics.parameters).find?
            (fun parameter => !parameter.isLifetime) = none := by
          simpa using dispatchable.generic
        have free : (namedTypes signature).findSome? typeObstacle? = none :=
          List.findSome?_eq_none_iff.mpr fun declared named =>
            typeObstacle?_eq_none_iff.mpr (closed declared named)
        simp [dispatchObstacle?, sized, generic, dispatchable.received, dispatchable.synchronous,
          free]

/-- A query can be read exactly from the only query marker, which holds it. -/
theorem query_eq_ok_iff {method : Name} {first : Attribute} {others : List Attribute}
    {literal : StringLiteral} :
    query method first others = .ok literal ↔
      others = [] ∧ first.Holds literal ∧ literal.IsWritten := by
  rw [query, ← Attribute.stringArgument_eq_ok_iff, ← isBlank_eq_false_iff]
  cases first.stringArgument with
  | error error => simp
  | ok found =>
    cases blank : Text.isBlank found.value with
    | true => grind
    | false => cases others <;> grind

/-- A receiver is seen as a reference where it is one. -/
theorem isReferenceReceiver_iff {input : Input} :
    isReferenceReceiver input = true ↔ input.IsReference := by
  constructor
  · intro referring
    cases input with
    | typed => exact nomatch referring
    | receiver attributes reference mutability self ascription =>
      cases reference with
      | none => exact nomatch referring
      | some reference =>
        cases ascription with
        | some ascription => exact nomatch referring
        | none => exact .receiver attributes reference.1 reference.2 mutability self
  · rintro ⟨⟩
    rfl

/-- An input is described exactly as the parameter that it declares. -/
theorem describeInput_eq_ok_iff {method : Name} {input : Input}
    {descriptor : ParameterDescriptor} :
    describeInput method input = .ok descriptor ↔ input.Declares descriptor := by
  constructor
  · intro described
    obtain ⟨attributes, mutability, colon, declared, value, rfl, bound⟩ :=
      describeInput_eq_ok described
    exact .parameter bound
  · rintro ⟨bound⟩
    simp only [describeInput, describeTyped, bound]

/-- There is no error of the receiver where the first argument is a reference to the implementer. -/
theorem receiverErrors_eq_nil_iff {signature : Signature} :
    receiverErrors signature = [] ↔
      ∃ receiver others, signature.arguments = receiver :: others ∧ receiver.IsReference := by
  rw [receiverErrors]
  cases signature.arguments with
  | nil => simp
  | cons first rest => simp [isReferenceReceiver_iff]

/-- Parameters are described exactly when they stand behind a receiver by reference and each of them
can be. -/
theorem parameters_eq_ok_iff {signature : Signature} {found : List ParameterDescriptor} :
    parameters signature = .ok found ↔
      (∃ receiver others, signature.arguments = receiver :: others ∧ receiver.IsReference) ∧
        List.Forall₂ Input.Declares signature.arguments.tail found := by
  have declares : List.Forall₂ Input.Declares signature.arguments.tail found ↔
      signature.arguments.tail.map (describeInput signature.name) = found.map .ok := by
    rw [← List.forall₂_eq_eq_eq, List.forall₂_map_left_iff, List.forall₂_map_right_iff]
    simp only [describeInput_eq_ok_iff]
  rw [← receiverErrors_eq_nil_iff, declares]
  constructor
  · exact parameters_eq_ok
  · rintro ⟨received, described⟩
    rw [parameters, received, (collectAll_eq_ok_iff (tells_describeInputs _ _)).mpr described]

/-- There is no error of the body where the method has none. -/
theorem bodyErrors_eq_nil_iff {method : Method} : bodyErrors method = [] ↔ method.body = none := by
  simp [bodyErrors]

/-- A method with a query is described exactly when an implementation can be generated for it. -/
theorem describeQuery_eq_ok_iff {method : Method} {first : Attribute} {others : List Attribute}
    {descriptor : MethodDescriptor} (marks : method.attributes.filter isQuery = first :: others) :
    describeQuery method first others = .ok descriptor ↔
      method.IsGenerated ∧ method.DescribedBy descriptor := by
  constructor
  · intro described
    obtain ⟨early, read, parametric, signature⟩ := describeQuery_eq_ok described
    obtain ⟨plain, bodiless⟩ := List.append_eq_nil_iff.mp early
    obtain ⟨rfl, holds, written⟩ := query_eq_ok_iff.mp read
    obtain ⟨⟨receiver, rest, listed, reference⟩, declares⟩ := parameters_eq_ok_iff.mp parametric
    have named : descriptor.name = method.signature.name := by
      rw [describeQuery] at described
      split at described
      next => rw [← Except.ok.inj described]
      next => contradiction
    constructor
    · refine ⟨⟨first, descriptor.query, marks, holds, written⟩, bodyErrors_eq_nil_iff.mp bodiless,
        signatureErrors_eq_nil_iff.mp plain, receiver, rest, listed, reference, ?_⟩
      rw [listed, List.tail_cons] at declares
      intro input member
      obtain ⟨index, inside, rfl⟩ := List.mem_iff_getElem.mp member
      exact ⟨_, declares.get inside (declares.length_eq ▸ inside)⟩
    · exact ⟨named, signature, ⟨first, marks, holds⟩, declares⟩
  · rintro ⟨generated, named, signature, ⟨mark, single, holds⟩, declares⟩
    obtain ⟨sole, literal, same, held, written⟩ := generated.query
    rw [marks] at single same
    obtain ⟨rfl, rfl⟩ := List.cons.inj single
    obtain ⟨rfl, _⟩ := List.cons.inj same
    have unique : literal = descriptor.query := by
      rw [← Attribute.stringArgument_eq_ok_iff] at held holds
      exact Except.ok.inj (held.symm.trans holds)
    subst unique
    obtain ⟨receiver, rest, listed, reference, _⟩ := generated.inputs
    have clear : signatureErrors method.signature ++ bodyErrors method = [] := by
      rw [signatureErrors_eq_nil_iff.mpr generated.plain,
        bodyErrors_eq_nil_iff.mpr generated.bodiless]
      rfl
    have parametric := parameters_eq_ok_iff.mpr ⟨⟨receiver, rest, listed, reference⟩, declares⟩
    rw [describeQuery]
    simp only [clear, query_eq_ok_iff.mpr ⟨rfl, holds, written⟩, parametric]
    rw [← named, ← signature]

/-- A method has no query where none of its attributes is one. -/
theorem isQueried_eq_false_iff {method : Method} :
    method.isQueried = false ↔ method.attributes.filter isQuery = [] := by
  rw [Method.isQueried, List.any_eq_false, List.filter_eq_nil_iff]

/-- A method without a query is passed over exactly when it is provided. -/
theorem describeItem_eq_none_iff {interface : Name} {method : Method}
    (unmarked : method.isQueried = false) :
    describeItem interface (.method method) = none ↔ method.IsProvided := by
  rw [isQueried_eq_false_iff] at unmarked
  rw [describeItem, describeMethod, unmarked]
  cases bodied : method.body with
  | none =>
    refine iff_of_false (fun provided => ?_) (fun provided => ?_)
    · rw [describeProvided, bodied] at provided
      contradiction
    · simpa [bodied] using provided.bodied
  | some body =>
    simp only [describeProvided, bodied, Option.map_eq_none_iff, dispatchObstacle?_eq_none_iff]
    exact ⟨fun callable => ⟨by rw [bodied]; rfl, callable⟩, fun provided => provided.callable⟩

/-- Without a query there is nothing to describe, and something with one exactly if an
implementation can be generated. -/
theorem describeItem_eq_ok_iff {interface : Name} {method : Method}
    {descriptor : MethodDescriptor} :
    describeItem interface (.method method) = some (.ok descriptor) ↔
      method.isQueried = true ∧ method.IsGenerated ∧ method.DescribedBy descriptor := by
  cases queried : method.isQueried with
  | false =>
    refine iff_of_false (fun described => ?_) (fun described => nomatch described.1)
    obtain ⟨_, mark, same, marks, _⟩ := describeItem_eq_ok described
    obtain rfl := TraitItem.method.inj same
    rw [isQueried_eq_false_iff.mp queried] at marks
    exact nomatch marks
  | true =>
    cases marks : method.attributes.filter isQuery with
    | nil =>
      rw [isQueried_eq_false_iff.mpr marks] at queried
      exact nomatch queried
    | cons first others =>
      have described : describeItem interface (.method method) =
          some (describeQuery method first others) := by
        rw [describeItem, describeMethod, marks]
      rw [described, Option.some.injEq, describeQuery_eq_ok_iff marks]
      exact ⟨fun found => ⟨rfl, found⟩, fun found => found.2⟩

/-- A method that can be generated has a description. -/
theorem exists_describedBy {method : Method} (generated : method.IsGenerated) :
    ∃ descriptor, method.DescribedBy descriptor := by
  obtain ⟨mark, literal, marks, holds, _⟩ := generated.query
  obtain ⟨receiver, others, listed, _, each⟩ := generated.inputs
  obtain ⟨found, declares⟩ := exists_forall₂ each
  exact ⟨⟨method.signature.name, method.signature, found, literal⟩, rfl, rfl,
    ⟨mark, marks, holds⟩, by rw [listed]; exact declares⟩

/-- The described items of a trait are its methods with a query, in their order. -/
theorem forall₂_queried {interface : Name} {items : List TraitItem}
    {methods : List MethodDescriptor}
    (described : items.filterMap (describeItem interface) = methods.map .ok) :
    List.Forall₂ Method.DescribedBy (items.filterMap TraitItem.queried?) methods := by
  -- An item is described exactly when it has a query.
  refine forall₂_described (fun item found => ?_) (fun item descriptor found => ?_) described
  · obtain ⟨method, body, rfl, unmarked, _⟩ := describeItem_eq_none found
    simp [TraitItem.queried?, isQueried_eq_false_iff.mpr unmarked]
  · obtain ⟨method, _, rfl, _⟩ := describeItem_eq_ok found
    obtain ⟨queried, _, here⟩ := describeItem_eq_ok_iff.mp found
    have listed : TraitItem.queried? (.method method) = some method := by
      simp [TraitItem.queried?, queried]
    exact ⟨method, listed, here⟩

/-- All items of a trait that could be described are well-formed. -/
theorem isWellFormed_of_describe {declaration : TraitDeclaration}
    {interface : InterfaceDescriptor} (described : describe declaration = .ok interface) :
    declaration.IsWellFormed := by
  obtain ⟨clear, _⟩ := describe_eq_ok described
  refine ⟨traitErrors_eq_nil_iff.mp clear, fun item => exists_method_of_describe described, ?_, ?_⟩
  · intro method member unmarked
    rw [← @describeItem_eq_none_iff declaration.name _ unmarked]
    cases found : describeItem declaration.name (.method method) with
    | none => rfl
    | some result =>
      obtain ⟨descriptor, _, rfl⟩ := exists_descriptor_of_describeItem described member found
      rw [(describeItem_eq_ok_iff.mp found).1] at unmarked
      exact nomatch unmarked
  · intro method member queried
    cases found : describeItem declaration.name (.method method) with
    | none =>
      obtain ⟨_, _, same, unmarked, _⟩ := describeItem_eq_none found
      obtain rfl := TraitItem.method.inj same
      rw [isQueried_eq_false_iff.mpr unmarked] at queried
      exact nomatch queried
    | some result =>
      obtain ⟨descriptor, _, rfl⟩ := exists_descriptor_of_describeItem described member found
      exact (describeItem_eq_ok_iff.mp found).2.1

/-- Every result for an item of a well-formed trait is a description. -/
theorem exists_descriptor_of_isWellFormed {declaration : TraitDeclaration}
    (formed : declaration.IsWellFormed) {result : Except (List CompileError) MethodDescriptor}
    (member : result ∈ declaration.items.filterMap (describeItem declaration.name)) :
    ∃ descriptor, result = .ok descriptor := by
  obtain ⟨item, listed, found⟩ := List.mem_filterMap.mp member
  obtain ⟨method, rfl⟩ := formed.methods item listed
  cases queried : method.isQueried with
  | false =>
    rw [(describeItem_eq_none_iff queried).mpr (formed.provided method listed queried)] at found
    exact nomatch found
  | true =>
    have generated := formed.generated method listed queried
    obtain ⟨descriptor, describes⟩ := exists_describedBy generated
    rw [describeItem_eq_ok_iff.mpr ⟨queried, generated, describes⟩] at found
    exact ⟨descriptor, (Option.some.inj found).symm⟩

/-- A well-formed trait can be described. -/
theorem exists_describe_of_isWellFormed {declaration : TraitDeclaration}
    (formed : declaration.IsWellFormed) : ∃ interface, describe declaration = .ok interface := by
  obtain ⟨methods, items⟩ :=
    exists_eq_map_ok fun _ member => exists_descriptor_of_isWellFormed formed member
  have collected := (collectAll_eq_ok_iff (tells_describeItems _ _)).mpr items
  refine ⟨⟨declaration.name, declaration.visibility, methods⟩, ?_⟩
  simp only [describe, collected, traitErrors_eq_nil_iff.mpr formed.plain, List.isEmpty_nil,
    if_true]

/-- A description tells of every method with a query what its trait says of it. -/
theorem describedBy_of_describe {declaration : TraitDeclaration} {interface : InterfaceDescriptor}
    (described : describe declaration = .ok interface) : declaration.DescribedBy interface := by
  obtain ⟨_, name, visibility, items⟩ := describe_eq_ok described
  exact ⟨name, visibility, forall₂_queried items⟩

/-- Exactly the well-formed traits can be described, and a description tells of every method with a
query what its trait says of it. -/
theorem described_exactly (declaration : TraitDeclaration) :
    ((∃ interface, describe declaration = .ok interface) ↔ declaration.IsWellFormed) ∧
      ∀ interface, describe declaration = .ok interface → declaration.DescribedBy interface := by
  refine ⟨⟨?_, exists_describe_of_isWellFormed⟩, fun _ => describedBy_of_describe⟩
  rintro ⟨interface, described⟩
  exact isWellFormed_of_describe described

end Interface

namespace CompiledBatch

/-- A method of an implementation was compiled from a method of its trait that an implementation can
be generated for. -/
theorem exists_generated_of_mem {declaration : TraitDeclaration} {unit : ImplementationUnit}
    {method : CompiledMethod} (compiled : compileInterface declaration = .ok unit)
    (listed : method ∈ unit.methods) :
    ∃ declared descriptor, TraitItem.method declared ∈ declaration.items ∧
      declared.IsGenerated ∧ declared.DescribedBy descriptor ∧
      CompiledMethod.ofDescriptor descriptor = .ok method := by
  obtain ⟨interface, described, implemented⟩ := exists_described compiled
  obtain ⟨descriptor, among, same⟩ := exists_descriptor_of_mem implemented listed
  obtain ⟨declared, _, _, item, marks, query⟩ := Interface.exists_method_of_mem described among
  obtain ⟨generated, parts⟩ := (Interface.describeQuery_eq_ok_iff marks).mp query
  exact ⟨declared, descriptor, item, generated, parts, same⟩

end CompiledBatch

end DataAccess
