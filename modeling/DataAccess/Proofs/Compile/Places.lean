/-
This file proves that errors point to the items that they are about. What is told of conditions
without parameters has no place of its own, and nothing else.
-/

import DataAccess.Compile.Places
import DataAccess.Proofs.Compile.UnsupportedTypes
import DataAccess.Proofs.Parse.Layout
import DataAccess.Proofs.Source.LexerPlaces

namespace DataAccess

variable {known : Position → Prop}

/-- Generics that stand for anything have a known place, unless they are conditions alone. -/
theorem Generics.position_of_placed {generics : Generics} (placed : generics.Placed known)
    (present : generics.isPresent = true) :
    (generics.IsConditional ∧ generics.position = .callSite) ∨ known generics.position := by
  obtain ⟨opening, parameters, closing, conditions⟩ := generics
  cases parameters with
  | nil => exact .inl ⟨⟨rfl, by simpa [isPresent] using present⟩, rfl⟩
  | cons first rest =>
    have begins : Code.Begins known (Code.mark "<" opening) :=
      Code.begins_mark (by decide) (placed.opening (List.cons_ne_nil _ _))
    exact .inr begins.append.append.startOf

namespace Parser

/-- A string literal between delimiters is read there, and what else is found is refused there. -/
theorem known_of_runWithin_stringLiteral {closing : Position} {inner : List Token}
    (ends : known closing) (all : Token.AllAt known inner) :
    (∀ literal, runWithin closing stringLiteral inner = .ok literal → known literal.position) ∧
      ∀ error, runWithin closing stringLiteral inner = .error error →
        known error.fault.position := by
  constructor
  · intro literal read
    obtain ⟨token, rfl, found⟩ := runWithin_stringLiteral_eq_ok_iff.mp read
    rw [Traces.position_of_ofToken? found]
    exact Token.position_of_allAt all
  · intro error failed
    cases inner with
    | nil =>
      cases failed
      exact ends
    | cons token rest =>
      rw [Token.allAt_cons] at all
      rw [runWithin_stringLiteral_cons] at failed
      split at failed
      next =>
        cases failed
        exact Token.position_of_allAt all.1
      next => exact nomatch failed
      next =>
        cases failed
        exact Token.position_of_allAt all.2

end Parser

namespace CompileError

/-- An error that points nowhere else is placed by its own place. -/
theorem placedAt_of_position {error : CompileError} (at_ : known error.position)
    (alone : error.previous? = none) : error.PlacedAt known :=
  ⟨at_, by simp [alone]⟩

end CompileError

namespace Interface

open CompileError

/-- The traits that a trait extends begin at a known place. -/
theorem supertraits_startOf {declaration : TraitDeclaration} (placed : declaration.Placed known)
    (bounded : ¬ declaration.supertraits.isEmpty = true) :
    known (Token.startOf declaration.supertraitCode.tokens) := by
  have bounds := placed.supertraits
  rw [TraitDeclaration.supertraitCode]
  cases listed : declaration.supertraits with
  | nil => exact absurd (by rw [listed]; rfl) bounded
  | cons first rest =>
    rw [listed] at bounds
    rw [List.map_cons]
    exact (Code.begins_separated (bounds first (List.mem_cons_self ..))).startOf

/-- What is told of generics at their place has a known place, unless they are mere conditions. -/
theorem placed_of_mem_generics {generics : Generics} (tell : Position → CompileError)
    (at_ : ∀ position, (tell position).position = position)
    (alone : ∀ position, (tell position).previous? = none) (placed : generics.Placed known)
    {error : CompileError}
    (told : error ∈ if generics.isPresent then [tell generics.position] else []) :
    (generics.IsConditional ∧ error = tell .callSite) ∨ error.PlacedAt known := by
  split at told
  next present =>
    cases List.mem_singleton.mp told
    cases Generics.position_of_placed placed present with
    | inl conditional => exact .inl ⟨conditional.1, congrArg tell conditional.2⟩
    | inr known => exact .inr (placedAt_of_position (at_ _ ▸ known) (alone _))
  next => exact nomatch told

/-- What is told of a trait as a whole points to a known place, unless it is about conditions
alone. -/
theorem placed_of_mem_traitErrors {declaration : TraitDeclaration} {error : CompileError}
    (placed : declaration.Placed known) (told : error ∈ traitErrors declaration) :
    declaration.Unplaced error ∨ error.PlacedAt known := by
  simp only [traitErrors, List.mem_append, Option.mem_toList, Option.map_eq_some_iff] at told
  obtain ((generic | ⟨position, found, rfl⟩) | ⟨position, found, rfl⟩) | bounded := told
  · obtain ⟨conditional, rfl⟩ | at_ := placed_of_mem_generics
      (.unsupportedTrait declaration.name · .generics) (fun _ => rfl) (fun _ => rfl)
      placed.generics generic
    · exact .inl (.trait conditional)
    · exact .inr at_
  · exact .inr (placedAt_of_position (placed.unsafety position found) rfl)
  · exact .inr (placedAt_of_position (placed.automatic position found) rfl)
  · split at bounded
    next => exact nomatch bounded
    next some =>
      cases List.mem_singleton.mp bounded
      exact .inr (placedAt_of_position (supertraits_startOf placed some) rfl)

/-- What is told of a signature points to a known place, unless it is about conditions alone. -/
theorem placed_of_mem_signatureErrors {signature : Signature} {error : CompileError}
    (placed : signature.Placed known) (told : error ∈ signatureErrors signature) :
    (signature.generics.IsConditional ∧
      error = .unsupportedMethod signature.name .callSite .generics) ∨ error.PlacedAt known := by
  simp only [signatureErrors, List.mem_append, Option.mem_toList, Option.map_eq_some_iff] at told
  obtain ((((⟨position, found, rfl⟩ | ⟨position, found, rfl⟩) | ⟨position, found, rfl⟩) |
    ⟨abi, found, rfl⟩) | generic) | ⟨variadic, found, rfl⟩ := told
  · exact .inr (placedAt_of_position (placed.constness position found) rfl)
  · exact .inr (placedAt_of_position (placed.asyncness position found) rfl)
  · exact .inr (placedAt_of_position (placed.unsafety position found) rfl)
  · exact .inr (placedAt_of_position (placed.abi abi found) rfl)
  · exact placed_of_mem_generics (.unsupportedMethod signature.name · .generics)
      (fun _ => rfl) (fun _ => rfl) placed.generics generic
  · exact .inr (placedAt_of_position (placed.variadic variadic found).startOf rfl)

/-- An input begins at a known place. -/
theorem begins_of_placed {input : Input} (placed : input.Placed known) :
    input.code.Begins known :=
  match input with
  | .receiver _ _ _ _ _ => placed
  | .typed _ _ _ _ => placed.1

/-- The arguments of a signature are placed if the signature is. -/
theorem arguments_placed {signature : Signature} (placed : signature.Placed known) :
    ∀ input ∈ signature.arguments, input.Placed known := by
  intro input member
  obtain ⟨separated, listed, rfl⟩ := List.mem_map.mp member
  exact placed.inputs separated listed

/-- What is told of the receiver points to a known place. -/
theorem placed_of_mem_receiverErrors {signature : Signature} {error : CompileError}
    (placed : signature.Placed known) (told : error ∈ receiverErrors signature) :
    error.PlacedAt known := by
  unfold receiverErrors at told
  split at told
  next =>
    cases List.mem_singleton.mp told
    exact placedAt_of_position placed.name rfl
  next first others listed =>
    split at told
    next => exact nomatch told
    next =>
      cases List.mem_singleton.mp told
      have received := arguments_placed placed first (listed ▸ List.mem_cons_self ..)
      exact placedAt_of_position (begins_of_placed received).startOf rfl

/-- What is told of a parameter points to a known place. -/
theorem placed_of_mem_describeInput {method : Name} {input : Input} {error : CompileError}
    (placed : input.Placed known) (told : error ∈ problemsOf (describeInput method input)) :
    error.PlacedAt known := by
  cases input with
  | receiver attributes reference mutability self ascription =>
    cases List.mem_singleton.mp told
    exact placedAt_of_position (begins_of_placed placed).startOf rfl
  | typed attributes pattern colon declared =>
    obtain ⟨_, pattern_begins, type_begins⟩ := placed
    simp only [describeInput, describeTyped] at told
    split at told
    next =>
      split at told
      next => contradiction
      next =>
        cases List.mem_singleton.mp told
        exact placedAt_of_position type_begins.startOf rfl
    next =>
      cases List.mem_singleton.mp told
      exact placedAt_of_position pattern_begins.startOf rfl

/-- The argument of a query stands among the tokens of its attribute, and so does what is wrong
with it. -/
theorem placed_of_stringArgument {mark : Attribute} (placed : mark.Placed known) :
    (∀ literal, mark.stringArgument = .ok literal → known literal.position) ∧
      ∀ error, mark.stringArgument = .error error → known error.fault.position := by
  unfold Attribute.stringArgument
  have content := placed.content
  cases held : mark.content with
  | bare => exact ⟨nofun, fun _ failed => Except.error.inj failed ▸ placed.first⟩
  | value equals code =>
    rw [held] at content
    exact ⟨nofun, fun _ failed => Except.error.inj failed ▸ content⟩
  | list delimiter opening closing inner =>
    rw [held] at content
    exact Parser.known_of_runWithin_stringLiteral content.1 content.2

/-- What is told of the query of a method points to a known place. -/
theorem placed_of_mem_query {method : Name} {first : Attribute} {others : List Attribute}
    {error : CompileError} (placed : ∀ mark ∈ first :: others, mark.Placed known)
    (told : error ∈ problemsOf (query method first others)) : error.PlacedAt known := by
  have front := placed first (List.mem_cons_self ..)
  have duplicated : ∀ error ∈ others.map fun other =>
      CompileError.duplicateQuery method other.pound first.pound, error.PlacedAt known := by
    intro error repeated
    obtain ⟨other, listed, rfl⟩ := List.mem_map.mp repeated
    refine ⟨(placed other (List.mem_cons_of_mem _ listed)).pound, ?_⟩
    rintro previous ⟨⟩
    exact front.pound
  rw [query] at told
  split at told
  next literal read =>
    split at told
    next =>
      obtain repeated | single := List.mem_append.mp told
      · exact duplicated error repeated
      · cases List.mem_singleton.mp single
        exact placedAt_of_position ((placed_of_stringArgument front).1 literal read) rfl
    next =>
      split at told
      next => contradiction
      next => exact duplicated error told
  next fault failed =>
    obtain repeated | single := List.mem_append.mp told
    · exact duplicated error repeated
    · cases List.mem_singleton.mp single
      exact placedAt_of_position ((placed_of_stringArgument front).2 fault failed) rfl

/-- The types that a signature names begin at known places. -/
theorem begins_of_mem_namedTypes {signature : Signature} {declared : DeclaredType}
    (placed : signature.Placed known) (named : declared ∈ namedTypes signature) :
    declared.code.Begins known := by
  obtain among | answered := List.mem_append.mp named
  · obtain ⟨input, listed, found⟩ := List.mem_filterMap.mp among
    have input_placed := arguments_placed placed input listed
    cases input with
    | receiver => exact nomatch found
    | typed =>
      cases found
      exact input_placed.2.2
  · obtain ⟨output, found, rfl⟩ := Option.map_eq_some_iff.mp (Option.mem_toList.mp answered)
    exact placed.output output found

/-- What keeps a method from being dispatched is found at a known place. -/
theorem placed_of_dispatchObstacle? {signature : Signature} {position : Position}
    {obstacle : DispatchObstacle} (placed : signature.Placed known)
    (found : dispatchObstacle? signature = some (position, obstacle)) : known position := by
  unfold dispatchObstacle? at found
  split at found
  next => exact nomatch found
  next =>
    split at found
    next parameter generic =>
      cases found
      obtain ⟨separated, listed, rfl⟩ := List.mem_map.mp (List.mem_of_find?_eq_some generic)
      exact (placed.generics.parameters separated listed).startOf
    next =>
      split at found
      next =>
        cases found
        exact placed.name
      next =>
        split at found
        next asynchronous =>
          cases found
          exact placed.asyncness _ asynchronous
        next =>
          obtain ⟨declared, named, hindered⟩ := List.exists_of_findSome?_eq_some found
          have begins := begins_of_mem_namedTypes placed named
          unfold typeObstacle? at hindered
          split at hindered
          next =>
            cases hindered
            exact begins.startOf
          next =>
            split at hindered
            next =>
              cases hindered
              exact begins.startOf
            next => exact nomatch hindered

/-- What is told of the parameters points to known places. -/
theorem placed_of_mem_parameters {signature : Signature} {error : CompileError}
    (placed : signature.Placed known) (told : error ∈ problemsOf (parameters signature)) :
    error.PlacedAt known := by
  rw [problemsOf_parameters, List.mem_append, List.flatMap_map, List.mem_flatMap] at told
  cases told with
  | inl received => exact placed_of_mem_receiverErrors placed received
  | inr described =>
    obtain ⟨input, listed, told⟩ := described
    have input_placed := arguments_placed placed input (List.mem_of_mem_tail listed)
    exact placed_of_mem_describeInput input_placed told

/-- What is told of a query method points to a known place, unless it is about conditions alone. -/
theorem placed_of_mem_describeQuery {method : Method} {first : Attribute}
    {others : List Attribute} {error : CompileError} (placed : method.Placed known)
    (marks : method.attributes.filter isQuery = first :: others)
    (told : error ∈ problemsOf (describeQuery method first others)) :
    (method.signature.generics.IsConditional ∧
      error = .unsupportedMethod method.signature.name .callSite .generics) ∨
        error.PlacedAt known := by
  simp only [problemsOf_describeQuery, List.mem_append] at told
  obtain ((signed | bodied) | queried) | parametric := told
  · exact placed_of_mem_signatureErrors placed.signature signed
  · simp only [bodyErrors, Option.mem_toList, Option.map_eq_some_iff] at bodied
    obtain ⟨body, found, rfl⟩ := bodied
    exact .inr (placedAt_of_position (placed.body body found) rfl)
  · refine .inr (placed_of_mem_query (fun mark listed => placed.attributes mark ?_) queried)
    exact List.mem_of_mem_filter (marks ▸ listed)
  · exact .inr (placed_of_mem_parameters placed.signature parametric)

/-- What is told of a method with a body points to a known place. -/
theorem placed_of_mem_describeProvided {interface : Name} {method : Method} {error : CompileError}
    (placed : method.Placed known)
    (told : error ∈ (describeProvided interface method).toList.flatMap problemsOf) :
    error.PlacedAt known := by
  unfold describeProvided at told
  split at told
  next =>
    cases List.mem_singleton.mp told
    exact placedAt_of_position placed.signature.name rfl
  next =>
    cases found : dispatchObstacle? method.signature with
    | none =>
      rw [found] at told
      exact nomatch told
    | some obstacle =>
      rw [found] at told
      cases List.mem_singleton.mp told
      exact placedAt_of_position (placed_of_dispatchObstacle? placed.signature found) rfl

/-- What is told of an item of a trait points to a known place, unless it is about conditions
alone. -/
theorem placed_of_mem_itemErrors {declaration : TraitDeclaration} {item : TraitItem}
    {error : CompileError} (member : item ∈ declaration.items) (placed : item.Placed known)
    (told : error ∈ itemErrors declaration.name item) :
    declaration.Unplaced error ∨ error.PlacedAt known := by
  cases item with
  | other code =>
    cases List.mem_singleton.mp told
    exact .inr (placedAt_of_position placed.startOf rfl)
  | method method =>
    rw [itemErrors, describeItem, describeMethod] at told
    cases marks : method.attributes.filter isQuery with
    | nil =>
      rw [marks] at told
      exact .inr (placed_of_mem_describeProvided placed told)
    | cons first others =>
      simp only [marks, Option.toList_some, List.flatMap_singleton] at told
      obtain ⟨conditional, rfl⟩ | at_ := placed_of_mem_describeQuery placed marks told
      · have queried : method ∈ declaration.queried := by
          refine mem_queried_iff.mpr ⟨member, ?_⟩
          simp [marks]
        exact .inl (.method queried conditional)
      · exact .inr at_

/-- What is told of a trait points to a known place, unless it is about conditions alone. -/
theorem placed_of_mem_describe {declaration : TraitDeclaration} {error : CompileError}
    (placed : declaration.Placed known) (told : error ∈ problemsOf (describe declaration)) :
    declaration.Unplaced error ∨ error.PlacedAt known := by
  rw [problemsOf_describe, List.mem_append, List.mem_flatMap] at told
  cases told with
  | inl alone => exact placed_of_mem_traitErrors placed alone
  | inr within =>
    obtain ⟨item, listed, told⟩ := within
    exact placed_of_mem_itemErrors listed (placed.items item listed) told

/-- Conditions are refused wherever they stand, and whatever else is refused. -/
theorem unplaced_mem_describe {declaration : TraitDeclaration} {error : CompileError}
    (unplaced : declaration.Unplaced error) : error ∈ problemsOf (describe declaration) := by
  have present {generics : Generics} (conditional : generics.IsConditional) :
      generics.isPresent = true := by
    simp [Generics.isPresent, conditional.2]
  have lost {generics : Generics} (conditional : generics.IsConditional) :
      generics.position = .callSite := by
    rw [Generics.position, Generics.code, conditional.1]
    rfl
  cases unplaced with
  | trait conditional =>
    simp [problemsOf_describe, traitErrors, present conditional, lost conditional]
  | @method method queried conditional =>
    refine mem_describe_of_mem_describeQuery queried fun _ _ => ?_
    simp [problemsOf_describeQuery, signatureErrors, present conditional, lost conditional]

end Interface

/-- An unsupported return type is told where the type or the name of the method stands. -/
theorem Method.placed_of_unsupportedReturn? {method : Method} {error : CompileError}
    (placed : method.signature.Placed known) (found : method.unsupportedReturn? = some error) :
    error.PlacedAt known := by
  unfold unsupportedReturn? at found
  split at found
  next => exact nomatch found
  next output declared =>
    split at found
    next => exact nomatch found
    next =>
      cases found
      exact CompileError.placedAt_of_position (placed.output output declared).startOf rfl

namespace CompiledBatch

/-- What is told of a trait that is compiled points to a known place, unless it is about conditions
alone. -/
theorem placed_of_mem_compileInterface {declaration : TraitDeclaration} {error : CompileError}
    (placed : declaration.Placed known)
    (told : error ∈ problemsOf (compileInterface declaration)) :
    declaration.Unplaced error ∨ error.PlacedAt known := by
  by_cases formed : declaration.IsWellFormed
  · rw [problemsOf_compileInterface_of_isWellFormed formed] at told
    obtain ⟨method, queried, found⟩ := List.mem_filterMap.mp told
    have method_placed := placed.items _ (Interface.mem_queried_iff.mp queried).1
    exact .inr (Method.placed_of_unsupportedReturn? method_placed.signature found)
  · rw [problemsOf_compileInterface_of_malformed formed] at told
    exact Interface.placed_of_mem_describe placed told

/-- What is told of conditions alone is told when the trait is compiled. -/
theorem unplaced_mem_compileInterface {declaration : TraitDeclaration} {error : CompileError}
    (unplaced : declaration.Unplaced error) :
    error ∈ problemsOf (compileInterface declaration) := by
  have told := Interface.unplaced_mem_describe unplaced
  by_cases formed : declaration.IsWellFormed
  · obtain ⟨interface, described⟩ := Interface.exists_describe_of_isWellFormed formed
    rw [described] at told
    exact nomatch told
  · rwa [problemsOf_compileInterface_of_malformed formed]

end CompiledBatch

namespace Declaration

/-- A marker that is taken was among the attributes. -/
theorem mem_of_takeMarker {marks others : List Attribute} {marker : Attribute}
    (took : takeMarker marks = some (marker, others)) : marker ∈ marks := by
  induction marks generalizing others with
  | nil => exact nomatch took
  | cons first rest hypothesis =>
    unfold takeMarker at took
    split at took
    next =>
      cases took
      exact List.mem_cons_self ..
    next =>
      obtain ⟨⟨_, remaining⟩, found, same⟩ := Option.map_eq_some_iff.mp took
      cases same
      exact List.mem_cons_of_mem _ (hypothesis found)

end Declaration

namespace Item

/-- A marked trait is placed as the item that carries the marker. -/
theorem placed_of_interface? {item : Item} {declaration : TraitDeclaration}
    (placed : item.Placed known) (marked : item.interface? = some declaration) :
    declaration.Placed known := by
  obtain ⟨found, rfl, same⟩ := CompiledBatch.exists_trait_of_interface? marked
  rw [← same]
  exact { (placed : found.Placed known) with }

/-- Only a marker that stands in the wrong place is told of where there is no marked trait. -/
theorem placed_of_unmarked {item : Item} {error : CompileError} (placed : item.Placed known)
    (unmarked : item.interface? = none) (told : error ∈ item.reported) :
    error.PlacedAt known := by
  unfold interface? at unmarked
  unfold reported CompiledBatch.compileItem at told
  split at unmarked
  next => exact nomatch unmarked
  next declared =>
    rw [declared] at told
    exact nomatch told
  next carrier marker declared =>
    rw [declared] at told
    cases List.mem_singleton.mp told
    unfold Declaration.ofItem at declared
    cases item with
    | verbatim => exact nomatch declared
    | trait found =>
      dsimp only at declared
      cases took : Declaration.takeMarker found.attributes <;> rw [took] at declared <;>
        exact nomatch declared
    | plain item =>
      dsimp only at declared
      cases took : Declaration.takeMarker item.attributes with
      | none =>
        rw [took] at declared
        exact nomatch declared
      | some taken =>
        rw [took] at declared
        cases declared
        have listed := Declaration.mem_of_takeMarker took
        exact CompileError.placedAt_of_position (placed _ listed).path rfl

/-- What is told of an item points to a known place, unless it is about conditions alone. -/
theorem placed_of_mem_reported {item : Item} {error : CompileError} (placed : item.Placed known)
    (told : error ∈ item.reported) : item.Unplaced error ∨ error.PlacedAt known := by
  cases marked : item.interface? with
  | none => exact .inr (placed_of_unmarked placed marked told)
  | some declaration =>
    rw [CompiledBatch.reported_interface marked] at told
    have declared := placed_of_interface? placed marked
    cases CompiledBatch.placed_of_mem_compileInterface declared told with
    | inl unplaced => exact .inl ⟨declaration, marked, unplaced⟩
    | inr at_ => exact .inr at_

/-- An item that is placed by its segment is told of inside that segment. -/
theorem toldIn {item : Item} {segment : List Token}
    (placed : ∀ known, Token.AllAt known segment → item.Placed known) : item.ToldIn segment where
  placed error told placeable :=
    (placed_of_mem_reported (placed _ (Token.allAt_placesOf segment)) told).resolve_left placeable
  unplaced error unplaced := by
    obtain ⟨declaration, marked, within⟩ := unplaced
    rw [CompiledBatch.reported_interface marked]
    refine ⟨CompiledBatch.unplaced_mem_compileInterface within, ?_⟩
    cases within <;> rfl

end Item

namespace CompiledBatch

/-- An error about the debug file points to the name of the file. -/
theorem mem_debugErrors {write : String → Option FileFailure} {options : BatchOptions}
    {error : CompileError} (told : error ∈ debugErrors write options) :
    ∃ literal failure, options.debugFile = some literal ∧
      error = .debugOutput literal.position failure := by
  unfold debugErrors at told
  split at told
  next => exact nomatch told
  next literal named =>
    obtain ⟨failure, _, rfl⟩ := Option.map_eq_some_iff.mp (Option.mem_toList.mp told)
    exact ⟨literal, failure, named, rfl⟩

/-- What is told of items points into their segments, and so to where all these stand. -/
theorem placed_of_mem_flatMap {items : List Item} {segments : List (List Token)}
    {error : CompileError} (told : List.Forall₂ Item.ToldIn items segments)
    (all : Token.AllAt known segments.flatten) (member : error ∈ items.flatMap Item.reported) :
    (∃ item ∈ items, item.Unplaced error) ∨ error.PlacedAt known := by
  induction told with
  | nil => exact nomatch member
  | @cons item segment rest segments first others hypothesis =>
    rw [List.flatten_cons, Token.allAt_append] at all
    rw [List.flatMap_cons, List.mem_append] at member
    cases member with
    | inl here =>
      by_cases unplaced : item.Unplaced error
      · exact .inl ⟨item, List.mem_cons_self .., unplaced⟩
      · obtain ⟨at_, before⟩ := first.placed error here unplaced
        exact .inr ⟨all.1 _ at_, fun previous found => all.1 _ (before previous found)⟩
    | inr later =>
      obtain ⟨found, listed, unplaced⟩ | at_ := hypothesis all.2 later
      · exact .inl ⟨found, List.mem_cons_of_mem _ listed, unplaced⟩
      · exact .inr at_

/-- Every batch that was read consists of a header and a segment for each item, so that the errors
of an item point into its own segment, and the error of a debug file to the name of the file. Errors
about conditions without parameters are told too, and they alone have the place of the call. -/
theorem errors_point_into_items (write : String → Option FileFailure) {tokens : List Token}
    {batch : Batch} (parsed : Parse.batch? tokens = .ok batch) :
    ∃ header segments, Parse.Layout tokens batch header segments ∧
      List.Forall₂ Item.ToldIn batch.items segments ∧
      (∀ error ∈ debugErrors write batch.options, ∃ literal failure,
        batch.options.debugFile = some literal ∧
          error = .debugOutput literal.position failure) ∧
      ∀ compiled, compile write batch = .ok compiled →
        compiled.errors =
          batch.items.flatMap Item.reported ++ debugErrors write batch.options ∧
        ∀ source, Lexer.tokens? source = some tokens → ∀ error ∈ compiled.errors,
          (error.position = .callSite ↔ ∃ item ∈ batch.items, item.Unplaced error) ∧
            ∀ previous ∈ error.previous?, previous ≠ .callSite := by
  obtain ⟨header, segments, layout⟩ := Parse.exists_layout parsed
  have told : List.Forall₂ Item.ToldIn batch.items segments := by
    have traces (known : Position → Prop) :
        Parser.Traces known (Parse.grammarFor tokens).item (Item.Placed known) :=
      @Parse.traces_item (Parse.grammar (8 * Token.count tokens + 63)) _ _ known
    exact (layout.items.traced traces).imp fun _ _ placed => Item.toldIn placed
  refine ⟨header, segments, layout, told, fun error => mem_debugErrors, ?_⟩
  rintro compiled answered
  have errors : compiled.errors =
      batch.items.flatMap Item.reported ++ debugErrors write batch.options := by
    rw [compile_eq_ok answered, ofBatch, compileItems_eq]
  refine ⟨errors, fun source lexed error member => ?_⟩
  obtain ⟨position, first⟩ := layout.first
  obtain ⟨consumed, rfl⟩ := List.head?_eq_some_iff.mp first
  have behind : Token.AllAt (· ≠ .callSite) (consumed ++ segments.flatten) := by
    rw [layout.whole, List.cons_append] at lexed
    exact Lexer.ne_callSite_behind_word (show "impl" ≠ "" by decide) lexed
  rw [Token.allAt_append] at behind
  have placed : (∃ item ∈ batch.items, item.Unplaced error) ∨ error.PlacedAt (· ≠ .callSite) := by
    rw [errors, List.mem_append] at member
    cases member with
    | inl among => exact placed_of_mem_flatMap told behind.2 among
    | inr last =>
      obtain ⟨literal, failure, named, rfl⟩ := mem_debugErrors last
      exact .inr (CompileError.placedAt_of_position (behind.1 _ (layout.debugFile _ named)) rfl)
  have lost (unplaced : ∃ item ∈ batch.items, item.Unplaced error) :
      error.position = .callSite ∧ error.previous? = none := by
    obtain ⟨_, _, _, _, within⟩ := unplaced
    cases within <;> exact ⟨rfl, rfl⟩
  constructor
  · exact ⟨fun nowhere => placed.resolve_right fun at_ => at_.1 nowhere,
      fun unplaced => (lost unplaced).1⟩
  · intro previous found
    cases placed with
    | inl unplaced =>
      rw [(lost unplaced).2] at found
      contradiction
    | inr at_ => exact at_.2 previous found

namespace Sample

/-- A trait with conditions and no parameters, in which a method lacks its query. -/
def conditionalSource : String :=
  "impl db;\n#[dao]\ntrait T where Self: Sized \x7b fn a(); \x7d"

/-- What the source of the sample reads as. -/
def conditionalTokens : List Token :=
  [.keyword "impl" ⟨1, 0⟩, .keyword "db" ⟨1, 5⟩, .mark ';' false ⟨1, 7⟩, .mark '#' false ⟨2, 0⟩,
    .group .bracket ⟨2, 1⟩ ⟨2, 5⟩ [.keyword "dao" ⟨2, 2⟩], .keyword "trait" ⟨3, 0⟩,
    .keyword "T" ⟨3, 6⟩, .keyword "where" ⟨3, 8⟩, .keyword "Self" ⟨3, 14⟩, .mark ':' false ⟨3, 18⟩,
    .keyword "Sized" ⟨3, 20⟩,
    .group .brace ⟨3, 26⟩ ⟨3, 36⟩
      [.keyword "fn" ⟨3, 28⟩, .keyword "a" ⟨3, 31⟩, .group .parenthesis ⟨3, 32⟩ ⟨3, 33⟩ [],
        .mark ';' false ⟨3, 34⟩]]

/-- The condition of the sample: what implements the trait has a size. -/
def conditions : WhereClause :=
  ⟨⟨3, 8⟩, [⟨.type [] (.path [] ⟨"Self", ⟨3, 14⟩⟩ .none) ⟨3, 18⟩
    [⟨.named none none [] [] ⟨"Sized", ⟨3, 20⟩⟩ .none, none⟩], none⟩]⟩

/-- A method of the sample without a query. -/
def lacking : Method :=
  ⟨[], ⟨none, none, none, none, ⟨3, 28⟩, ⟨"a", ⟨3, 31⟩⟩, .none, ⟨3, 32⟩, ⟨3, 33⟩, [], none, none⟩,
    none, ⟨3, 34⟩⟩

/-- The batch that the sample is read as. -/
def conditional : Batch :=
  ⟨⟨"db", ⟨1, 5⟩⟩, ⟨false, none⟩,
    [.trait ⟨[⟨⟨2, 0⟩, none, ⟨2, 1⟩, ⟨2, 5⟩, ⟨none, [], ⟨"dao", ⟨2, 2⟩⟩⟩, .bare⟩], [], none, none,
      ⟨3, 0⟩, ⟨"T", ⟨3, 6⟩⟩, ⟨.callSite, [], .callSite, some conditions⟩, .callSite, [], ⟨3, 26⟩,
      ⟨3, 36⟩, [.method lacking]⟩]⟩

end Sample

section

open CompiledBatch.Sample

/-- Of two errors of a trait, the one about its conditions has no place of its own. -/
theorem errors_point_into_items_of_sample :
    Lexer.tokens? conditionalSource = some conditionalTokens ∧
      Parse.batch? conditionalTokens = .ok conditional ∧
      ∃ compiled, compile (fun _ => none) conditional = .ok compiled ∧
        ∃ first second, compiled.errors = [first, second] ∧ first.position = .callSite ∧
          second.position ≠ .callSite := by
  have lexed : Lexer.tokens? conditionalSource = some conditionalTokens := rfl
  have parsed : Parse.batch? conditionalTokens = .ok conditional := rfl
  obtain ⟨_, _, _, _, _, answers⟩ := errors_point_into_items (fun _ => none) parsed
  have told : (ofBatch (fun _ => none) conditional).errors =
      [.unsupportedTrait ⟨"T", ⟨3, 6⟩⟩ .callSite .generics,
        .missingQuery ⟨"T", ⟨3, 6⟩⟩ ⟨"a", ⟨3, 31⟩⟩] := rfl
  obtain ⟨_, points⟩ := answers _ rfl
  refine ⟨lexed, parsed, _, rfl, _, _, told, rfl, fun nowhere => ?_⟩
  have member : .missingQuery ⟨"T", ⟨3, 6⟩⟩ ⟨"a", ⟨3, 31⟩⟩ ∈
      (ofBatch (fun _ => none) conditional).errors := by simp [told]
  obtain ⟨_, _, _, _, unplaced⟩ := (points _ lexed _ member).1.mp nowhere
  exact nomatch unplaced

end

end CompiledBatch

end DataAccess
