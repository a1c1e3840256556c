/-
This file proves that no result is lost where problems are collected. A failure without a problem
would pass for a success whose value is missing, but no part of the compiler fails like that.
-/

import DataAccess.Proofs.Compile.Extraction
import DataAccess.Proofs.Compile.Reported
import DataAccess.Proofs.Compile.WellFormed

namespace DataAccess

/-- What is collected from results: their values in order if all of them are values, and otherwise
all their problems in order. -/
structure Collects {Problem Value : Type} (results : List (Except (List Problem) Value))
    (answer : Except (List Problem) (List Value)) : Prop where
  values : ∀ values, answer = .ok values ↔ results = values.map .ok
  problems : ∀ problems, answer = .error problems ↔
    (∃ told, .error told ∈ results) ∧ problems = results.flatMap problemsOf

section

variable {Problem Value : Type}

/-- Without a failure all results are values. -/
theorem exists_failure_or_values (results : List (Except (List Problem) Value)) :
    (∃ told, .error told ∈ results) ∨ ∃ values : List Value, results = values.map .ok := by
  by_cases failing : ∃ told, .error told ∈ results
  · exact .inl failing
  · refine .inr (exists_eq_map_ok fun result member => ?_)
    cases result with
    | ok value => exact ⟨value, rfl⟩
    | error told => exact absurd ⟨told, member⟩ failing

/-- Results with a failure are collected as all problems there are. -/
theorem collectAll_eq_error {results : List (Except (List Problem) Value)}
    (tell : ∀ result ∈ results, Tells result) (failing : ∃ told, .error told ∈ results) :
    collectAll results = .error (results.flatMap problemsOf) := by
  obtain ⟨told, member⟩ := failing
  have present : results.flatMap problemsOf ≠ [] := by
    intro absent
    exact tell _ member told rfl (List.flatMap_eq_nil_iff.mp absent _ member)
  rw [collectAll, if_neg (mt List.isEmpty_iff.mp present)]

/-- Results that tell are collected. -/
theorem collects_collectAll {results : List (Except (List Problem) Value)}
    (tell : ∀ result ∈ results, Tells result) : Collects results (collectAll results) where
  values _ := collectAll_eq_ok_iff tell
  problems problems := by
    constructor
    · intro failed
      obtain failing | ⟨values, same⟩ := exists_failure_or_values results
      · rw [collectAll_eq_error tell failing] at failed
        exact ⟨failing, (Except.error.inj failed).symm⟩
      · rw [(collectAll_eq_ok_iff tell).mpr same] at failed
        exact nomatch failed
    · rintro ⟨failing, rfl⟩
      exact collectAll_eq_error tell failing

/-- A failure without a problem is collected as if it were not there. -/
theorem collectAll_of_silent (before after : List (Except (List Problem) Value)) :
    collectAll (before ++ .error [] :: after) = collectAll (before ++ after) := by
  simp only [collectAll, List.flatMap_append, List.flatMap_cons, List.filterMap_append, problemsOf,
    List.nil_append, List.filterMap_cons, Except.toOption]

end

namespace Interface

/-- The description of a method tells. -/
theorem tells_describeMethod {interface : Name} {method : Method}
    {result : Except (List CompileError) MethodDescriptor}
    (described : describeMethod interface method = some result) : Tells result :=
  @tells_describeItem interface (.method method) result described

/-- What is extracted from an interface tells. -/
theorem tells_extract (declaration : TraitDeclaration) : Tells (extract declaration).2 := by
  rw [extract_eq]
  exact tells_describe declaration

end Interface

/-- No part of the compiler fails without a problem. -/
structure PartsTell : Prop where
  query : ∀ method first others, Tells (Interface.query method first others)
  parameters : ∀ signature, Tells (Interface.parameters signature)
  method : ∀ interface declared, ∀ result ∈ Interface.describeMethod interface declared,
    Tells result
  interface : ∀ declaration, Tells (Interface.extract declaration).2
  implementation : ∀ interface, Tells (ImplementationUnit.ofInterface interface)

/-- Every part of the pass tells. -/
theorem partsTell : PartsTell where
  query := Interface.tells_query
  parameters := Interface.tells_parameters
  method _ _ _ described := Interface.tells_describeMethod described
  interface := Interface.tells_extract
  implementation := CompiledBatch.tells_ofInterface

/-- Whatever the compiler collects is collected whole: the parameters of a method behind its
receiver, the methods of a trait, and what they are compiled to. -/
structure PartsCollect : Prop where
  parameters : ∀ signature : Signature,
    let results := signature.arguments.tail.map (Interface.describeInput signature.name)
    Collects results (collectAll results)
  methods : ∀ declaration : TraitDeclaration,
    let results := declaration.items.filterMap (Interface.describeItem declaration.name)
    Collects results (collectAll results)
  compiled : ∀ interface : InterfaceDescriptor,
    let results := interface.methods.map fun method =>
      (CompiledMethod.ofDescriptor method).mapError ([·])
    Collects results (collectAll results)

/-- Every part of the pass collects. -/
theorem partsCollect : PartsCollect where
  parameters _ := collects_collectAll (Interface.tells_describeInputs _ _)
  methods _ := collects_collectAll (Interface.tells_describeItems _ _)
  compiled _ := collects_collectAll (tells_mapErrors CompiledMethod.ofDescriptor _)

/-- No result is lost. Results whose failures tell at least one problem are collected as their values
in order if there is no failure, and as all their problems in order otherwise, also by the loop that
goes on behind a failure. All parts of the compiler fail like that, and so does whatever they
collect. A failure that told nothing would be passed over. -/
theorem no_result_is_lost {Problem Value : Type} (results : List (Except (List Problem) Value)) :
    ((∀ result ∈ results, Tells result) → Collects results (collectAll results)) ∧
      (results.foldl Collected.add ⟨[], []⟩).result = collectAll results ∧
      PartsTell ∧ PartsCollect ∧
      ∀ before after : List (Except (List Problem) Value),
        collectAll (before ++ .error [] :: after) = collectAll (before ++ after) :=
  ⟨collects_collectAll, Collected.result_foldl_add results, partsTell, partsCollect,
    collectAll_of_silent⟩

/-- Two failures among values are told together, in their order. -/
theorem no_result_is_lost_of_two_failures :
    Collects [.ok 1, .error ["first"], .ok 2, .error ["second", "third"]]
        (collectAll [.ok 1, .error ["first"], .ok 2, .error ["second", "third"]]) ∧
      collectAll [.ok 1, .error ["first"], .ok 2, .error ["second", "third"]] =
        .error ["first", "second", "third"] := by
  have tell : ∀ result ∈ ([.ok 1, .error ["first"], .ok 2, .error ["second", "third"]] :
      List (Except (List String) Nat)), Tells result := by
    simp only [List.forall_mem_cons, List.not_mem_nil, false_implies, implies_true, and_true]
    exact ⟨tells_ok 1, tells_error (List.cons_ne_nil _ _), tells_ok 2,
      tells_error (List.cons_ne_nil _ _)⟩
  have collects := (no_result_is_lost _).1 tell
  exact ⟨collects, (collects.problems _).mpr ⟨⟨["first"], by simp⟩, rfl⟩⟩

end DataAccess
