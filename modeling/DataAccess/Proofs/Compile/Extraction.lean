/-
This file proves that extraction leaves a trait without its queries and changes nothing else, and
that it describes the trait, wherever it fails. All items are reached because the collector goes on
behind every failure.
-/

import DataAccess.Compile.Extraction

namespace DataAccess

namespace Collected

variable {Problem Value : Type}

/-- What has been collected at the end of a run. -/
theorem foldl_add (answers : List (Except (List Problem) Value))
    (collected : Collected Problem Value) :
    answers.foldl add collected =
      ⟨collected.values ++ answers.filterMap Except.toOption,
        collected.problems ++ answers.flatMap problemsOf⟩ := by
  induction answers generalizing collected with
  | nil => simp
  | cons answer others hypothesis =>
    rw [List.foldl_cons, hypothesis]
    cases answer <;> simp [add, List.filterMap_cons, Except.toOption, problemsOf]

/-- Answers added one by one give what they give when they are collected at once. -/
theorem result_foldl_add (answers : List (Except (List Problem) Value)) :
    (answers.foldl add ⟨[], []⟩).result = collectAll answers := by
  rw [foldl_add]
  rfl

end Collected

namespace Interface

/-- The attributes that are not taken are those that do not end in the word. -/
theorem takeMethod_eq (interface : Name) (method : Method) :
    takeMethod interface method = (describeMethod interface method, cleanedMethod method) := by
  rw [takeMethod, List.partition_eq_filter_filter, describeMethod]
  cases method.attributes.filter isQuery <;> rfl

/-- The pass over an item describes it and leaves it without its queries. -/
theorem takeItem_eq (interface : Name) (item : TraitItem) :
    takeItem interface item = (describeItem interface item, cleanedItem item) := by
  cases item with
  | method declared =>
    rw [takeItem, takeMethod_eq]
    rfl
  | other code => rfl

namespace Pass

/-- Asking once cleans the items up to the one that answers, and leaves those ahead as they are. -/
theorem nextFrom_cases (interface : Name) (reached ahead : List TraitItem) :
    (ahead.filterMap (describeItem interface) = [] ∧
      nextFrom interface reached ahead = (none, ⟨reached ++ ahead.map cleanedItem, []⟩)) ∨
    ∃ front behind description, ahead = front ++ behind ∧
      ahead.filterMap (describeItem interface) =
        description :: behind.filterMap (describeItem interface) ∧
      nextFrom interface reached ahead =
        (some description, ⟨reached ++ front.map cleanedItem, behind⟩) := by
  induction ahead generalizing reached with
  | nil => exact .inl ⟨rfl, by simp [nextFrom]⟩
  | cons item ahead hypothesis =>
    rw [nextFrom, takeItem_eq]
    cases answered : describeItem interface item with
    | some description =>
      exact .inr ⟨[item], ahead, description, rfl, List.filterMap_cons_some answered, rfl⟩
    | none =>
      rw [List.filterMap_cons_none answered]
      obtain ⟨silent, asked⟩ | ⟨front, behind, description, rfl, answers, asked⟩ :=
        hypothesis (reached ++ [cleanedItem item])
      · exact .inl ⟨silent, by simpa using asked⟩
      · exact .inr ⟨item :: front, behind, description, rfl, answers, by simpa using asked⟩

end Pass

/-- A collector that asks to the end has all answers in order and leaves every item clean. -/
theorem collectFrom_eq (interface : Name) (collected : Collected CompileError MethodDescriptor)
    (pass : Pass) :
    collectFrom interface collected pass =
      ((pass.ahead.filterMap (describeItem interface)).foldl Collected.add collected,
        ⟨pass.reached ++ pass.ahead.map cleanedItem, []⟩) := by
  -- The induction is on the questions asked; each of them cleans the items that it passes.
  fun_induction collectFrom interface collected pass with
  | case1 collected pass left asked =>
    obtain ⟨silent, ends⟩ | ⟨_, _, _, _, _, goesOn⟩ :=
      Pass.nextFrom_cases interface pass.reached pass.ahead
    · rw [silent, List.foldl_nil, (Prod.mk.inj (asked.symm.trans ends)).2]
    · exact nomatch asked.symm.trans goesOn
  | case2 collected pass description left asked hypothesis =>
    obtain ⟨_, ends⟩ | ⟨front, behind, first, split, answers, goesOn⟩ :=
      Pass.nextFrom_cases interface pass.reached pass.ahead
    · exact nomatch asked.symm.trans ends
    · obtain ⟨same, rfl⟩ := Prod.mk.inj (asked.symm.trans goesOn)
      obtain rfl := Option.some.inj same
      rw [hypothesis, answers, split]
      simp

/-- Extraction answers the cleaned trait with its description. -/
theorem extract_eq (declaration : TraitDeclaration) :
    extract declaration = (cleaned declaration, describe declaration) := by
  rw [extract, collectFrom_eq]
  simp only [Pass.items, List.nil_append, List.append_nil, Collected.result_foldl_add]
  rfl

/-- A cleaned item differs from the item in the query markers alone. -/
theorem losesQueries_cleanedItem (item : TraitItem) : item.LosesQueries (cleanedItem item) := by
  cases item with
  | other code => exact .other code
  | method declared =>
    have unmarked : (fun mark : Attribute => !isQuery mark) =
        fun mark => decide (mark.path.last.text ≠ "query") := by
      funext mark
      rw [isQuery, Attribute.isMarker, queryMarker, beq_eq_decide, decide_not]
    rw [cleanedItem, cleanedMethod, unmarked]
    exact .method declared

/-- A cleaned trait differs from the trait in the query markers of its methods alone. -/
theorem losesQueries_cleaned (declaration : TraitDeclaration) :
    declaration.LosesQueries (cleaned declaration) where
  frame := rfl
  items := by
    rw [cleaned, List.forall₂_map_right_iff, List.forall₂_same]
    exact fun item _ => losesQueries_cleanedItem item

/-- A cleaned item has nothing left to clean. -/
theorem cleanedItem_cleanedItem (item : TraitItem) :
    cleanedItem (cleanedItem item) = cleanedItem item := by
  cases item with
  | method declared => simp [cleanedItem, cleanedMethod]
  | other code => rfl

/-- A cleaned trait has nothing left to clean. -/
theorem cleaned_cleaned (declaration : TraitDeclaration) :
    cleaned (cleaned declaration) = cleaned declaration := by
  simp only [cleaned, List.map_map, Function.comp_def, cleanedItem_cleanedItem]

/-- Whether a trait is accepted or rejected, and for whatever reason and at whichever item, it is
left without the queries of its methods and otherwise as it is, and it is left as it is when it is
extracted again. Its description does not depend on its being cleaned on the way. -/
theorem extraction_loses_only_queries (declaration : TraitDeclaration) :
    declaration.LosesQueries (extract declaration).1 ∧
      (extract (extract declaration).1).1 = (extract declaration).1 ∧
      extract declaration = (cleaned declaration, describe declaration) := by
  rw [extract_eq]
  refine ⟨losesQueries_cleaned declaration, ?_, rfl⟩
  rw [extract_eq]
  exact cleaned_cleaned declaration

end Interface

end DataAccess
