/-
This file proves that the code of a registry is determined by the name of the batch and by the names
that it lists, wherever these stand.
-/

import DataAccess.Proofs.Compile.Batch

namespace DataAccess

namespace Name

/-- The place of a name does not matter to its text. -/
@[simp]
theorem text_placeless (name : Name) : name.placeless.text = name.text := rfl

/-- A name that no text holds keeps its place. -/
@[simp]
theorem placeless_callSite (text : String) :
    Name.placeless ⟨text, .callSite⟩ = ⟨text, .callSite⟩ := rfl

end Name

namespace Token

/-- No tokens have no places. -/
@[simp]
theorem placelessAll_nil : placelessAll [] = [] := rfl

/-- Places are taken from one token after the other. -/
@[simp]
theorem placelessAll_cons (token : Token) (rest : List Token) :
    placelessAll (token :: rest) = token.placeless :: placelessAll rest := rfl

/-- Places are taken from both parts of a list. -/
@[simp]
theorem placelessAll_append (first second : List Token) :
    placelessAll (first ++ second) = placelessAll first ++ placelessAll second := by
  induction first with
  | nil => rfl
  | cons token rest hypothesis =>
    rw [List.cons_append, placelessAll_cons, placelessAll_cons, hypothesis, List.cons_append]

/-- The place of a keyword is taken from it. -/
@[simp]
theorem placeless_keyword (spelling : String) (position : Position) :
    (keyword spelling position).placeless = keyword spelling .callSite := rfl

/-- The place of a word is taken from it. -/
@[simp]
theorem placeless_word (name : Name) : (word name).placeless = .word name.placeless := rfl

/-- The place of a literal is taken from it. -/
@[simp]
theorem placeless_literal (text : String) (position : Position) :
    (literal text position).placeless = .literal text .callSite := rfl

/-- The place of a lifetime is taken from it. -/
@[simp]
theorem placeless_lifetime (name : Name) :
    (lifetime name).placeless = .lifetime name.placeless := rfl

/-- The places of a group are taken from it and from everything inside. -/
@[simp]
theorem placeless_group (delimiter : Delimiter) (opening closing : Position)
    (inner : List Token) :
    (group delimiter opening closing inner).placeless =
      .group delimiter .callSite .callSite (placelessAll inner) := rfl

/-- The characters of an operator stand at one place. -/
theorem placelessAll_operatorOf (position : Position) (characters : List Char) :
    placelessAll (operatorOf position characters) = operatorOf .callSite characters := by
  induction characters with
  | nil => rfl
  | cons character rest hypothesis =>
    cases rest with
    | nil => rfl
    | cons second others => exact congrArg (mark character true .callSite :: ·) hypothesis

/-- The place of an operator is taken from all its characters. -/
@[simp]
theorem placelessAll_operator (spelling : String) (position : Position) :
    placelessAll (operator spelling position) = operator spelling .callSite :=
  placelessAll_operatorOf _ _

/-- Places are taken from what every entry contributes. -/
theorem placelessAll_flatMap {Entry : Type} (tokens : Entry → List Token)
    (entries : List Entry) :
    placelessAll (entries.flatMap tokens) =
      entries.flatMap fun entry => placelessAll (tokens entry) := by
  induction entries with
  | nil => rfl
  | cons entry rest hypothesis =>
    rw [List.flatMap_cons, List.flatMap_cons, placelessAll_append, hypothesis]

end Token

namespace Template

open Token (placelessAll)

/-- Words of a template stand at no place of a text. -/
@[simp]
theorem placelessAll_words (spellings : List String) :
    placelessAll (Code.tokens (words spellings)) = Code.tokens (words spellings) := by
  rw [words, Code.tokens_flatMap, Token.placelessAll_flatMap]
  simp

/-- A path of a template stands at no place of a text. -/
@[simp]
theorem placelessAll_absolute (names : List String) :
    placelessAll (Code.tokens (absolute names)) = Code.tokens (absolute names) := by
  rw [absolute, Code.tokens_flatMap, Token.placelessAll_flatMap]
  simp

/-- Texts of a template stand at no place of a text. -/
@[simp]
theorem placelessAll_texts (values : List String) :
    placelessAll (Code.tokens (listed (values.map text))) =
      Code.tokens (listed (values.map text)) := by
  induction values with
  | nil => rfl
  | cons first rest hypothesis =>
    cases rest with
    | nil => rfl
    | cons second others =>
      simp only [List.map_cons, listed] at hypothesis ⊢
      simp [hypothesis]

/-- Documentation of a template stands at no place of a text. -/
@[simp]
theorem placelessAll_documentation (literal : String) :
    placelessAll (Code.tokens (documentation (spelled literal))) =
      Code.tokens (documentation (spelled literal)) := by
  rw [tokens_documentation]
  simp

end Template

/-- A registry wherever the names stand that it lists. -/
def Registry.placeless (registry : Registry) : Registry where
  name := registry.name
  batch := registry.batch.placeless
  entries := registry.entries.map fun entry =>
    ⟨entry.interface.placeless, entry.implementation.placeless⟩

namespace Render

open Token (placelessAll)

/-- The lookup of an implementation has places only in the names of its entry. -/
theorem placelessAll_lookup (entry : RegistryEntry) :
    placelessAll (lookup entry).tokens =
      (lookup ⟨entry.interface.placeless, entry.implementation.placeless⟩).tokens := by
  simp [lookup, dynamic]

/-- The code of a registry depends on the places of names only in the places of its tokens. -/
theorem placelessAll_registry (listed : Registry) :
    placelessAll (registry listed).tokens = (registry listed.placeless).tokens := by
  have texts := Template.placelessAll_texts (listed.entries.map fun entry => entry.interface.text)
  rw [List.map_map] at texts
  simpa [registry, registryMethods, textMethod, textsMethod, lookupMethod, lookupInputs, staticText,
    handlePath, manifestPath, Registry.placeless, Code.tokens_flatMap, Token.placelessAll_flatMap,
    placelessAll_lookup, List.flatMap_map, Function.comp_def] using texts

end Render

namespace CompiledBatch

/-- The registry of a batch is the listing of the names that compiled. -/
theorem placeless_registry (batch : Batch) :
    (registry batch).placeless =
      Registry.listing batch.name.text (batch.compiledNames.map Name.text) := by
  have entries : (registry batch).entries.map (fun entry =>
        (⟨entry.interface.placeless, entry.implementation.placeless⟩ : RegistryEntry)) =
      (batch.compiledNames.map Name.text).map fun interface =>
        ⟨⟨interface, .callSite⟩, ImplementationUnit.nameFor ⟨interface, .callSite⟩⟩ := by
    rw [entries_registry, List.map_map, List.map_map]
    rfl
  have hashed : Registry.hashedTexts batch.name (registry batch).entries =
      Registry.hashedTexts batch.name.placeless ((registry batch).entries.map fun entry =>
        ⟨entry.interface.placeless, entry.implementation.placeless⟩) := by
    rw [Registry.hashedTexts, Registry.hashedTexts, List.flatMap_map]
    rfl
  have name : (registry batch).name = Registry.nameFor batch.name.placeless
      ((registry batch).entries.map fun entry =>
        ⟨entry.interface.placeless, entry.implementation.placeless⟩) := by
    change Registry.nameFor batch.name (registry batch).entries = _
    rw [Registry.nameFor, hashed]
    rfl
  rw [Registry.placeless, name, entries]
  rfl

/-- The registry and the manifest say what the batch name and the names that compiled determine. -/
theorem placelessAll_tokens_registry (batch : Batch) :
    Token.placelessAll (Render.registry (registry batch)).tokens =
      (Render.registry (Registry.listing batch.name.text
        (batch.compiledNames.map Name.text))).tokens := by
  rw [Render.placelessAll_registry, placeless_registry]

end CompiledBatch

end DataAccess
