/-
This file proves that generated code never stops the formatter: what it does not know was there in
the declarations.
-/

import DataAccess.Compile.Emission
import DataAccess.Proofs.Compile.Interface

namespace DataAccess

namespace Code

/-- No code is nothing that the formatter stops at. -/
@[simp]
theorem failure?_nil : Code.failure? [] = none := rfl

/-- The formatter stops at the first of two pieces of code that stops it. -/
theorem failure?_append (first second : Code) :
    Code.failure? (first ++ second) = first.failure?.or second.failure? := by
  induction first with
  | nil => rfl
  | cons piece rest hypothesis =>
    rw [List.cons_append, Code.failure?, Code.failure?, hypothesis, Option.or_assoc]

/-- Code is formatted if both of its parts are. -/
@[simp]
theorem failure?_append_eq_none {first second : Code} :
    Code.failure? (first ++ second) = none ↔ first.failure? = none ∧ second.failure? = none := by
  rw [failure?_append, Option.or_eq_none_iff]

/-- The first part that stops the formatter is met first. -/
theorem failure?_flatMap {Entry : Type} (code : Entry → Code) (entries : List Entry) :
    Code.failure? (entries.flatMap code) =
      entries.findSome? fun entry => (code entry).failure? := by
  induction entries with
  | nil => rfl
  | cons entry rest hypothesis =>
    rw [List.flatMap_cons, failure?_append, hypothesis, List.findSome?_cons]
    cases (code entry).failure? <;> rfl

/-- Code is formatted if the code of every entry is. -/
@[simp]
theorem failure?_flatMap_eq_none {Entry : Type} {code : Entry → Code} {entries : List Entry} :
    Code.failure? (entries.flatMap code) = none ↔
      ∀ entry ∈ entries, (code entry).failure? = none := by
  rw [failure?_flatMap, List.findSome?_eq_none_iff]

/-- Tokens that are kept as they are do not stop the formatter. -/
@[simp]
theorem failure?_ofTokens (tokens : List Token) : (ofTokens tokens).failure? = none := by
  induction tokens with
  | nil => rfl
  | cons token rest hypothesis => exact hypothesis

end Code

namespace Template

/-- A word does not stop the formatter. -/
@[simp]
theorem failure?_word (spelling : String) : Code.failure? (word spelling) = none := rfl

/-- Words do not stop the formatter. -/
@[simp]
theorem failure?_words (spellings : List String) : Code.failure? (words spellings) = none := by
  simp [words]

/-- A mark does not stop the formatter. -/
@[simp]
theorem failure?_mark (spelling : String) : Code.failure? (mark spelling) = none :=
  Code.failure?_ofTokens _

/-- A name does not stop the formatter. -/
@[simp]
theorem failure?_named (name : Name) : Code.failure? (named name) = none := rfl

/-- A literal does not stop the formatter. -/
@[simp]
theorem failure?_spelled (literal : String) : Code.failure? (spelled literal) = none := by
  rfl

/-- A text does not stop the formatter. -/
@[simp]
theorem failure?_text (value : String) : Code.failure? (text value) = none :=
  failure?_spelled _

/-- A lifetime does not stop the formatter. -/
@[simp]
theorem failure?_lifetime (spelling : String) : Code.failure? (lifetime spelling) = none := rfl

/-- Parentheses stop the formatter where their inside does. -/
@[simp]
theorem failure?_parentheses (inner : Code) :
    Code.failure? (parentheses inner) = inner.failure? := Option.or_none

/-- Braces stop the formatter where their inside does. -/
@[simp]
theorem failure?_braces (inner : Code) : Code.failure? (braces inner) = inner.failure? :=
  Option.or_none

/-- Brackets stop the formatter where their inside does. -/
@[simp]
theorem failure?_brackets (inner : Code) : Code.failure? (brackets inner) = inner.failure? :=
  Option.or_none

/-- A path from the root does not stop the formatter. -/
@[simp]
theorem failure?_absolute (names : List String) : Code.failure? (absolute names) = none := by
  simp [absolute]

/-- A path from the module does not stop the formatter. -/
@[simp]
theorem failure?_relative (names : List String) : Code.failure? (relative names) = none := by
  cases names <;> simp [relative]

/-- A list does not stop the formatter if none of its parts does. -/
theorem failure?_listed {parts : List Code} (known : ∀ part ∈ parts, part.failure? = none) :
    Code.failure? (listed parts) = none := by
  induction parts with
  | nil => rfl
  | cons first rest hypothesis =>
    have behind := hypothesis fun part member => known part (List.mem_cons_of_mem _ member)
    cases rest with
    | nil => exact known first List.mem_cons_self
    | cons second others => simp [listed, behind, known first List.mem_cons_self]

/-- An attribute of a module does not stop the formatter. -/
@[simp]
theorem failure?_innerAttribute (name argument : String) :
    Code.failure? (innerAttribute name argument) = none := by
  simp [innerAttribute]

/-- Documentation does not stop the formatter, whichever way it is written. -/
@[simp]
theorem failure?_documentation {literal : Code} (known : literal.failure? = none) :
    Code.failure? (documentation literal) = none := by
  rw [documentation, Attribute.code]
  split
  next => rfl
  next =>
    simp [Attribute.written, NamePath.code, AttributeContent.code, Code.mark, Code.failure?,
      Piece.failure?, Code.word, known]

end Template

namespace Render

/-- The binding of a parameter does not stop the formatter. -/
@[simp]
theorem failure?_binding (bound : Binding) : Code.failure? (binding bound) = none := by
  simp [binding]

/-- The rows of a statement do not stop the formatter. -/
@[simp]
theorem failure?_rows : Code.failure? rows = none := by
  simp [rows]

/-- An extraction does not stop the formatter. -/
@[simp]
theorem failure?_extract (extracted : Extract) : Code.failure? (extract extracted) = none := by
  cases extracted <;> simp [extract, materialize, resultColumn]

/-- The call that prepares and runs a query does not stop the formatter. -/
@[simp]
theorem failure?_execution (method : CompiledMethod) :
    Code.failure? (execution method) = none := by
  simp [execution, Code.failure?, Piece.failure?]

/-- The body of a method does not stop the formatter, whatever becomes of its failures. -/
@[simp]
theorem failure?_body (method : CompiledMethod) : Code.failure? (body method) = none := by
  rw [body]
  split <;> simp

/-- Only signatures and visibilities come from declarations. -/
theorem failure?_implementation {unit : ImplementationUnit}
    (visibility : unit.visibility.failure? = none)
    (signatures : ∀ method ∈ unit.methods, method.signature.code.failure? = none) :
    Code.failure? (implementation unit) = none := by
  have methods : ∀ compiled ∈ unit.methods, Code.failure? (method compiled) = none := by
    intro compiled member
    simp [method, signatures compiled member]
  simpa [implementation, holder, construction, accessImplementation, interfaceImplementation,
    handlePath, accessPath, visibility] using methods

/-- The lookup of an implementation does not stop the formatter. -/
@[simp]
theorem failure?_lookup (entry : RegistryEntry) : Code.failure? (lookup entry) = none := by
  simp [lookup, dynamic]

/-- The methods of a registry do not stop the formatter. -/
@[simp]
theorem failure?_registryMethods (listed : Registry) :
    Code.failure? (registryMethods listed) = none := by
  have texts : Code.failure? (Template.listed
      ((listed.entries.map fun entry => entry.interface.text).map Template.text)) = none := by
    apply Template.failure?_listed
    intro part member
    obtain ⟨value, _, rfl⟩ := List.mem_map.mp member
    rfl
  simp only [List.map_map] at texts
  simp [registryMethods, textMethod, textsMethod, lookupMethod, lookupInputs, staticText,
    handlePath, texts]

/-- A registry with its manifest does not stop the formatter. -/
@[simp]
theorem failure?_registry (listed : Registry) : Code.failure? (registry listed) = none := by
  simp [registry, manifestPath]

end Render

end DataAccess
