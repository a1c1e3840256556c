/-
This file proves that rendering a method loses nothing: the code determines everything from which
the method is rendered, whether or not the places of its tokens are known.
-/

import DataAccess.Proofs.Compile.Listing
import DataAccess.Proofs.Execution.GeneratedMethod
import Mathlib.Data.List.Forall2

namespace DataAccess

open Token (placelessAll)

/-- A binding wherever its parameter is declared. -/
def Binding.placeless (binding : Binding) : Binding :=
  { binding with parameter := binding.parameter.placeless }

/-- A query wherever it is written. -/
def StringLiteral.placeless (literal : StringLiteral) : StringLiteral :=
  { literal with position := .callSite }

/-- Two bindings bind parameters of one name under one tag to one position. -/
structure Binding.Agrees (first second : Binding) : Prop where
  position : first.position = second.position
  parameter : first.parameter.text = second.parameter.text
  tag : first.tag = second.tag

namespace CompiledMethod

/-- What the code of a method says. -/
def content (method : CompiledMethod) : GeneratedMethod where
  signature := method.signature.tokens
  query := method.query
  bindings := method.bindings
  extract := method.extract
  failure := method.failure

/-- Two methods are the same, apart from where they were declared. -/
structure Agrees (first second : CompiledMethod) : Prop where
  signature : placelessAll first.signature.tokens = placelessAll second.signature.tokens
  query : first.query.spelling = second.query.spelling
  bindings : List.Forall₂ Binding.Agrees first.bindings second.bindings
  extract : first.extract = second.extract
  failure : first.failure = second.failure

end CompiledMethod

/-- A generated method wherever its parts were declared. -/
def GeneratedMethod.placeless (method : GeneratedMethod) : GeneratedMethod where
  signature := placelessAll method.signature
  query := method.query.placeless
  bindings := method.bindings.map Binding.placeless
  extract := method.extract
  failure := method.failure

namespace Binding

/-- Bindings agree where they are equal without their places. -/
theorem agrees_iff {first second : Binding} :
    first.Agrees second ↔ first.placeless = second.placeless := by
  obtain ⟨position, ⟨text, place⟩, tag⟩ := first
  obtain ⟨position', ⟨text', place'⟩, tag'⟩ := second
  simp only [placeless, Name.placeless, Binding.mk.injEq, Name.mk.injEq, and_true]
  exact ⟨fun ⟨positions, parameters, tags⟩ => ⟨positions, parameters, tags⟩,
    fun ⟨positions, parameters, tags⟩ => ⟨positions, parameters, tags⟩⟩

/-- Lists of bindings agree where they are equal without their places. -/
theorem forall₂_agrees_iff {first second : List Binding} :
    List.Forall₂ Agrees first second ↔ first.map placeless = second.map placeless := by
  induction first generalizing second with
  | nil => cases second <;> simp
  | cons bound others hypothesis => cases second <;> simp [agrees_iff, hypothesis]

end Binding

namespace CompiledMethod

/-- The method with its query and its parameters where no source text is. -/
def displaced (method : CompiledMethod) : CompiledMethod where
  signature := method.signature
  query := method.query.placeless
  bindings := method.bindings.map Binding.placeless
  extract := method.extract
  failure := method.failure

end CompiledMethod

namespace Render

/-! The templates have no places, so that the places of a body are those of its query and of its
parameters. -/

/-- The code of a binding without places is that of the binding without places. -/
theorem placelessAll_binding (bound : Binding) :
    placelessAll (binding bound).tokens = (binding bound.placeless).tokens := by
  simp [binding, Binding.placeless]

/-- The code that asks for rows holds no places. -/
theorem placelessAll_rows : placelessAll rows.tokens = rows.tokens := by
  simp [rows]

/-- The code that materialises a column holds no places. -/
theorem placelessAll_materialize (function : String) (accessor : Accessor) :
    placelessAll (materialize function accessor).tokens =
      (materialize function accessor).tokens := by
  simp [materialize, resultColumn, placelessAll_rows]

/-- The code of an extraction holds no places. -/
theorem placelessAll_extract (extraction : Extract) :
    placelessAll (extract extraction).tokens = (extract extraction).tokens := by
  cases extraction with
  | finish => simp [extract, placelessAll_rows]
  | resultSet => simp [extract]
  | scalar accessor => exact placelessAll_materialize _ _
  | collection kind element => exact placelessAll_materialize _ _

/-- The code of an execution without places is that of the displaced method. -/
theorem placelessAll_execution (method : CompiledMethod) :
    placelessAll (execution method).tokens = (execution method.displaced).tokens := by
  simp [execution, Template.relative, CompiledMethod.displaced, StringLiteral.token,
    StringLiteral.placeless, Piece.tokens, Code.tokens_flatMap, Token.placelessAll_flatMap,
    placelessAll_binding, placelessAll_extract, List.flatMap_map]

/-- The body of a method without places is that of the displaced method. -/
theorem placelessAll_body (method : CompiledMethod) :
    placelessAll (body method).tokens = (body method.displaced).tokens := by
  have wrapped : method.displaced.failure = method.failure := rfl
  rw [body, body, wrapped]
  cases method.failure with
  | unchecked => simp [placelessAll_execution]
  | propagate => simp [placelessAll_execution]

/-- A body says nothing of the signature. -/
theorem body_congr {first second : CompiledMethod} (query : first.query = second.query)
    (bindings : first.bindings = second.bindings) (extract : first.extract = second.extract)
    (failure : first.failure = second.failure) : body first = body second := by
  simp only [body, execution, query, bindings, extract, failure]

/-- The code of a method is its signature and a body, each without its places. -/
theorem placelessAll_method (compiled : CompiledMethod) :
    placelessAll (method compiled).tokens = placelessAll compiled.signature.tokens ++
      [.group .brace .callSite .callSite (body compiled.displaced).tokens] := by
  rw [method, Code.tokens_append, Template.tokens_braces, Token.placelessAll_append,
    Token.placelessAll_cons, Token.placeless_group, placelessAll_body]
  rfl

end Render

namespace CompiledMethod

/-- Methods agree where their contents are equal without their places. -/
theorem agrees_iff {first second : CompiledMethod} :
    first.Agrees second ↔ first.content.placeless = second.content.placeless := by
  simp only [content, GeneratedMethod.placeless, GeneratedMethod.mk.injEq,
    StringLiteral.placeless, StringLiteral.mk.injEq, and_true, ← Binding.forall₂_agrees_iff]
  exact ⟨fun agrees => ⟨agrees.signature, agrees.query, agrees.bindings, agrees.extract,
    agrees.failure⟩, fun ⟨signature, query, bindings, extract, failure⟩ =>
    ⟨signature, query, bindings, extract, failure⟩⟩

/-- The reader finds a method in its code also where the code has no places. -/
theorem read?_placeless (method : CompiledMethod) :
    GeneratedMethod.read? (placelessAll (Render.method method).tokens) =
      some method.content.placeless := by
  rw [Render.placelessAll_method, GeneratedMethod.read?_body]
  rfl

/-- Two methods are rendered alike, places apart, where they agree. -/
theorem placelessAll_method_iff {first second : CompiledMethod} :
    placelessAll (Render.method first).tokens = placelessAll (Render.method second).tokens ↔
      first.Agrees second := by
  rw [agrees_iff]
  constructor
  · intro same
    have read := congrArg GeneratedMethod.read? same
    rw [read?_placeless, read?_placeless] at read
    exact Option.some.inj read
  · intro same
    obtain ⟨signature, query, bindings, extract, failure⟩ := GeneratedMethod.mk.inj same
    have bodies : Render.body first.displaced = Render.body second.displaced :=
      Render.body_congr query bindings extract failure
    rw [Render.placelessAll_method, Render.placelessAll_method, bodies]
    exact congrArg (· ++ _) signature

/-- Two methods are rendered as the same tokens where their contents are equal. -/
theorem tokens_method_iff {first second : CompiledMethod} :
    (Render.method first).tokens = (Render.method second).tokens ↔
      first.content = second.content := by
  constructor
  · intro same
    have read := congrArg GeneratedMethod.read? same
    rw [GeneratedMethod.read?_method, GeneratedMethod.read?_method] at read
    exact Option.some.inj read
  · intro same
    obtain ⟨signature, query, bindings, extract, failure⟩ := GeneratedMethod.mk.inj same
    rw [Render.method, Render.method, Code.tokens_append, Code.tokens_append,
      Render.body_congr query bindings extract failure]
    exact congrArg (· ++ _) signature

/-- Rendering a method loses nothing. The method can be read back from its code, with or without the
places of the tokens; two methods have the same code exactly if they have the same signature, query,
bindings in the same order, extraction and failure mode, and where the places are left out of the
code, exactly if they have the same ones apart from their places. -/
theorem rendering_loses_nothing (first second : CompiledMethod) :
    GeneratedMethod.read? (Render.method first).tokens = some first.content ∧
      GeneratedMethod.read? (placelessAll (Render.method first).tokens) =
        some first.content.placeless ∧
      ((Render.method first).tokens = (Render.method second).tokens ↔
        first.signature.tokens = second.signature.tokens ∧ first.query = second.query ∧
          first.bindings = second.bindings ∧ first.extract = second.extract ∧
          first.failure = second.failure) ∧
      (placelessAll (Render.method first).tokens = placelessAll (Render.method second).tokens ↔
        first.Agrees second) := by
  refine ⟨GeneratedMethod.read?_method first, read?_placeless first, ?_, placelessAll_method_iff⟩
  rw [tokens_method_iff, content, content, GeneratedMethod.mk.injEq]

end CompiledMethod

end DataAccess
