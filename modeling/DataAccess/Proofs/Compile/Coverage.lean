/-
This file proves that every implementation covers its trait exactly. What is selected by query
markers is what a compiler will ask for, the methods without a body.
-/

import DataAccess.Compile.Coverage
import DataAccess.Proofs.Compile.Agreement
import DataAccess.Proofs.Execution.Meaning

namespace DataAccess

namespace Interface

/-- A descriptor tells of a declared method what its implementation is made from. -/
def Describes (declared : Method) (descriptor : MethodDescriptor) : Prop :=
  descriptor.signature = declared.signature ∧
    ∃ mark, declared.attributes.filter isQuery = [mark] ∧
      mark.stringArgument = .ok descriptor.query

/-- The described items of a trait are those that are required of an implementation. -/
theorem forall₂_required {interface : Name} {items : List TraitItem}
    {methods : List MethodDescriptor}
    (described : items.filterMap (describeItem interface) = methods.map .ok) :
    List.Forall₂ Describes (items.filterMap TraitItem.required?) methods := by
  -- An item is described exactly when it is required.
  refine forall₂_described (fun item found => ?_) (fun item descriptor found => ?_) described
  · obtain ⟨method, body, rfl, _, bodied, _⟩ := describeItem_eq_none found
    simp [TraitItem.required?, bodied]
  · obtain ⟨method, mark, rfl, marks, bodiless, argument, accepted⟩ := describeItem_eq_ok found
    have needed : TraitItem.required? (.method method) = some method := by
      simp [TraitItem.required?, bodiless]
    exact ⟨method, needed, (describeQuery_eq_ok accepted).2.2.2, mark, marks, argument⟩

/-- All items of a trait that could be described are methods. -/
theorem exists_method_of_describe {declaration : TraitDeclaration}
    {interface : InterfaceDescriptor} (described : describe declaration = .ok interface)
    {item : TraitItem} (member : item ∈ declaration.items) : ∃ method, item = .method method := by
  cases found : describeItem declaration.name item with
  | none =>
    obtain ⟨method, _, same, _⟩ := describeItem_eq_none found
    exact ⟨method, same⟩
  | some result =>
    obtain ⟨descriptor, _, rfl⟩ := exists_descriptor_of_describeItem described member found
    obtain ⟨method, _, same, _⟩ := describeItem_eq_ok found
    exact ⟨method, same⟩

/-- Removing the query markers leaves the required methods required. -/
theorem required_cleaned (declaration : TraitDeclaration) :
    (cleaned declaration).required = declaration.required.map cleanedMethod := by
  have kept (item : TraitItem) :
      (cleanedItem item).required? = item.required?.map cleanedMethod := by
    cases item with
    | other code => rfl
    | method method =>
      simp only [cleanedItem, TraitItem.required?, cleanedMethod]
      split <;> rfl
  rw [TraitDeclaration.required, TraitDeclaration.required, cleaned, List.filterMap_map,
    List.map_filterMap]
  exact congrArg (declaration.items.filterMap ·) (funext kept)

end Interface

namespace CompiledBatch

open Interface

/-- Every described method is compiled, and nothing else. -/
theorem forall₂_ofDescriptor {interface : InterfaceDescriptor} {unit : ImplementationUnit}
    (compiled : ImplementationUnit.ofInterface interface = .ok unit) :
    List.Forall₂ (fun descriptor method => CompiledMethod.ofDescriptor descriptor = .ok method)
      interface.methods unit.methods := by
  have each := map_ofDescriptor compiled
  rw [← List.forall₂_eq_eq_eq, List.forall₂_map_left_iff, List.forall₂_map_right_iff] at each
  exact each

/-- A compiled method is rendered as an implementation of the declared one. -/
theorem implementedBy_render {declared : Method} {descriptor : MethodDescriptor}
    {method : CompiledMethod} (described : Describes declared descriptor)
    (compiled : CompiledMethod.ofDescriptor descriptor = .ok method) :
    declared.ImplementedBy (Render.method method).tokens := by
  obtain ⟨same, mark, marks, argument⟩ := described
  obtain ⟨_, _, _, _, signature, query, _⟩ := CompiledMethod.ofDescriptor_eq_ok compiled
  constructor
  · refine ⟨(Render.body method).tokens, ?_⟩
    rw [Render.method, Code.tokens_append, Template.tokens_braces, signature, same]
    rfl
  · exact ⟨mark, descriptor.query, _, marks, argument, GeneratedMethod.read?_method method, query⟩

theorem forall₂_implementedBy {methods : List Method} {descriptors : List MethodDescriptor}
    {compiled : List CompiledMethod} (described : List.Forall₂ Describes methods descriptors)
    (accepted : List.Forall₂
      (fun descriptor method => CompiledMethod.ofDescriptor descriptor = .ok method)
      descriptors compiled) :
    List.Forall₂ Method.ImplementedBy methods
      (compiled.map fun method => (Render.method method).tokens) := by
  induction described generalizing compiled with
  | nil =>
    cases accepted
    exact .nil
  | cons first _ hypothesis =>
    cases accepted with
    | cons here behind => exact .cons (implementedBy_render first here) (hypothesis behind)

theorem tokens_interfaceImplementation (unit : ImplementationUnit) :
    (Render.interfaceImplementation unit).tokens = Token.implementation unit.interface unit.name
      (unit.methods.map fun method => (Render.method method).tokens) := by
  simp only [Render.interfaceImplementation, Token.implementation, Code.tokens_append,
    Template.tokens_word, Template.tokens_named, Template.tokens_braces, Code.tokens_flatMap,
    ← List.flatMap_def]
  rfl

/-- What is emitted for a trait that compiled covers it. -/
theorem coveredBy_implementation {declaration : TraitDeclaration} {unit : ImplementationUnit}
    (compiled : compileInterface declaration = .ok unit) :
    declaration.CoveredBy
      ((cleaned declaration).tokens ++ (Render.implementation unit).tokens) unit
      (unit.methods.map fun method => (Render.method method).tokens) := by
  obtain ⟨interface, name, _, _⟩ := compileInterface_eq_ok compiled
  obtain ⟨descriptor, described, implemented⟩ := exists_described compiled
  exact {
    named := ⟨interface, name⟩
    tokens := by
      rw [Render.implementation, Code.tokens_append, tokens_interfaceImplementation,
        ← List.append_assoc]
    plain := by
      intro item member
      obtain ⟨written, listed, rfl⟩ := List.mem_map.mp member
      obtain ⟨method, rfl⟩ := exists_method_of_describe described listed
      exact ⟨cleanedMethod method, rfl⟩
    kept := required_cleaned declaration
    exactly := forall₂_implementedBy (forall₂_required (describe_eq_ok described).2.2.2)
      (forall₂_ofDescriptor implemented) }

/-- Only a trait that compiled is emitted with anything behind it. -/
theorem compileInterface_of_emitted {item : Item} {declaration : TraitDeclaration}
    (marked : item.interface? = some declaration)
    (implemented : item.emitted.tokens ≠ item.kept.tokens) :
    ∃ unit, compileInterface declaration = .ok unit ∧
      item.emitted.tokens =
        (cleaned declaration).tokens ++ (Render.implementation unit).tokens := by
  obtain ⟨_, unit, compiled, same⟩ | ⟨reported, _⟩ := compileItem_interface marked
  · refine ⟨unit, compiled, ?_⟩
    rw [Item.emitted, same, Render.batchItem, Code.tokens_append]
    rfl
  · exact absurd (emitted_eq_kept (.inr reported)) implemented

/-- The code of an item stands in the module of its batch. -/
theorem tokens_of_mem {write : String → Option FileFailure} {batch : Batch}
    {compiled : CompiledBatch} {item : Item} (answered : compile write batch = .ok compiled)
    (member : item ∈ batch.items) :
    ∃ before after, compiled.tokens =
      enclosed batch.name batch.options.isPublic (before ++ item.emitted.tokens ++ after) := by
  obtain ⟨front, back, items⟩ := List.append_of_mem member
  refine ⟨front.flatMap fun other => other.emitted.tokens,
    (back.flatMap fun other => other.emitted.tokens) ++
      (Render.registry (registry batch)).tokens, ?_⟩
  have printed := tokens_module batch
  simp only [items, List.flatMap_append, List.flatMap_cons, List.append_assoc] at printed
  rw [compile_eq_ok answered, List.append_assoc]
  exact printed

/-- Every implementation in the module of a batch covers its trait exactly: its methods are the
methods without a body, in their order, each with the declared signature and the declared query. -/
theorem implementation_covers_trait {write : String → Option FileFailure} {batch : Batch}
    {compiled : CompiledBatch} {item : Item} {declaration : TraitDeclaration}
    (answered : compile write batch = .ok compiled) (member : item ∈ batch.items)
    (marked : item.interface? = some declaration)
    (implemented : item.emitted.tokens ≠ item.kept.tokens) :
    ∃ before after unit methods,
      compiled.tokens = enclosed batch.name batch.options.isPublic
        (before ++ item.emitted.tokens ++ after) ∧
      declaration.CoveredBy item.emitted.tokens unit methods := by
  obtain ⟨before, after, printed⟩ := tokens_of_mem answered member
  obtain ⟨unit, accepted, emitted⟩ := compileInterface_of_emitted marked implemented
  have covered := coveredBy_implementation accepted
  rw [← emitted] at covered
  exact ⟨before, after, unit, _, printed, covered⟩

namespace Sample

/-- `fn twice(&self) { }` has a body of its own. -/
def provided : Method :=
  ⟨[], { Meaning.Sample.signature with
      name := name "twice"
      inputs := [⟨.receiver [] (some (.callSite, none)) none .callSite none, none⟩]
      output := none }, some ⟨.callSite, .callSite, []⟩, .callSite⟩

/-- Another method with a query. -/
def another : Method :=
  ⟨[Meaning.Sample.mark], { Meaning.Sample.signature with name := name "some" }, none, .callSite⟩

/-- A provided method stands between two with queries. -/
def mixed : List TraitItem :=
  [.method Meaning.Sample.method, .method provided, .method another]

end Sample

section

open Sample

/-- The two methods without a body are implemented, and the one between them is not. -/
theorem implementation_covers_trait_of_sample :
    ∃ declaration compiled unit first second,
      (interface "Numbers" mixed).interface? = some declaration ∧
        compile (fun _ => none) ⟨name "db", ⟨false, none⟩, [interface "Numbers" mixed]⟩ =
          .ok compiled ∧
        declaration.CoveredBy (interface "Numbers" mixed).emitted.tokens unit [first, second] ∧
        Meaning.Sample.method.ImplementedBy first ∧ another.ImplementedBy second := by
  have answered : compile (fun _ => none) ⟨name "db", ⟨false, none⟩, [interface "Numbers" mixed]⟩ =
      .ok _ := rfl
  have marked : (interface "Numbers" mixed).interface? = some _ := rfl
  have implemented : (interface "Numbers" mixed).emitted.tokens ≠
      (interface "Numbers" mixed).kept.tokens := by
    intro same
    exact absurd (congrArg List.length same) (by decide)
  obtain ⟨_, _, unit, methods, _, covered⟩ := implementation_covers_trait answered
    (List.mem_singleton.mpr rfl) marked implemented
  have exactly := covered.exactly
  cases exactly with
  | cons first rest =>
    cases rest with
    | cons second rest =>
      cases rest
      exact ⟨_, _, unit, _, _, marked, answered, covered, first, second⟩

end

end CompiledBatch

end DataAccess
