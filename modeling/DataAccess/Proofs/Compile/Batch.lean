/-
This file proves what compiling a batch comes down to: every item is compiled on its own, and what
is answered is put together in the order of the items.
-/

import DataAccess.Proofs.Compile.Formatting
import DataAccess.Proofs.Compile.Rendered

namespace DataAccess

namespace CompiledBatch

/-- An item is put behind what was there, with its errors. -/
theorem add_eq (progress : Progress) (item : Item) :
    progress.add item =
      ⟨progress.items ++ [(compileItem item).item], progress.errors ++ item.reported⟩ := rfl

/-- The items are put behind what was there in their order, with their errors. -/
theorem foldl_add (items : List Item) (start : Progress) :
    items.foldl Progress.add start =
      ⟨start.items ++ items.map (fun item => (compileItem item).item),
        start.errors ++ items.flatMap Item.reported⟩ := by
  induction items generalizing start with
  | nil => rw [List.foldl_nil, List.map_nil, List.flatMap_nil, List.append_nil, List.append_nil]
  | cons item rest hypothesis =>
    rw [List.foldl_cons, hypothesis, add_eq, List.map_cons, List.flatMap_cons, List.append_assoc,
      List.append_assoc]
    rfl

/-- The items are compiled one by one, and their errors follow in their order. -/
theorem compileItems_eq (items : List Item) :
    compileItems items =
      ⟨items.map fun item => (compileItem item).item, items.flatMap Item.reported⟩ := by
  rw [compileItems, foldl_add, List.nil_append, List.nil_append]

/-- Every implementation is the one of an item. -/
theorem exists_item_of_mem_units {batch : Batch} {unit : ImplementationUnit}
    (among : unit ∈ units batch) :
    ∃ item ∈ batch.items, unit? (compileItem item).item = some unit := by
  rw [units, compileItems_eq] at among
  obtain ⟨_, mapped, found⟩ := List.mem_filterMap.mp among
  obtain ⟨item, stands, rfl⟩ := List.mem_map.mp mapped
  exact ⟨item, stands, found⟩

/-- All methods of an interface are compiled, in their order. -/
theorem map_ofDescriptor {interface : InterfaceDescriptor} {unit : ImplementationUnit}
    (compiled : ImplementationUnit.ofInterface interface = .ok unit) :
    interface.methods.map CompiledMethod.ofDescriptor = unit.methods.map .ok := by
  rw [ImplementationUnit.ofInterface] at compiled
  split at compiled
  next methods collected =>
    rw [← Except.ok.inj compiled]
    apply collectAll_mapError_eq_ok
    rw [List.map_map]
    exact collected
  next => exact nomatch compiled

/-- A described method of a unit was compiled. -/
theorem exists_compiled_of_mem {interface : InterfaceDescriptor} {unit : ImplementationUnit}
    {descriptor : MethodDescriptor} (compiled : ImplementationUnit.ofInterface interface = .ok unit)
    (member : descriptor ∈ interface.methods) :
    ∃ method, CompiledMethod.ofDescriptor descriptor = .ok method := by
  have among : CompiledMethod.ofDescriptor descriptor ∈ unit.methods.map Except.ok := by
    rw [← map_ofDescriptor compiled]
    exact List.mem_map_of_mem member
  obtain ⟨method, _, accepted⟩ := List.mem_map.mp among
  exact ⟨method, accepted.symm⟩

/-- A method of a unit was compiled from a described one. -/
theorem exists_descriptor_of_mem {interface : InterfaceDescriptor} {unit : ImplementationUnit}
    {method : CompiledMethod} (compiled : ImplementationUnit.ofInterface interface = .ok unit)
    (member : method ∈ unit.methods) :
    ∃ descriptor ∈ interface.methods, CompiledMethod.ofDescriptor descriptor = .ok method := by
  have among : Except.ok method ∈ interface.methods.map CompiledMethod.ofDescriptor := by
    rw [map_ofDescriptor compiled]
    exact List.mem_map_of_mem member
  exact List.mem_map.mp among

/-- An implementation is named for its interface and has the methods that compiled from those of the
interface. -/
theorem ofInterface_eq_ok {interface : InterfaceDescriptor} {unit : ImplementationUnit}
    (compiled : ImplementationUnit.ofInterface interface = .ok unit) :
    unit.interface = interface.name ∧
      unit.name = ImplementationUnit.nameFor interface.name ∧
      unit.visibility = interface.visibility ∧
      ∀ method ∈ unit.methods, ∃ descriptor ∈ interface.methods,
        CompiledMethod.ofDescriptor descriptor = .ok method := by
  have each (method : CompiledMethod) (member : method ∈ unit.methods) :=
    exists_descriptor_of_mem compiled member
  rw [ImplementationUnit.ofInterface] at compiled
  split at compiled
  next methods collected =>
    rw [← Except.ok.inj compiled] at each ⊢
    exact ⟨rfl, rfl, rfl, each⟩
  next => exact nomatch compiled

/-- The unit of an interface tells. -/
theorem tells_ofInterface (interface : InterfaceDescriptor) :
    Tells (ImplementationUnit.ofInterface interface) := by
  rw [ImplementationUnit.ofInterface]
  split
  next => exact tells_ok _
  next errors failed => exact tells_error (tells_collectAll _ errors failed)

/-- An interface that does not compile tells why. -/
theorem tells_compileInterface (declaration : TraitDeclaration) :
    Tells (compileInterface declaration) := by
  rw [compileInterface]
  cases described : Interface.describe declaration with
  | error errors => exact tells_error (Interface.tells_describe declaration errors described)
  | ok interface => exact tells_ofInterface interface

/-- A method is compiled with the signature that it was described with. -/
theorem signature_of_ofDescriptor {descriptor : MethodDescriptor} {method : CompiledMethod}
    (compiled : CompiledMethod.ofDescriptor descriptor = .ok method) :
    method.signature = descriptor.signature := by
  obtain ⟨_, _, _, _, same, _⟩ := CompiledMethod.ofDescriptor_eq_ok compiled
  exact same

/-- What is implemented was described before. -/
theorem exists_described {declaration : TraitDeclaration} {unit : ImplementationUnit}
    (compiled : compileInterface declaration = .ok unit) :
    ∃ interface, Interface.describe declaration = .ok interface ∧
      ImplementationUnit.ofInterface interface = .ok unit := by
  rw [compileInterface] at compiled
  cases described : Interface.describe declaration with
  | error errors =>
    rw [described] at compiled
    exact nomatch compiled
  | ok interface =>
    rw [described] at compiled
    exact ⟨interface, rfl, compiled⟩

/-- An implementation is named for its trait, and its signatures are those of the trait's
methods. -/
theorem compileInterface_eq_ok {declaration : TraitDeclaration} {unit : ImplementationUnit}
    (compiled : compileInterface declaration = .ok unit) :
    unit.interface = declaration.name ∧
      unit.name = ImplementationUnit.nameFor declaration.name ∧
      unit.visibility = declaration.visibility ∧
      ∀ method ∈ unit.methods, ∃ declared, TraitItem.method declared ∈ declaration.items ∧
        method.signature = declared.signature := by
  obtain ⟨interface, described, implemented⟩ := exists_described compiled
  obtain ⟨sameName, named, visible, methods⟩ := ofInterface_eq_ok implemented
  obtain ⟨_, name, visibility, _⟩ := Interface.describe_eq_ok described
  rw [sameName, named, visible, name, visibility]
  refine ⟨rfl, rfl, rfl, ?_⟩
  intro method member
  obtain ⟨descriptor, listed, accepted⟩ := methods method member
  obtain ⟨declared, first, others, item, _, query⟩ :=
    Interface.exists_method_of_mem described listed
  obtain ⟨_, _, _, same⟩ := Interface.describeQuery_eq_ok query
  exact ⟨declared, item, by rw [signature_of_ofDescriptor accepted, same]⟩

/-- A marked trait is emitted with its implementation, or without it and with errors. -/
theorem compileItem_interface {item : Item} {declaration : TraitDeclaration}
    (marked : item.interface? = some declaration) :
    (item.reported = [] ∧ ∃ unit, compileInterface declaration = .ok unit ∧
      (compileItem item).item = .interface (Interface.cleaned declaration) (some unit)) ∨
    (item.reported ≠ [] ∧ compileInterface declaration = .error item.reported ∧
      (compileItem item).item = .interface (Interface.cleaned declaration) none) := by
  rw [Item.interface?] at marked
  split at marked
  next found declared =>
    rw [Option.some.inj marked] at declared
    rw [Item.reported]
    cases compiled : compileInterface declaration with
    | ok unit =>
      have step : compileItem item =
          ⟨.interface (Interface.cleaned declaration) (some unit), []⟩ := by
        rw [compileItem, declared]
        dsimp only
        rw [compiled]
      rw [step]
      exact .inl ⟨rfl, unit, rfl, rfl⟩
    | error errors =>
      have step : compileItem item =
          ⟨.interface (Interface.cleaned declaration) none, errors⟩ := by
        rw [compileItem, declared]
        dsimp only
        rw [compiled]
      rw [step]
      exact .inr ⟨tells_compileInterface declaration errors compiled, rfl, rfl⟩
  next => exact nomatch marked
  next => exact nomatch marked

/-- An item that is no marked trait is passed through. -/
theorem compileItem_passthrough {item : Item} (unmarked : item.interface? = none) :
    ∃ passed, (compileItem item).item = .passthrough passed ∧ item.kept = passed.code := by
  rw [Item.interface?] at unmarked
  rw [Item.kept, compileItem]
  split at unmarked
  next => exact nomatch unmarked
  next passed declared =>
    rw [declared]
    exact ⟨passed, rfl, rfl⟩
  next carrier marker declared =>
    rw [declared]
    exact ⟨.plain carrier, rfl, rfl⟩

/-- Every implementation is emitted behind the marked trait that it was compiled from. -/
theorem exists_declaration_of_mem_units {batch : Batch} {unit : ImplementationUnit}
    (among : unit ∈ units batch) :
    ∃ item ∈ batch.items, ∃ declaration, item.interface? = some declaration ∧
      compileInterface declaration = .ok unit ∧
      (compileItem item).item = .interface (Interface.cleaned declaration) (some unit) := by
  obtain ⟨item, stands, found⟩ := exists_item_of_mem_units among
  refine ⟨item, stands, ?_⟩
  cases marked : item.interface? with
  | none =>
    obtain ⟨passed, same, _⟩ := compileItem_passthrough marked
    rw [same] at found
    exact nomatch found
  | some declaration =>
    obtain ⟨_, emitted, compiled, same⟩ | ⟨_, _, same⟩ := compileItem_interface marked
    · rw [same] at found
      cases found
      exact ⟨declaration, rfl, compiled, same⟩
    · rw [same] at found
      exact nomatch found

/-- A marked interface is kept as the cleaned trait. -/
theorem kept_of_interface? {item : Item} {declaration : TraitDeclaration}
    (marked : item.interface? = some declaration) :
    item.kept = (Interface.cleaned declaration).code := by
  rw [Item.interface?] at marked
  split at marked
  next found declared =>
    rw [Option.some.inj marked] at declared
    rw [Item.kept, declared]
  next => exact nomatch marked
  next => exact nomatch marked

/-- A marked trait differs from what was read in its attributes alone. -/
theorem exists_trait_of_interface? {item : Item} {declaration : TraitDeclaration}
    (marked : item.interface? = some declaration) :
    ∃ found, item = .trait found ∧
      { found with attributes := declaration.attributes } = declaration := by
  unfold Item.interface? Declaration.ofItem at marked
  cases item with
  | verbatim => exact nomatch marked
  | plain item =>
    dsimp only at marked
    cases took : Declaration.takeMarker item.attributes <;> rw [took] at marked <;>
      exact nomatch marked
  | trait found =>
    dsimp only at marked
    cases took : Declaration.takeMarker found.attributes with
    | none =>
      rw [took] at marked
      exact nomatch marked
    | some taken =>
      rw [took] at marked
      cases marked
      exact ⟨found, rfl, rfl⟩

/-- A unit is emitted for the item exactly when its trait compiled. -/
theorem unit?_compileItem (item : Item) :
    (unit? (compileItem item).item).map (fun unit => (unit.interface, unit.name)) =
      item.compiled?.map fun name => (name, ImplementationUnit.nameFor name) := by
  rw [Item.compiled?]
  cases marked : item.interface? with
  | none =>
    obtain ⟨passed, same, _⟩ := compileItem_passthrough marked
    rw [same]
    rfl
  | some declaration =>
    obtain ⟨none, unit, compiled, same⟩ | ⟨present, _, same⟩ := compileItem_interface marked
    · obtain ⟨interface, name, _, _⟩ := compileInterface_eq_ok compiled
      rw [same, none, unit?, Option.map_some, interface, name]
      rfl
    · rw [same, unit?]
      cases reported : item.reported with
      | nil => exact absurd reported present
      | cons error others => rfl

/-- The registry lists the marked traits that compiled, in their order. -/
theorem entries_registry (batch : Batch) :
    (registry batch).entries =
      batch.compiledNames.map fun name => ⟨name, ImplementationUnit.nameFor name⟩ := by
  have listed : ∀ items : List Item,
      ((items.map fun item => (compileItem item).item).filterMap unit?).map
          (fun unit => (⟨unit.interface, unit.name⟩ : RegistryEntry)) =
        (items.filterMap Item.compiled?).map
          fun name => ⟨name, ImplementationUnit.nameFor name⟩ := by
    intro items
    induction items with
    | nil => rfl
    | cons item rest hypothesis =>
      have here := unit?_compileItem item
      rw [List.map_cons, List.filterMap_cons, List.filterMap_cons]
      cases emitted : unit? (compileItem item).item with
      | none =>
        rw [emitted, Option.map_none, eq_comm, Option.map_eq_none_iff] at here
        rw [here]
        exact hypothesis
      | some unit =>
        rw [emitted, Option.map_some, eq_comm, Option.map_eq_some_iff] at here
        obtain ⟨name, compiled, same⟩ := here
        obtain ⟨interface, implementation⟩ := Prod.mk.inj same
        rw [compiled]
        dsimp only
        rw [List.map_cons, List.map_cons, hypothesis, ← interface, ← implementation]
  rw [registry, Registry.ofUnits, units, compileItems_eq]
  exact listed batch.items

/-- A registry is made of the batch name and of the names that compiled. -/
theorem registry_eq (batch : Batch) :
    registry batch = ⟨Registry.nameFor batch.name (batch.compiledNames.map fun name =>
        ⟨name, ImplementationUnit.nameFor name⟩), batch.name,
      batch.compiledNames.map fun name => ⟨name, ImplementationUnit.nameFor name⟩⟩ := by
  rw [← entries_registry]
  rfl

/-- The generated module holds the code of every item and then the registry. -/
theorem tokens_module (batch : Batch) :
    (module batch).tokens = enclosed batch.name batch.options.isPublic
      (batch.items.flatMap (fun item => item.emitted.tokens) ++
        (Render.registry (registry batch)).tokens) := by
  have items : Code.tokens ((compileItems batch.items).items.flatMap Render.batchItem) =
      batch.items.flatMap fun item => item.emitted.tokens := by
    rw [compileItems_eq, List.flatMap_map, Code.tokens_flatMap]
    rfl
  have visible : Code.tokens (if batch.options.isPublic then Template.word "pub" else []) =
      if batch.options.isPublic then [Token.keyword "pub" .callSite] else [] := by
    split <;> rfl
  simp only [module, Render.batch, enclosed, prelude, registry, visible, items,
    Code.tokens_append, Template.tokens_word, Template.tokens_named, Template.tokens_braces,
    List.append_assoc, List.cons_append, List.nil_append]

/-- The visibility of a trait stands in its code. -/
theorem visibility_known {declaration : TraitDeclaration}
    (known : (Interface.cleaned declaration).code.failure? = none) :
    declaration.visibility.failure? = none := by
  simp only [TraitDeclaration.code, Interface.cleaned, List.append_assoc,
    Code.failure?_append_eq_none] at known
  exact known.2.1

/-- The signatures of a trait's methods stand in its code. -/
theorem signature_known {declaration : TraitDeclaration} {method : Method}
    (known : (Interface.cleaned declaration).code.failure? = none)
    (member : TraitItem.method method ∈ declaration.items) :
    method.signature.code.failure? = none := by
  have body : Code.failure? ((declaration.items.map Interface.cleanedItem).flatMap
      TraitItem.code) = none := by
    simp only [TraitDeclaration.code, TraitDeclaration.body, Interface.cleaned, Body.code,
      Code.failure?_append_eq_none, Code.failure?, Piece.failure?, Option.or_none] at known
    exact known.2.2
  rw [Code.failure?_flatMap_eq_none] at body
  have here := body _ (List.mem_map_of_mem member)
  simp only [Interface.cleanedItem, Interface.cleanedMethod, TraitItem.code, Method.code,
    List.append_assoc, Code.failure?_append_eq_none] at here
  exact here.2.1

/-- What is generated for a trait that the formatter knows is known to it, too. -/
theorem implementation_known {declaration : TraitDeclaration} {unit : ImplementationUnit}
    (compiled : compileInterface declaration = .ok unit)
    (known : (Interface.cleaned declaration).code.failure? = none) :
    (Render.implementation unit).failure? = none := by
  obtain ⟨_, _, visibility, methods⟩ := compileInterface_eq_ok compiled
  apply Render.failure?_implementation
  · rw [visibility]
    exact visibility_known known
  · intro method member
    obtain ⟨declared, listed, same⟩ := methods method member
    rw [same]
    exact signature_known known listed

/-- The formatter stops at what is emitted for an item only where it stops at the item. -/
theorem failure?_emitted (item : Item) : item.emitted.failure? = item.kept.failure? := by
  rw [Item.emitted]
  cases marked : item.interface? with
  | none =>
    obtain ⟨passed, same, kept⟩ := compileItem_passthrough marked
    rw [same, kept]
    rfl
  | some declaration =>
    rw [kept_of_interface? marked]
    obtain ⟨_, unit, compiled, same⟩ | ⟨_, _, same⟩ := compileItem_interface marked
    · rw [same, Render.batchItem, Code.failure?_append]
      -- The trait stands in front of its implementation, so its failure is met first.
      cases known : (Interface.cleaned declaration).code.failure? with
      | none => rw [Option.none_or, implementation_known compiled known]
      | some failure => rw [Option.some_or]
    · rw [same, Render.batchItem, List.append_nil]

/-- The formatter stops at the first item that it does not know. -/
theorem failure?_module (batch : Batch) :
    (module batch).failure? = batch.items.findSome? fun item => item.kept.failure? := by
  have items : Code.failure? ((compileItems batch.items).items.flatMap Render.batchItem) =
      batch.items.findSome? fun item => item.kept.failure? := by
    rw [compileItems_eq, List.flatMap_map, Code.failure?_flatMap]
    exact congrArg (batch.items.findSome? ·) (funext failure?_emitted)
  have visible : Code.failure? (if batch.options.isPublic then Template.word "pub" else []) =
      none := by
    split <;> rfl
  simp [module, Render.batch, Code.failure?_append, visible, items]

/-- Compiling stops when a debug file is created and an item has code that the formatter does not
know, and only then. -/
theorem compile_eq_error_iff (write : String → Option FileFailure) (batch : Batch)
    (failure : FormatFailure) :
    compile write batch = .error failure ↔ Stops write batch failure := by
  rw [compile, debugText?, Stops, ← failure?_module]
  split
  next formatted =>
    rw [DebugText.ofCode, Code.formatted]
    cases (module batch).failure? with
    | none => simp [Except.map]
    | some met => simp [Except.map, formatted]
  next plain => simp [Except.map, plain]

/-- A batch that compiles is compiled as its parts say. -/
theorem compile_eq_ok {write : String → Option FileFailure} {batch : Batch}
    {compiled : CompiledBatch} (answered : compile write batch = .ok compiled) :
    compiled = ofBatch write batch := by
  rw [compile] at answered
  cases text : debugText? write batch with
  | error failure =>
    rw [text] at answered
    exact nomatch answered
  | ok written =>
    rw [text] at answered
    exact (Except.ok.inj answered).symm

namespace Sample

/-- A name at the start of the text. -/
def name (text : String) : Name :=
  ⟨text, .callSite⟩

/-- `#[dao]` -/
def marker : Attribute :=
  ⟨.callSite, none, .callSite, .callSite, ⟨none, [], name Declaration.interfaceMarker⟩, .bare⟩

/-- A marked interface with items. -/
def interface (text : String) (items : List TraitItem) : Item :=
  .trait ⟨[marker], [], none, none, .callSite, name text, .none, .callSite, [], .callSite,
    .callSite, items⟩

/-- `pub fn b ( ) ;` is no method of a trait, and the formatter does not know it. -/
def hiddenTokens : List Token :=
  [.keyword "pub" .callSite, .keyword "fn" .callSite, .keyword "b" .callSite,
    .group .parenthesis .callSite .callSite [], .mark ';' false .callSite]

/-- An interface that compiles. -/
def whole : Item :=
  interface "Numbers" []

/-- An interface with an item that the formatter does not know. -/
def broken : Item :=
  interface "Broken" [.other (.refuse .traitItem hiddenTokens)]

/-- The file that the sample batch is written to. -/
def debugFile : StringLiteral :=
  ⟨"\"dbg.rs\"", .callSite⟩

end Sample

end CompiledBatch

end DataAccess
