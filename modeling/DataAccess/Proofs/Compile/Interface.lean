/-
This file proves what is known of an interface that could be described. No part of a declaration
fails without telling why, so that nothing is left out of the description of the whole.
-/

import DataAccess.Compile.Registry
import Mathlib.Data.List.Forall2

namespace DataAccess

/-- A result that is a failure tells at least one problem. -/
def Tells {Problem Value : Type} (result : Except (List Problem) Value) : Prop :=
  ∀ problems, result = .error problems → problems ≠ []

section

variable {Problem Value : Type}

/-- A value tells what it has to. -/
theorem tells_ok (value : Value) : Tells (.ok value : Except (List Problem) Value) :=
  fun _ failed => nomatch failed

/-- A failure with problems tells what it has to. -/
theorem tells_error {problems : List Problem} (present : problems ≠ []) :
    Tells (.error problems : Except (List Problem) Value) := by
  intro told failed
  rw [← Except.error.inj failed]
  exact present

/-- A single problem is told. -/
theorem tells_mapError (result : Except Problem Value) : Tells (result.mapError ([·])) := by
  cases result with
  | ok value => exact tells_ok value
  | error problem => exact tells_error (List.cons_ne_nil _ _)

/-- Results with one problem each all tell. -/
theorem tells_mapErrors {Source : Type} (results : Source → Except Problem Value)
    (sources : List Source) :
    ∀ result ∈ sources.map fun source => (results source).mapError ([·]), Tells result := by
  intro result member
  obtain ⟨source, _, rfl⟩ := List.mem_map.mp member
  exact tells_mapError (results source)

/-- What is collected tells. -/
theorem tells_collectAll (results : List (Except (List Problem) Value)) :
    Tells (collectAll results) := by
  intro problems failed
  rw [collectAll] at failed
  split at failed
  next => exact nomatch failed
  next present =>
    rw [← Except.error.inj failed]
    exact fun absent => present (List.isEmpty_iff.mpr absent)

/-- Values are collected when every result is one. -/
theorem collectAll_eq_ok {results : List (Except (List Problem) Value)} {values : List Value}
    (tell : ∀ result ∈ results, Tells result) (collected : collectAll results = .ok values) :
    results = values.map .ok := by
  rw [collectAll] at collected
  split at collected
  next absent =>
    rw [← Except.ok.inj collected]
    rw [List.isEmpty_iff, List.flatMap_eq_nil_iff] at absent
    clear collected
    induction results with
    | nil => rfl
    | cons result rest hypothesis =>
      have behind := hypothesis (fun other member => tell other (List.mem_cons_of_mem _ member))
        (fun other member => absent other (List.mem_cons_of_mem _ member))
      cases result with
      | ok value => exact congrArg (Except.ok value :: ·) behind
      | error problems =>
        have silent : problems = [] := absent _ List.mem_cons_self
        exact absurd silent (tell _ List.mem_cons_self problems rfl)
  next => exact nomatch collected

/-- Putting each problem into a list of its own loses nothing. -/
theorem mapError_singleton_inj (first second : Except Problem Value)
    (same : first.mapError ([·]) = second.mapError ([·])) : first = second := by
  cases first with
  | ok value =>
    cases second with
    | ok other => exact congrArg Except.ok (Except.ok.inj same)
    | error problem => exact nomatch same
  | error problem =>
    cases second with
    | ok other => exact nomatch same
    | error other =>
      exact congrArg Except.error (List.singleton_inj.mp (Except.error.inj same))

/-- Values that fail with a single problem are collected when every result is one. -/
theorem collectAll_mapError_eq_ok {results : List (Except Problem Value)} {values : List Value}
    (collected : collectAll (results.map fun result => result.mapError ([·])) = .ok values) :
    results = values.map .ok := by
  have each := collectAll_eq_ok (tells_mapErrors (fun result => result) results) collected
  apply (List.map_inj_right mapError_singleton_inj).mp
  rw [each, List.map_map]
  rfl

end

namespace Interface

/-- A parameter that could be described has a plain name and a type that can be bound. -/
theorem describeInput_eq_ok {method : Name} {input : Input} {descriptor : ParameterDescriptor}
    (described : describeInput method input = .ok descriptor) :
    ∃ attributes mutability colon declared type,
      input = .typed attributes (.named none mutability descriptor.name none) colon declared ∧
        Mapping.resolveParameter declared = .ok (type, descriptor.tag) := by
  unfold describeInput at described
  split at described
  next attributes pattern colon declared =>
    unfold describeTyped at described
    split at described
    next mutability name =>
      split at described
      next type tag resolved =>
        rw [← Except.ok.inj described]
        exact ⟨attributes, mutability, colon, declared, type, rfl, resolved⟩
      next => exact nomatch described
    next => exact nomatch described
  next => exact nomatch described

/-- The description of an input tells. -/
theorem tells_describeInput (method : Name) (input : Input) :
    Tells (describeInput method input) := by
  unfold describeInput
  split
  next =>
    unfold describeTyped
    split
    next =>
      split
      next => exact tells_ok _
      next => exact tells_error (List.cons_ne_nil _ _)
    next => exact tells_error (List.cons_ne_nil _ _)
  next => exact tells_error (List.cons_ne_nil _ _)

/-- The descriptions of inputs tell. -/
theorem tells_describeInputs (method : Name) (inputs : List Input) :
    ∀ result ∈ inputs.map (describeInput method), Tells result := by
  intro result member
  obtain ⟨input, _, rfl⟩ := List.mem_map.mp member
  exact tells_describeInput method input

/-- The description of the parameters tells. -/
theorem tells_parameters (signature : Signature) : Tells (parameters signature) := by
  have told := tells_collectAll (signature.arguments.tail.map (describeInput signature.name))
  rw [parameters]
  cases receiver : receiverErrors signature with
  | nil =>
    cases described : collectAll (signature.arguments.tail.map (describeInput signature.name)) with
    | ok found => exact tells_ok found
    | error errors => exact tells_error (told errors described)
  | cons error others =>
    cases collectAll (signature.arguments.tail.map (describeInput signature.name)) with
    | ok found => exact tells_error (List.cons_ne_nil error others)
    | error errors => exact tells_error (List.cons_ne_nil error (others ++ errors))

/-- All parameters could be described, and the receiver is one by reference. -/
theorem parameters_eq_ok {signature : Signature} {found : List ParameterDescriptor}
    (described : parameters signature = .ok found) :
    receiverErrors signature = [] ∧
      signature.arguments.tail.map (describeInput signature.name) = found.map .ok := by
  rw [parameters] at described
  cases receiver : receiverErrors signature with
  | nil =>
    cases collected : collectAll (signature.arguments.tail.map (describeInput signature.name)) with
    | ok values =>
      rw [receiver, collected] at described
      rw [← Except.ok.inj described]
      exact ⟨rfl, collectAll_eq_ok (tells_describeInputs _ _) collected⟩
    | error errors =>
      rw [receiver, collected] at described
      exact nomatch described
  | cons error others =>
    rw [receiver] at described
    split at described
    next cleared _ => exact nomatch cleared
    next cleared _ => exact nomatch cleared
    next => exact nomatch described
    next => exact nomatch described

/-- The reading of a query tells. -/
theorem tells_query (method : Name) (first : Attribute) (others : List Attribute) :
    Tells (query method first others) := by
  rw [query]
  split
  next =>
    split
    next => exact tells_error (List.append_ne_nil_of_right_ne_nil _ (List.cons_ne_nil _ _))
    next =>
      split
      next => exact tells_ok _
      next present => exact tells_error fun absent => present (List.isEmpty_iff.mpr absent)
  next => exact tells_error (List.append_ne_nil_of_right_ne_nil _ (List.cons_ne_nil _ _))

/-- A query could be read from the only query attribute. -/
theorem query_eq_ok {method : Name} {first : Attribute} {others : List Attribute}
    {literal : StringLiteral} (read : query method first others = .ok literal) :
    others = [] ∧ first.stringArgument = .ok literal := by
  rw [query] at read
  split at read
  next found argument =>
    split at read
    next => exact nomatch read
    next =>
      split at read
      next single =>
        rw [← Except.ok.inj read]
        exact ⟨List.map_eq_nil_iff.mp (List.isEmpty_iff.mp single), argument⟩
      next => exact nomatch read
  next => exact nomatch read

/-- The description of a query tells. -/
theorem tells_describeQuery (method : Method) (first : Attribute) (others : List Attribute) :
    Tells (describeQuery method first others) := by
  rw [describeQuery]
  split
  next => exact tells_ok _
  next refused =>
    apply tells_error
    intro absent
    obtain ⟨absent, third⟩ := List.append_eq_nil_iff.mp absent
    obtain ⟨early, second⟩ := List.append_eq_nil_iff.mp absent
    cases read : query method.signature.name first others with
    | error problems =>
      rw [read] at second
      exact tells_query _ _ _ problems read second
    | ok literal =>
      cases described : parameters method.signature with
      | error problems =>
        rw [described] at third
        exact tells_parameters _ problems described third
      | ok found => exact refused literal found early read described

/-- A method with a query is described by its signature, its parameters and its query. -/
theorem describeQuery_eq_ok {method : Method} {first : Attribute} {others : List Attribute}
    {descriptor : MethodDescriptor}
    (described : describeQuery method first others = .ok descriptor) :
    signatureErrors method.signature ++ bodyErrors method = [] ∧
      query method.signature.name first others = .ok descriptor.query ∧
      parameters method.signature = .ok descriptor.parameters ∧
      descriptor.signature = method.signature := by
  rw [describeQuery] at described
  split at described
  next literal found early read parametric =>
    rw [← Except.ok.inj described]
    exact ⟨early, read, parametric, rfl⟩
  next => exact nomatch described

/-- The description of an item tells. -/
theorem tells_describeItem {interface : Name} {item : TraitItem}
    {result : Except (List CompileError) MethodDescriptor}
    (described : describeItem interface item = some result) : Tells result := by
  cases item with
  | other code =>
    rw [← Option.some.inj described]
    exact tells_error (List.cons_ne_nil _ _)
  | method method =>
    rw [describeItem, describeMethod] at described
    split at described
    next =>
      rw [describeProvided] at described
      split at described
      next =>
        rw [← Option.some.inj described]
        exact tells_error (List.cons_ne_nil _ _)
      next =>
        obtain ⟨obstacle, _, rfl⟩ := Option.map_eq_some_iff.mp described
        exact tells_error (List.cons_ne_nil _ _)
    next first others _ =>
      rw [← Option.some.inj described]
      exact tells_describeQuery method first others

/-- The descriptions of items tell. -/
theorem tells_describeItems (interface : Name) (items : List TraitItem) :
    ∀ result ∈ items.filterMap (describeItem interface), Tells result := by
  intro result member
  obtain ⟨item, _, found⟩ := List.mem_filterMap.mp member
  exact tells_describeItem found

/-- The description of an interface tells. -/
theorem tells_describe (declaration : TraitDeclaration) : Tells (describe declaration) := by
  rw [describe]
  split
  next =>
    split
    next => exact tells_ok _
    next present => exact tells_error fun absent => present (List.isEmpty_iff.mpr absent)
  next errors failed =>
    exact tells_error (List.append_ne_nil_of_right_ne_nil _ (tells_collectAll _ errors failed))

/-- An interface is described by the descriptions of all its items that have one. -/
theorem describe_eq_ok {declaration : TraitDeclaration} {interface : InterfaceDescriptor}
    (described : describe declaration = .ok interface) :
    traitErrors declaration = [] ∧ interface.name = declaration.name ∧
      interface.visibility = declaration.visibility ∧
      declaration.items.filterMap (describeItem declaration.name) =
        interface.methods.map .ok := by
  rw [describe] at described
  split at described
  next methods collected =>
    split at described
    next clear =>
      rw [← Except.ok.inj described]
      exact ⟨List.isEmpty_iff.mp clear, rfl, rfl,
        collectAll_eq_ok (tells_describeItems _ _) collected⟩
    next => exact nomatch described
  next => exact nomatch described

/-- What is answered for an item of a described trait is one of the descriptions. -/
theorem exists_descriptor_of_describeItem {declaration : TraitDeclaration}
    {interface : InterfaceDescriptor} {item : TraitItem}
    {result : Except (List CompileError) MethodDescriptor}
    (described : describe declaration = .ok interface) (member : item ∈ declaration.items)
    (found : describeItem declaration.name item = some result) :
    ∃ descriptor ∈ interface.methods, result = .ok descriptor := by
  have among : result ∈ interface.methods.map Except.ok := by
    rw [← (describe_eq_ok described).2.2.2]
    exact List.mem_filterMap.mpr ⟨item, member, found⟩
  obtain ⟨descriptor, listed, same⟩ := List.mem_map.mp among
  exact ⟨descriptor, listed, same.symm⟩

/-- When the methods that are selected from items are those that are described, they are described
one for one and in their order. -/
theorem forall₂_described {interface : Name} {select : TraitItem → Option Method}
    {relation : Method → MethodDescriptor → Prop}
    (passed : ∀ item, describeItem interface item = none → select item = none)
    (selected : ∀ item descriptor, describeItem interface item = some (.ok descriptor) →
      ∃ method, select item = some method ∧ relation method descriptor)
    {items : List TraitItem} {methods : List MethodDescriptor}
    (described : items.filterMap (describeItem interface) = methods.map .ok) :
    List.Forall₂ relation (items.filterMap select) methods := by
  induction items generalizing methods with
  | nil =>
    rw [List.filterMap_nil, eq_comm, List.map_eq_nil_iff] at described
    rw [described]
    exact .nil
  | cons item rest hypothesis =>
    cases found : describeItem interface item with
    | none =>
      rw [List.filterMap_cons_none found] at described
      rw [List.filterMap_cons_none (passed item found)]
      exact hypothesis described
    | some result =>
      rw [List.filterMap_cons_some found, eq_comm, List.map_eq_cons_iff] at described
      obtain ⟨descriptor, others, rfl, rfl, behind⟩ := described
      obtain ⟨method, here, related⟩ := selected item descriptor found
      rw [List.filterMap_cons_some here]
      exact .cons related (hypothesis behind.symm)

/-- An item that is neither described nor refused is a method with a body of its own, without a
query, that does not hinder the use as an object. -/
theorem describeItem_eq_none {interface : Name} {item : TraitItem}
    (provided : describeItem interface item = none) :
    ∃ method body, item = .method method ∧ method.attributes.filter isQuery = [] ∧
      method.body = some body ∧ dispatchObstacle? method.signature = none := by
  cases item with
  | other code => exact nomatch provided
  | method method =>
    rw [describeItem, describeMethod] at provided
    split at provided
    next unmarked =>
      rw [describeProvided] at provided
      split at provided
      next => exact nomatch provided
      next body bodied =>
        exact ⟨method, body, rfl, unmarked, bodied, Option.map_eq_none_iff.mp provided⟩
    next => exact nomatch provided

/-- An item that is described is a method without a body and with a single query marker. -/
theorem describeItem_eq_ok {interface : Name} {item : TraitItem} {descriptor : MethodDescriptor}
    (described : describeItem interface item = some (.ok descriptor)) :
    ∃ method mark, item = .method method ∧ method.attributes.filter isQuery = [mark] ∧
      method.body = none ∧ mark.stringArgument = .ok descriptor.query ∧
      describeQuery method mark [] = .ok descriptor := by
  cases item with
  | other code => exact nomatch Option.some.inj described
  | method method =>
    rw [describeItem, describeMethod] at described
    split at described
    next =>
      rw [describeProvided] at described
      split at described
      next => exact nomatch Option.some.inj described
      next =>
        obtain ⟨obstacle, _, failed⟩ := Option.map_eq_some_iff.mp described
        exact nomatch failed
    next first others marks =>
      have accepted := Option.some.inj described
      obtain ⟨early, read, _, _⟩ := describeQuery_eq_ok accepted
      obtain ⟨rfl, argument⟩ := query_eq_ok read
      have bodiless : method.body = none := by
        have clear := (List.append_eq_nil_iff.mp early).2
        simpa [bodyErrors] using clear
      exact ⟨method, first, rfl, marks, bodiless, argument, accepted⟩

/-- A described method is one of the trait's methods with a query. -/
theorem exists_method_of_mem {declaration : TraitDeclaration} {interface : InterfaceDescriptor}
    {descriptor : MethodDescriptor} (described : describe declaration = .ok interface)
    (member : descriptor ∈ interface.methods) :
    ∃ method first others, TraitItem.method method ∈ declaration.items ∧
      method.attributes.filter isQuery = first :: others ∧
      describeQuery method first others = .ok descriptor := by
  obtain ⟨_, _, _, items⟩ := describe_eq_ok described
  have among : Except.ok descriptor ∈
      declaration.items.filterMap (describeItem declaration.name) := by
    rw [items]
    exact List.mem_map_of_mem member
  obtain ⟨item, itemMember, found⟩ := List.mem_filterMap.mp among
  obtain ⟨method, mark, rfl, marks, _, _, accepted⟩ := describeItem_eq_ok found
  exact ⟨method, mark, [], itemMember, marks, accepted⟩

end Interface

namespace CompiledMethod

/-- What a compiled method is made of. -/
theorem ofDescriptor_eq_ok {descriptor : MethodDescriptor} {method : CompiledMethod}
    (compiled : ofDescriptor descriptor = .ok method) :
    ∃ returned, Mapping.resolveReturn (descriptor.signature.output.map ReturnType.declared) =
        .ok returned ∧
      extractOf? returned.shape = some method.extract ∧ returned.failure = method.failure ∧
      method.signature = descriptor.signature ∧ method.query = descriptor.query ∧
      method.bindings = bindingsFrom 1 descriptor.parameters := by
  rw [ofDescriptor] at compiled
  split at compiled
  next => exact nomatch compiled
  next returned resolved =>
    split at compiled
    next => exact nomatch compiled
    next extract extracted =>
      rw [← Except.ok.inj compiled]
      exact ⟨returned, resolved, extracted, rfl, rfl, rfl, rfl⟩

end CompiledMethod

end DataAccess
