/-
This file proves that the generated code of a method does what the declaration of the method means.
-/

import DataAccess.Proofs.Compile.Interface
import DataAccess.Proofs.Execution.Binding
import DataAccess.Proofs.Execution.GeneratedMethod
import DataAccess.Proofs.Mapping.Classification
import DataAccess.Proofs.Row.Draining
import DataAccess.Proofs.Row.RoundTrip

namespace DataAccess

/-- A type is read as its accessor reads it. -/
theorem Accessor.read_type (accessor : Accessor) : accessor.type.read = accessor.read := by
  cases accessor <;> rfl

namespace Meaning

/-- Bindings are numbered from a first position on, in the order of the parameters. -/
theorem bindingsFrom_map (parameters : List Parameter) (first : Nat) :
    CompiledMethod.bindingsFrom first (parameters.map Parameter.descriptor) =
      parameters.mapIdx fun index parameter => ⟨first + index, parameter.name, parameter.tag⟩ := by
  induction parameters generalizing first with
  | nil => rfl
  | cons parameter parameters hypothesis =>
    rw [List.map_cons, CompiledMethod.bindingsFrom, hypothesis, List.mapIdx_cons]
    congr 2
    funext index other
    rw [Nat.add_assoc, Nat.add_comm 1]

/-- The bindings of parameters are numbered from one. -/
theorem bindingsFrom_one (parameters : List Parameter) :
    CompiledMethod.bindingsFrom 1 (parameters.map Parameter.descriptor) = bindings parameters := by
  rw [bindingsFrom_map, bindings]
  congr 1
  funext index parameter
  rw [Nat.add_comm]

/-- The arguments that bindings name are those of the parameters. -/
theorem arguments_bindingsFrom (arguments : CallArguments) (parameters : List Parameter)
    (first : Nat) :
    arguments.inOrder
        (CompiledMethod.bindingsFrom first (parameters.map Parameter.descriptor)) =
      parameters.map fun parameter => arguments parameter.name.text := by
  induction parameters generalizing first with
  | nil => rfl
  | cons parameter parameters hypothesis =>
    rw [List.map_cons, CompiledMethod.bindingsFrom, CallArguments.inOrder, List.map_cons,
      ← CallArguments.inOrder, hypothesis]
    rfl

/-- A described parameter is a parameter of the declaration. -/
theorem parameter?_of_describeInput {method : Name} {input : Input}
    {descriptor : ParameterDescriptor}
    (described : Interface.describeInput method input = .ok descriptor) :
    ∃ parameter, parameter? input = some parameter ∧ parameter.descriptor = descriptor ∧
      parameter.IsTabled := by
  obtain ⟨attributes, mutability, colon, declared, type, rfl, resolved⟩ :=
    Interface.describeInput_eq_ok described
  refine ⟨⟨descriptor.name, type, descriptor.tag⟩, ?_, rfl,
    Mapping.binding?_of_resolveParameter resolved⟩
  simp only [parameter?, resolved]

/-- Inputs that are described are the parameters of the declaration, one for one. -/
theorem mapM_parameter? {method : Name} (inputs : List Input)
    {descriptors : List ParameterDescriptor}
    (described : inputs.map (Interface.describeInput method) = descriptors.map .ok) :
    ∃ parameters, inputs.mapM parameter? = some parameters ∧
      parameters.map Parameter.descriptor = descriptors ∧
      ∀ parameter ∈ parameters, parameter.IsTabled := by
  induction inputs generalizing descriptors with
  | nil =>
    have none : descriptors = [] := by
      rw [List.map_nil, eq_comm, List.map_eq_nil_iff] at described
      exact described
    exact ⟨[], rfl, none.symm, fun _ member => nomatch member⟩
  | cons input inputs hypothesis =>
    cases descriptors with
    | nil => exact nomatch described
    | cons descriptor descriptors =>
      obtain ⟨first, others⟩ := List.cons.inj described
      obtain ⟨parameter, found, same, tabled⟩ := parameter?_of_describeInput first
      obtain ⟨parameters, rest, behind, allTabled⟩ := hypothesis others
      refine ⟨parameter :: parameters, ?_, ?_, ?_⟩
      · rw [List.mapM_cons, found, rest]
        rfl
      · rw [List.map_cons, same, behind]
      · intro other member
        rcases List.mem_cons.mp member with rfl | later
        · exact tabled
        · exact allTabled other later

/-- The described parameters of a signature are those of its declaration. -/
theorem parameters?_of_parameters {signature : Signature} {descriptors : List ParameterDescriptor}
    (described : Interface.parameters signature = .ok descriptors) :
    ∃ parameters, parameters? signature = some parameters ∧
      parameters.map Parameter.descriptor = descriptors ∧
      ∀ parameter ∈ parameters, parameter.IsTabled :=
  mapM_parameter? _ (Interface.parameters_eq_ok described).2

/-- The query of a described method is the literal of its only query attribute. -/
theorem query?_of_describeQuery {method : Method} {first : Attribute} {others : List Attribute}
    {descriptor : MethodDescriptor}
    (marks : method.attributes.filter Interface.isQuery = first :: others)
    (described : Interface.describeQuery method first others = .ok descriptor) :
    query? method = some descriptor.query := by
  obtain ⟨_, read, _, _⟩ := Interface.describeQuery_eq_ok described
  obtain ⟨rfl, argument⟩ := Interface.query_eq_ok read
  rw [query?, marks]
  simp only [argument]
  rfl

/-- The extraction answers what the shape means, and leaves the steps that the shape leaves. -/
def Extracts (extract : Extract) (shape : ReturnShape) (statement : Statement) : Prop :=
  outcome? (statement.outcome statement.slots) shape = some (extract.run statement).1 ∧
    (extract.run statement).2.steps = untaken (statement.outcome statement.slots) shape

/-- A statement is queried with the values of its placeholders, from its first step on. -/
theorem query_eq (statement : Statement) :
    statement.query = ⟨statement.outcome statement.slots, none⟩ := rfl

/-- Finishing a statement extracts nothing. -/
theorem extracts_finish (statement : Statement) : Extracts .finish .void statement := by
  obtain ⟨result, left⟩ := Prod.mk.inj
    (ResultSource.finish_cursor (statement.outcome statement.slots) none)
  rw [Extracts, Extract.run, query_eq]
  refine ⟨?_, left⟩
  dsimp only
  rw [outcome?, result, Except.map_map]

/-- A result set holds the rows of all steps. -/
theorem extracts_resultSet (statement : Statement) : Extracts .resultSet .cursor statement := by
  obtain ⟨result, left⟩ := Prod.mk.inj
    (ResultSet.collect_cursor (statement.outcome statement.slots) none)
  rw [Extracts, Extract.run, query_eq]
  refine ⟨?_, left⟩
  dsimp only
  rw [outcome?, result, Except.map_map]

/-- A single value is extracted from the first step. -/
theorem extracts_scalar (accessor : Accessor) (statement : Statement) :
    Extracts (.scalar accessor) (.scalar accessor.type) statement := by
  have observed := ResultSource.first_cursor accessor.type
    (statement.outcome statement.slots) none
  rw [accessor.read_type] at observed
  rw [Extracts, Extract.run, query_eq]
  cases stepped : statement.outcome statement.slots with
  | nil => exact ⟨rfl, rfl⟩
  | cons step rest =>
    rw [stepped] at observed
    obtain ⟨result, left⟩ := Prod.mk.inj observed
    refine ⟨?_, left⟩
    dsimp only
    rw [outcome?, Extract.valueColumn, result]

/-- A list holds the values of all steps in their order. -/
theorem extracts_list (accessor : Accessor) (statement : Statement) :
    Extracts (.collection .list accessor) (.collection .list accessor.type) statement := by
  have observed := ResultSource.drain_cursor (statement.outcome statement.slots)
    (#[] : Array accessor.type.Carrier) none
  rw [accessor.read_type] at observed
  obtain ⟨result, left⟩ := Prod.mk.inj observed
  unfold Extracts Extract.run
  rw [query_eq]
  refine ⟨?_, left⟩
  dsimp only
  rw [outcome?, ResultSource.toList, Extract.valueColumn, result, Except.map_map]
  simp only [Collection.foldl_insert_array]

/-- A set is made by inserting one element after the other; this keeps the first of equal ones. -/
theorem extracts_set {accessor : Accessor} (ordered : accessor.type.order?.isSome)
    (statement : Statement) :
    Extracts (.collection .set accessor) (.collection .set accessor.type) statement := by
  obtain ⟨order, found⟩ := Option.isSome_iff_exists.mp ordered
  have transitive := ValueType.transOrd_of_order? found
  have observed := ResultSource.drain_cursor (statement.outcome statement.slots)
    (⟨[]⟩ : SortedSet accessor.type.Carrier) none
  rw [accessor.read_type] at observed
  obtain ⟨result, left⟩ := Prod.mk.inj observed
  have made : ∀ elements : List accessor.type.Carrier,
      elements.foldl Collection.insert (⟨[]⟩ : SortedSet accessor.type.Carrier) =
        .ofList elements :=
    SortedSet.foldl_insert_nil
  unfold Extracts Extract.run
  rw [query_eq]
  simp only [found]
  refine ⟨?_, left⟩
  unfold outcome?
  simp only [found]
  rw [ResultSource.toSortedSet, Extract.valueColumn, result, Except.map_map]
  simp only [made]

/-- What is extracted from the steps of a statement is what the shape means. -/
theorem extracts_of_extractOf? {shape : ReturnShape} {extract : Extract}
    (extracted : CompiledMethod.extractOf? shape = some extract)
    (ordered : Mapping.IsOrdered shape) (statement : Statement) :
    Extracts extract shape statement := by
  cases shape with
  | void =>
    obtain rfl := Option.some.inj extracted
    exact extracts_finish statement
  | cursor =>
    obtain rfl := Option.some.inj extracted
    exact extracts_resultSet statement
  | scalar type =>
    obtain ⟨accessor, tabled, rfl⟩ := Option.map_eq_some_iff.mp extracted
    obtain rfl := ValueType.accessor?_eq_some tabled
    exact extracts_scalar accessor statement
  | collection kind type =>
    obtain ⟨accessor, tabled, rfl⟩ := Option.map_eq_some_iff.mp extracted
    obtain rfl := ValueType.accessor?_eq_some tabled
    cases kind with
    | list => exact extracts_list accessor statement
    | set => exact extracts_set ordered statement

/-- The bindings and the extraction that a declaration asks for take the course that it means. -/
theorem course_ofParts {signature : Signature} {parameters : List Parameter}
    {returned : ReturnDescriptor} {extract : Extract} {arguments : CallArguments}
    (declared : parameters? signature = some parameters)
    (tabled : ∀ parameter ∈ parameters, parameter.IsTabled)
    (resolved : returned? signature = some returned)
    (extracted : CompiledMethod.extractOf? returned.shape = some extract)
    (ordered : Mapping.IsOrdered returned.shape)
    (suits : ∀ parameter ∈ parameters, Suits arguments parameter) (statement : Statement) :
    course? signature arguments statement =
      some (Execution.ofParts (bindings parameters) extract
        (parameters.map fun parameter => arguments parameter.name.text) statement).course := by
  have bound := CompiledMethod.bindAll_bindingsFrom arguments parameters tabled suits 0 statement
    (Nat.zero_le _)
  rw [bindingsFrom_one, Nat.zero_add] at bound
  rw [course?, declared, resolved, Execution.ofParts, bound]
  by_cases reachable : parameters.length ≤ statement.addressable
  · obtain ⟨result, left⟩ := extracts_of_extractOf? extracted ordered
      (CompiledMethod.filled statement 0 parameters arguments)
    have slots : (CompiledMethod.filled statement 0 parameters arguments).slots =
        parameters.map (fun parameter => (arguments parameter.name.text).held) ++
          statement.slots.drop parameters.length := by
      rw [CompiledMethod.filled, Nat.zero_add, List.take_zero, List.nil_append]
    have kept : (CompiledMethod.filled statement 0 parameters arguments).outcome =
        statement.outcome := rfl
    rw [slots, kept] at result left
    simp only [if_pos reachable, Option.bind_eq_bind, Option.bind_some]
    rw [result, Option.bind_some, Execution.course, Option.map_some, slots, left]
    rfl
  · simp only [if_neg reachable, Option.bind_eq_bind, Option.bind_some]
    rfl

/-- A method was compiled from a declared one: it has its query, binds its parameters in their
order, and extracts and answers as its return type says. -/
structure Compiles (declared : Method) (parameters : List Parameter) (compiled : CompiledMethod) :
    Prop where
  signature : compiled.signature = declared.signature
  query : query? declared = some compiled.query
  declares : parameters? declared.signature = some parameters
  tabled : ∀ parameter ∈ parameters, parameter.IsTabled
  bindings : compiled.bindings = bindings parameters
  returns : ∃ returned, returned? declared.signature = some returned ∧
    CompiledMethod.extractOf? returned.shape = some compiled.extract ∧
    Mapping.IsOrdered returned.shape ∧ returned.failure = compiled.failure

/-- Every method of a described interface that can be compiled was compiled from a declared one. -/
theorem exists_compiles {declaration : TraitDeclaration} {interface : InterfaceDescriptor}
    {descriptor : MethodDescriptor} {compiled : CompiledMethod}
    (described : Interface.describe declaration = .ok interface)
    (member : descriptor ∈ interface.methods)
    (accepted : CompiledMethod.ofDescriptor descriptor = .ok compiled) :
    ∃ declared parameters, TraitItem.method declared ∈ declaration.items ∧
      Interface.describeMethod interface.name declared = some (.ok descriptor) ∧
      Compiles declared parameters compiled := by
  obtain ⟨declared, first, others, item, marks, query⟩ :=
    Interface.exists_method_of_mem described member
  obtain ⟨_, named, _, _⟩ := Interface.describe_eq_ok described
  obtain ⟨_, read, parametric, signature⟩ := Interface.describeQuery_eq_ok query
  obtain ⟨parameters, found, descriptors, tabled⟩ := parameters?_of_parameters parametric
  obtain ⟨returned, resolved, extracted, failure, sameSignature, sameQuery, bound⟩ :=
    CompiledMethod.ofDescriptor_eq_ok accepted
  rw [signature] at resolved
  refine ⟨declared, parameters, item, ?_, ?_⟩
  · rw [named, Interface.describeMethod, marks]
    exact congrArg some query
  · exact
      { signature := by rw [sameSignature, signature]
        query := by rw [sameQuery]; exact query?_of_describeQuery marks query
        declares := found
        tabled := tabled
        bindings := by rw [bound, ← descriptors, bindingsFrom_one]
        returns := ⟨returned, by rw [returned?, resolved]; rfl, extracted,
          Mapping.isOrdered_of_resolveReturn resolved, failure⟩ }

section

variable {declared : Method} {parameters : List Parameter} {compiled : CompiledMethod}
  {arguments : CallArguments}

/-- A compiled method takes the course that its declaration means. -/
theorem Compiles.course (compiles : Compiles declared parameters compiled)
    (fits : Fits arguments declared.signature) (statement : Statement) :
    course? declared.signature arguments statement =
      some (compiled.execute (arguments.inOrder compiled.bindings) statement).course := by
  obtain ⟨returned, returns, extracted, ordered, _⟩ := compiles.returns
  rw [CompiledMethod.execute, compiles.bindings, ← bindingsFrom_one, arguments_bindingsFrom,
    bindingsFrom_one]
  exact course_ofParts compiles.declares compiles.tabled returns extracted ordered
    (fits parameters compiles.declares) statement

/-- A call of a compiled method is answered as its declaration means. -/
theorem Compiles.call (compiles : Compiles declared parameters compiled)
    (fits : Fits arguments declared.signature)
    (prepare : String → Except DatabaseError Statement) :
    call? declared arguments prepare =
      some (compiled.call (arguments.inOrder compiled.bindings)
        (prepare compiled.query.value)) := by
  obtain ⟨returned, returns, _, _, failure⟩ := compiles.returns
  unfold CompiledMethod.call
  rw [call?, compiles.query, returns]
  simp only [Option.bind_eq_bind, Option.bind_some, failure]
  cases prepare compiled.query.value with
  | error error => rfl
  | ok statement =>
    dsimp only
    rw [compiles.course fits statement]
    rfl

end

end Meaning

namespace Meaning.Sample

/-- A name at the start of the text. -/
def name (text : String) : Name :=
  ⟨text, .callSite⟩

/-- `fn all(&self, least: i64) -> Vec<i64>` -/
def signature : Signature where
  constness := none
  asyncness := none
  unsafety := none
  abi := none
  keyword := .callSite
  name := name "all"
  generics := .none
  opening := .callSite
  closing := .callSite
  inputs :=
    [⟨.receiver [] (some (.callSite, none)) none .callSite none, some .callSite⟩,
      ⟨.typed [] (.named none none (name "least") none) .callSite
        (.path [] (name "i64") .none), none⟩]
  variadic := none
  output := some ⟨.callSite, .path [] (name "Vec")
    (.angled none .callSite [.type (.path [] (name "i64") .none) none] .callSite)⟩

/-- `#[query("q")]` -/
def mark : Attribute :=
  ⟨.callSite, none, .callSite, .callSite, ⟨none, [], name "query"⟩,
    .list .parenthesis .callSite .callSite [.literal "\"q\"" .callSite]⟩

/-- The method behind its query attribute. -/
def method : Method :=
  ⟨[mark], signature, none, .callSite⟩

/-- A trait with the one method. -/
def declaration : TraitDeclaration :=
  ⟨[], [], none, none, .callSite, name "Numbers", .none, .callSite, [], .callSite, .callSite,
    [.method method]⟩

/-- What the sample method is described as. -/
def descriptor : MethodDescriptor :=
  ⟨name "all", signature, [⟨name "least", .bigInt⟩], ⟨"\"q\"", .callSite⟩⟩

/-- What the sample method is compiled to. -/
def compiled : CompiledMethod :=
  ⟨signature, ⟨"\"q\"", .callSite⟩, [⟨1, name "least", .bigInt⟩], .collection .list .i64,
    .unchecked⟩

/-- Every argument of the sample is the number seven. -/
def arguments : CallArguments := fun _ => .typed .long 7

/-- A statement that answers its argument and then the number one. -/
def statement : Statement :=
  .unbound 1 fun slots => [.row slots, .row [.integer 1]]

/-- The argument of the sample has the type of the parameter. -/
theorem fits_arguments : Fits arguments method.signature := by
  intro parameters found parameter member
  have known : parameters = [⟨name "least", .long, .bigInt⟩] := (Option.some.inj found).symm
  rw [known, List.mem_singleton] at member
  rw [member]
  exact ⟨7, rfl⟩

end Meaning.Sample

section

open Meaning.Sample

end

end DataAccess
