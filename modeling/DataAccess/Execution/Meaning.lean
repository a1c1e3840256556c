/-
This file says what a declared method means, however it is compiled. The arguments are bound in the
order of their parameters, and what the steps bring is read as the declared return type says.
-/

import DataAccess.Execution.GeneratedMethod

namespace DataAccess

namespace Step

/-- The row that a step reaches. -/
def reached : Step → Except ExecutionError Row
  | .row values => .ok values
  | .unreadable error => .error error
  | .failure error => .error error

/-- What is left of the steps behind one that has been taken. -/
def leaves : Step → List Step → List Step
  | .failure _, _ => []
  | .row _, rest => rest
  | .unreadable _, rest => rest

end Step

namespace Bindable

/-- What a placeholder holds once the argument is bound to it. -/
def held : Bindable → Value
  | .typed type value => (type.store value).bound
  | .unsigned value => .integer value.toInt64
  | .missing => .null

end Bindable

/-- The reading of a stored value as a value of the type. -/
def ValueType.read : (type : ValueType) → Reader type.Carrier
  | .byte => Reader.byte
  | .short => Reader.short
  | .int => Reader.int
  | .long => Reader.long
  | .float => Reader.float
  | .double => Reader.double
  | .bool => Reader.bool
  | .string => Reader.string
  | .borrowed => Reader.string
  | .date => Reader.dated Date.read
  | .time => Reader.dated Time.read
  | .dateTime => Reader.dated DateTime.read
  | .instant => Reader.dated Instant.read
  | .offsetDateTime => Reader.dated OffsetDateTime.read
  | .blob => Reader.blob
  | .anyValue => Reader.anyValue

/-- The first of each class of equal elements, in their order. -/
def firstOfEach {Element : Type} [Ord Element] : List Element → List Element
  | [] => []
  | element :: rest =>
      element :: (firstOfEach rest).filter fun other => compare element other != .eq

/-- The set of the elements of a list. -/
def SortedSet.ofList {Element : Type} [Ord Element] (elements : List Element) :
    SortedSet Element :=
  ⟨(firstOfEach elements).mergeSort fun first second => (compare first second).isLE⟩

namespace Meaning

/-- A parameter with the type and the tag of its declaration. -/
structure Parameter where
  name : Name
  type : ValueType
  tag : WireTag

def parameter? : Input → Option Parameter
  | .typed _ (.named none _ name none) _ declared =>
      match Mapping.resolveParameter declared with
      | .ok (type, tag) => some ⟨name, type, tag⟩
      | .error _ => none
  | _ => none

/-- The parameters behind the receiver. -/
def parameters? (signature : Signature) : Option (List Parameter) :=
  signature.arguments.tail.mapM parameter?

/-- The bindings of parameters, numbered from one. -/
def bindings (parameters : List Parameter) : List Binding :=
  parameters.mapIdx fun index parameter => ⟨index + 1, parameter.name, parameter.tag⟩

/-- The argument of a parameter has the type that the parameter declares. -/
def Suits (arguments : CallArguments) (parameter : Parameter) : Prop :=
  ∃ value, arguments parameter.name.text = .typed parameter.type value

/-- Every argument has the type that its parameter declares. -/
def Fits (arguments : CallArguments) (signature : Signature) : Prop :=
  ∀ parameters, parameters? signature = some parameters →
    ∀ parameter ∈ parameters, Suits arguments parameter

/-- The literal of the only query attribute. -/
def query? (declared : Method) : Option StringLiteral :=
  match declared.attributes.filter Interface.isQuery with
  | [mark] => mark.stringArgument.toOption
  | _ => none

def returned? (signature : Signature) : Option ReturnDescriptor :=
  (Mapping.resolveReturn (signature.output.map ReturnType.declared)).toOption

/-- The first column of the row that a step reaches. -/
def value (type : ValueType) (step : Step) : Except ExecutionError type.Carrier := do
  ResultSource.readColumn (← step.reached) 1 type.read

/-- What a list of steps means for a return shape. All steps are taken, and the first that fails is
the failure of all; for a single value only the first step counts. A set needs an order. -/
def outcome? (steps : List Step) : ReturnShape → Option (Except ExecutionError Outcome)
  | .void => some ((steps.mapM Step.reached).map fun _ => .unit)
  | .cursor => some ((steps.mapM Step.reached).map fun rows => .rows (.ofRows rows))
  | .scalar type =>
      match steps with
      | [] => some (.error (.database .noRows))
      | step :: _ => some ((value type step).map (.scalar type))
  | .collection .list type =>
      some ((steps.mapM (value type)).map fun values => .list type values.toArray)
  | .collection .set type =>
      match type.order? with
      | some _ => some ((steps.mapM (value type)).map fun values => .set type (.ofList values))
      | none => none

/-- The steps that are left when all are taken up to the first that fails. -/
def untakenBy {Result : Type} (result : Step → Except ExecutionError Result) :
    List Step → List Step
  | [] => []
  | step :: rest =>
      match result step with
      | .ok _ => untakenBy result rest
      | .error _ => step.leaves rest

/-- The steps that are left for a return shape. -/
def untaken (steps : List Step) : ReturnShape → List Step
  | .void => untakenBy Step.reached steps
  | .cursor => untakenBy Step.reached steps
  | .scalar _ =>
      match steps with
      | [] => []
      | step :: rest => step.leaves rest
  | .collection _ type => untakenBy (value type) steps

/-- The course of an execution: its result, and the values of the placeholders with the steps that
are left, if any step could be taken. -/
structure Course where
  result : Except ExecutionError Outcome
  stepped? : Option (List Value × List Step)

/-- The course of a call on a prepared statement. When there are more parameters than placeholders,
no step is taken. -/
def course? (signature : Signature) (arguments : CallArguments) (statement : Statement) :
    Option Course := do
  let parameters ← parameters? signature
  let returned ← returned? signature
  if parameters.length ≤ statement.addressable then do
    let slots := parameters.map (fun parameter => (arguments parameter.name.text).held) ++
      statement.slots.drop parameters.length
    let result ← outcome? (statement.outcome slots) returned.shape
    return ⟨result, some (slots, untaken (statement.outcome slots) returned.shape)⟩
  else return ⟨.error (.database .positionOutOfRange), none⟩

/-- What the caller of a declared method sees. -/
def call? (declared : Method) (arguments : CallArguments)
    (prepare : String → Except DatabaseError Statement) : Option Answer := do
  let literal ← query? declared
  let returned ← returned? declared.signature
  match prepare literal.value with
  | .error error => return returned.failure.answer (.error (.database error))
  | .ok statement => do
      let course ← course? declared.signature arguments statement
      return returned.failure.answer course.result

end Meaning

/-- The course that an execution took. -/
def Execution.course (execution : Execution) : Meaning.Course :=
  ⟨execution.result, execution.stepped?.map fun stepped =>
    (stepped.1.slots, stepped.2.steps)⟩

end DataAccess
