/-
This file describes marked traits. All problems of a trait are reported together, and the trait is
always answered without its query markers, so that it can be emitted when nothing else can.
-/

import DataAccess.Compile.CompileError
import DataAccess.Parse.Parser
import DataAccess.Text.Whitespace

namespace DataAccess

structure ParameterDescriptor where
  name : Name
  tag : WireTag

structure MethodDescriptor where
  name : Name
  signature : Signature
  parameters : List ParameterDescriptor
  query : StringLiteral

structure InterfaceDescriptor where
  name : Name
  visibility : Code
  methods : List MethodDescriptor

/-- The problems that a result tells. -/
def problemsOf {Problem Value : Type} : Except (List Problem) Value → List Problem
  | .ok _ => []
  | .error problems => problems

/-- Keeps the values only when there is no problem at all, and otherwise every problem. -/
def collectAll {Problem Value : Type} (results : List (Except (List Problem) Value)) :
    Except (List Problem) (List Value) :=
  let problems := results.flatMap problemsOf
  if problems.isEmpty then
    .ok (results.filterMap Except.toOption)
  else .error problems

namespace Attribute

/-- The string literal that is the only argument of an attribute. It stands there by itself, since
no text holds it in an invisible group. -/
def stringArgument (mark : Attribute) : Except SyntaxError StringLiteral :=
  let style := if mark.isInner then "#!" else "#"
  match mark.content with
  | .bare =>
      .error ⟨⟨.missingArguments style mark.path.shown, mark.path.first.position⟩, []⟩
  | .value equals _ =>
      .error ⟨⟨.missingParentheses style mark.path.shown, equals⟩, []⟩
  | .list _ _ closing inner => Parser.runWithin closing Parser.stringLiteral inner

end Attribute

namespace Interface

def queryMarker : String := "query"

def isQuery (mark : Attribute) : Bool :=
  mark.isMarker queryMarker

def cleanedMethod (method : Method) : Method :=
  { method with attributes := method.attributes.filter fun mark => !isQuery mark }

def cleanedItem : TraitItem → TraitItem
  | .method method => .method (cleanedMethod method)
  | .other code => .other code

/-- The trait without the query markers of its methods. -/
def cleaned (declaration : TraitDeclaration) : TraitDeclaration :=
  { declaration with items := declaration.items.map cleanedItem }

/-- The trait's own problems, in the order in which they are looked for. -/
def traitErrors (declaration : TraitDeclaration) : List CompileError :=
  let unsupported (position : Position) (feature : TraitFeature) : CompileError :=
    .unsupportedTrait declaration.name position feature
  (if declaration.generics.isPresent then
      [unsupported declaration.generics.position .generics] else []) ++
    (declaration.unsafety.map (unsupported · .unsafety)).toList ++
    (declaration.automatic.map (unsupported · .automatic)).toList ++
    (if declaration.supertraits.isEmpty then []
      else [unsupported (Token.startOf declaration.supertraitCode.tokens) .supertraits])

/-- What the signature of a method with a query must not have. -/
def signatureErrors (signature : Signature) : List CompileError :=
  let unsupported (position : Position) (feature : MethodFeature) : CompileError :=
    .unsupportedMethod signature.name position feature
  (signature.constness.map (unsupported · .constness)).toList ++
    (signature.asyncness.map (unsupported · .asyncness)).toList ++
    (signature.unsafety.map (unsupported · .unsafety)).toList ++
    (signature.abi.map fun abi => unsupported abi.position .abi).toList ++
    (if signature.generics.isPresent then
        [unsupported signature.generics.position .generics] else []) ++
    (signature.variadic.map fun variadic => unsupported variadic.position .variadic).toList

def isSelfType : DeclaredType → Bool
  | .path [] last .none => last.text == "Self"
  | _ => false

def isSizedBound : Bound → Bool
  | .named _ none _ _ last _ => last.text == "Sized"
  | _ => false

def requiresSizedIn : Predicate → Bool
  | .type _ bounded _ bounds =>
      isSelfType bounded && bounds.any fun bound => isSizedBound bound.entry
  | .lifetime _ => false

/-- A method whose conditions bound `Self` by `Sized` is kept off the trait object. -/
def requiresSized (signature : Signature) : Bool :=
  match signature.generics.whereClause with
  | some clause => clause.predicates.any fun predicate => requiresSizedIn predicate.entry
  | none => false

def isReceiver : Input → Bool
  | .receiver _ _ _ _ _ => true
  | .typed _ _ _ _ => false

def inputType? : Input → Option DeclaredType
  | .typed _ _ _ declared => some declared
  | .receiver _ _ _ _ _ => none

/-- The types that a signature names, inputs first. -/
def namedTypes (signature : Signature) : List DeclaredType :=
  signature.arguments.filterMap inputType? ++
    (signature.output.map ReturnType.declared).toList

def typeObstacle? (declared : DeclaredType) : Option (Position × DispatchObstacle) :=
  if Token.anyMentions "impl" declared.tokens then some (declared.position, .opaqueType)
  else if Token.anyMentions "Self" declared.tokens then some (declared.position, .selfType)
  else none

/-- Why a provided method would stop the trait from being used as an object. -/
def dispatchObstacle? (signature : Signature) : Option (Position × DispatchObstacle) :=
  if requiresSized signature then none
  else
    match (Separated.entries signature.generics.parameters).find?
        fun parameter => !parameter.isLifetime with
    | some parameter => some (parameter.position, .typeParameter)
    | none =>
        if !signature.arguments.head?.any isReceiver then
          some (signature.name.position, .noReceiver)
        else
          match signature.asyncness with
          | some position => some (position, .asyncness)
          | none => (namedTypes signature).findSome? typeObstacle?

/-- A receiver is taken by reference and has no type of its own. -/
def isReferenceReceiver : Input → Bool
  | .receiver _ reference _ _ ascription => reference.isSome && ascription.isNone
  | .typed _ _ _ _ => false

def receiverErrors (signature : Signature) : List CompileError :=
  match signature.arguments with
  | [] => [.badReceiver signature.name signature.name.position]
  | first :: _ =>
      if isReferenceReceiver first then [] else [.badReceiver signature.name first.position]

def describeTyped (method : Name) (pattern : Pattern) (declared : DeclaredType) :
    Except (List CompileError) ParameterDescriptor :=
  match pattern with
  | .named none _ name none =>
      match Mapping.resolveParameter declared with
      | .ok (_, tag) => .ok ⟨name, tag⟩
      | .error reason =>
          .error [.unsupportedParameter method name declared.text declared.position reason]
  | _ => .error [.patternParameter method pattern.position]

def describeInput (method : Name) (input : Input) :
    Except (List CompileError) ParameterDescriptor :=
  match input with
  | .typed _ pattern _ declared => describeTyped method pattern declared
  | .receiver _ _ _ _ _ => .error [.badReceiver method input.position]

/-- The parameters behind the receiver. -/
def parameters (signature : Signature) : Except (List CompileError) (List ParameterDescriptor) :=
  let described := collectAll (signature.arguments.tail.map (describeInput signature.name))
  match receiverErrors signature, described with
  | [], .ok found => .ok found
  | [], .error errors => .error errors
  | errors, .ok _ => .error errors
  | first, .error second => .error (first ++ second)

/-- The query of a method from its query attributes, of which there is at least one. -/
def query (method : Name) (first : Attribute) (others : List Attribute) :
    Except (List CompileError) StringLiteral :=
  let duplicates : List CompileError :=
    others.map fun other => .duplicateQuery method other.pound first.pound
  match first.stringArgument with
  | .ok literal =>
      if Text.isBlank literal.value then
        .error (duplicates ++ [.emptyQuery method literal.position])
      else if duplicates.isEmpty then .ok literal
      else .error duplicates
  | .error error => .error (duplicates ++ [.badAttribute error])

def bodyErrors (method : Method) : List CompileError :=
  (method.body.map fun body =>
    CompileError.queryWithBody method.signature.name body.opening).toList

/-- A method with a query. -/
def describeQuery (method : Method) (first : Attribute) (others : List Attribute) :
    Except (List CompileError) MethodDescriptor :=
  let signature := method.signature
  let early := signatureErrors signature ++ bodyErrors method
  let query := query signature.name first others
  let parameters := parameters signature
  match early, query, parameters with
  | [], .ok literal, .ok found => .ok ⟨signature.name, signature, found, literal⟩
  | _, _, _ => .error (early ++ problemsOf query ++ problemsOf parameters)

/-- A method without a query needs a default body, and must not hinder the use as an object. -/
def describeProvided (interface : Name) (method : Method) :
    Option (Except (List CompileError) MethodDescriptor) :=
  let name := method.signature.name
  match method.body with
  | none => some (.error [.missingQuery interface name])
  | some _ =>
      (dispatchObstacle? method.signature).map fun (position, obstacle) =>
        .error [.undispatchableMethod interface name position obstacle]

def describeMethod (interface : Name) (method : Method) :
    Option (Except (List CompileError) MethodDescriptor) :=
  match method.attributes.filter isQuery with
  | [] => describeProvided interface method
  | first :: others => some (describeQuery method first others)

/-- The description of an item of a trait, or its problems; a provided method has neither. -/
def describeItem (interface : Name) (item : TraitItem) :
    Option (Except (List CompileError) MethodDescriptor) :=
  match item with
  | .method method => describeMethod interface method
  | .other _ => some (.error [.unsupportedItem interface item.position])

/-- The description of a marked trait. -/
def describe (declaration : TraitDeclaration) :
    Except (List CompileError) InterfaceDescriptor :=
  let early := traitErrors declaration
  match collectAll (declaration.items.filterMap (describeItem declaration.name)) with
  | .ok methods =>
      if early.isEmpty then .ok ⟨declaration.name, declaration.visibility, methods⟩
      else .error early
  | .error errors => .error (early ++ errors)

end Interface

end DataAccess
