/-
This file says which errors a marked trait has. Each part of its declaration has errors of its own,
and they stand in the order of the parts.
-/

import DataAccess.Compile.WellFormed

namespace DataAccess

namespace TraitDeclaration

/-- Where the trait has a feature that it must not have. -/
def place? (declaration : TraitDeclaration) : TraitFeature → Option Position
  | .generics =>
      if declaration.generics.isPresent then some declaration.generics.position else none
  | .unsafety => declaration.unsafety
  | .automatic => declaration.automatic
  | .supertraits =>
      if declaration.supertraits.isEmpty then none
      else some (Token.startOf declaration.supertraitCode.tokens)

/-- The errors of the trait itself, one for each such feature. -/
def ownErrors (declaration : TraitDeclaration) : List CompileError :=
  [TraitFeature.generics, .unsafety, .automatic, .supertraits].filterMap fun feature =>
    (declaration.place? feature).map (.unsupportedTrait declaration.name · feature)

end TraitDeclaration

namespace Signature

/-- Where the signature has a feature that it must not have. -/
def place? (signature : Signature) : MethodFeature → Option Position
  | .constness => signature.constness
  | .asyncness => signature.asyncness
  | .unsafety => signature.unsafety
  | .abi => signature.abi.map Abi.position
  | .generics =>
      if signature.generics.isPresent then some signature.generics.position else none
  | .variadic => signature.variadic.map Variadic.position

/-- The errors of the signature, one for each such feature. -/
def featureErrors (signature : Signature) : List CompileError :=
  [MethodFeature.constness, .asyncness, .unsafety, .abi, .generics, .variadic].filterMap
    fun feature => (signature.place? feature).map (.unsupportedMethod signature.name · feature)

/-- The first input is a receiver by reference, or there is an error at it. Without an input the
error is at the name. -/
inductive HasReceiver (signature : Signature) : Option CompileError → Prop
  | reference {receiver : Input} {others : List Input}
      (listed : signature.arguments = receiver :: others) (reference : receiver.IsReference) :
      signature.HasReceiver none
  | missing (listed : signature.arguments = []) :
      signature.HasReceiver (some (.badReceiver signature.name signature.name.position))
  | other {first : Input} {others : List Input} (listed : signature.arguments = first :: others)
      (other : ¬ first.IsReference) :
      signature.HasReceiver (some (.badReceiver signature.name first.position))

end Signature

/-- An attribute holds the query of a method, or there is one error about it. -/
inductive Attribute.HasQuery (method : Name) (mark : Attribute) : Option CompileError → Prop
  | written {literal : StringLiteral} (holds : mark.Holds literal) (written : literal.IsWritten) :
      mark.HasQuery method none
  | blank {literal : StringLiteral} (holds : mark.Holds literal) (blank : ¬ literal.IsWritten) :
      mark.HasQuery method (some (.emptyQuery method literal.position))
  | malformed {error : SyntaxError} (failed : mark.stringArgument = .error error) :
      mark.HasQuery method (some (.badAttribute error))

/-- A pattern that is a name and nothing else, apart from `mut`. -/
inductive Pattern.IsPlain : Pattern → Name → Prop
  | named (mutability : Option Position) (name : Name) :
      IsPlain (.named none mutability name none) name

/-- An input behind the first one can be bound, or there is one error about it. -/
inductive Input.HasParameter (method : Name) : Input → Option CompileError → Prop
  | parameter {input : Input} {parameter : ParameterDescriptor}
      (declared : input.Declares parameter) : HasParameter method input none
  | receiver (attributes : List Attribute) (reference : Option (Position × Option Name))
      (mutability : Option Position) (self : Position)
      (ascription : Option (Position × DeclaredType)) :
      HasParameter method (.receiver attributes reference mutability self ascription) (some
        (.badReceiver method
          (Input.receiver attributes reference mutability self ascription).position))
  | pattern {pattern : Pattern} (nameless : ∀ name, ¬ pattern.IsPlain name)
      (attributes : List Attribute) (colon : Position) (declared : DeclaredType) :
      HasParameter method (.typed attributes pattern colon declared)
        (some (.patternParameter method pattern.position))
  | type {pattern : Pattern} {name : Name} (plain : pattern.IsPlain name) {declared : DeclaredType}
      {reason : Rejection} (unsupported : Mapping.resolveParameter declared = .error reason)
      (attributes : List Attribute) (colon : Position) :
      HasParameter method (.typed attributes pattern colon declared) (some
        (.unsupportedParameter method name declared.text declared.position reason))

/-- The errors of a method with a query, part by part. -/
structure QueryErrors where
  features : List CompileError
  body : Option CompileError
  duplicates : List CompileError
  query : Option CompileError
  receiver : Option CompileError
  inputs : List (Option CompileError)

/-- The errors in the order in which they are reported. -/
def QueryErrors.listed (errors : QueryErrors) : List CompileError :=
  errors.features ++ errors.body.toList ++ errors.duplicates ++ errors.query.toList ++
    errors.receiver.toList ++ errors.inputs.reduceOption

namespace Method

/-- The errors of a method with a query: of its signature, for a body, for each query attribute
behind the first one, about the first one, about the receiver, and about each input behind it. -/
structure HasErrors (method : Method) (first : Attribute) (others : List Attribute)
    (errors : QueryErrors) : Prop where
  features : errors.features = method.signature.featureErrors
  body : errors.body = method.body.map fun body =>
    .queryWithBody method.signature.name body.opening
  duplicates : errors.duplicates = others.map fun other =>
    .duplicateQuery method.signature.name other.pound first.pound
  query : first.HasQuery method.signature.name errors.query
  receiver : method.signature.HasReceiver errors.receiver
  inputs : List.Forall₂ (Input.HasParameter method.signature.name) method.signature.arguments.tail
    errors.inputs

/-- Nothing is wrong with the method: it is provided, or an implementation can be generated. -/
def IsValid (method : Method) : Prop :=
  (method.isQueried = false ∧ method.IsProvided) ∨ method.IsGenerated

end Method

/-- An item of a trait of the name has the errors. -/
inductive TraitItem.HasErrors (interface : Name) : TraitItem → List CompileError → Prop
  | queried {method : Method} {first : Attribute} {others : List Attribute} {errors : QueryErrors}
      (marks : method.attributes.filter Interface.isQuery = first :: others)
      (has : method.HasErrors first others errors) :
      HasErrors interface (.method method) errors.listed
  | provided {method : Method} (unmarked : method.isQueried = false)
      (provided : method.IsProvided) : HasErrors interface (.method method) []
  | missing {method : Method} (unmarked : method.isQueried = false)
      (bodiless : method.body = none) :
      HasErrors interface (.method method) [.missingQuery interface method.signature.name]
  | undispatchable {method : Method} {body : Body} {position : Position}
      {obstacle : DispatchObstacle} (unmarked : method.isQueried = false)
      (bodied : method.body = some body)
      (hindered : Interface.dispatchObstacle? method.signature = some (position, obstacle)) :
      HasErrors interface (.method method)
        [.undispatchableMethod interface method.signature.name position obstacle]
  | other (code : Code) :
      HasErrors interface (.other code) [.unsupportedItem interface (TraitItem.other code).position]

/-- The trait has its own errors and then those of its items, in the order of their declaration. -/
def TraitDeclaration.HasErrors (declaration : TraitDeclaration) (errors : List CompileError) :
    Prop :=
  ∃ listed, List.Forall₂ (TraitItem.HasErrors declaration.name) declaration.items listed ∧
    errors = declaration.ownErrors ++ listed.flatten

end DataAccess
