/-
This file says what has to be told of the types of a marked trait: each type that cannot be bound or
returned is an error of its own, at the place of the type.
-/

import DataAccess.Compile.WellFormed

namespace DataAccess

/-- The error for a parameter with a plain name whose type cannot be bound. -/
def Input.unsupported? (method : Name) : Input → Option CompileError
  | .typed _ (.named none _ name none) _ declared =>
      match Mapping.resolveParameter declared with
      | .ok _ => none
      | .error reason =>
          some (.unsupportedParameter method name declared.text declared.position reason)
  | .typed _ _ _ _ | .receiver _ _ _ _ _ => none

namespace Method

/-- The errors for the parameters of a method. Its first input stands in the place of the receiver
and is no parameter, whatever it is. -/
def unsupportedParameters (method : Method) : List CompileError :=
  method.signature.arguments.tail.filterMap (Input.unsupported? method.signature.name)

/-- The error for a declared type that cannot be returned. -/
def unsupportedReturn? (method : Method) : Option CompileError :=
  match method.signature.output with
  | none => none
  | some output =>
      match Mapping.resolveReturn (some output.declared) with
      | .ok _ => none
      | .error reason =>
          some (.unsupportedReturn method.signature.name output.declared.text
            output.declared.position reason)

end Method

namespace TraitDeclaration

/-- The errors for the parameters of all methods with a query. -/
def unsupportedParameters (declaration : TraitDeclaration) : List CompileError :=
  declaration.queried.flatMap Method.unsupportedParameters

/-- The errors for the return types of all methods with a query. -/
def unsupportedReturns (declaration : TraitDeclaration) : List CompileError :=
  declaration.queried.filterMap Method.unsupportedReturn?

end TraitDeclaration

namespace CompileError

def isUnsupportedParameter (error : CompileError) : Bool :=
  error.code == 0

def isUnsupportedReturn (error : CompileError) : Bool :=
  error.code == 1

end CompileError

/-- What is told of the types of a marked trait. Every parameter type that cannot be bound is told
of, whatever else is wrong, and so are the return types as soon as the trait is well-formed. What
stands in the place of a receiver is refused as such. -/
structure TraitDeclaration.TypesToldIn (declaration : TraitDeclaration)
    (errors : List CompileError) : Prop where
  parameters : errors.filter CompileError.isUnsupportedParameter =
    declaration.unsupportedParameters
  returns : declaration.IsWellFormed →
    errors.filter CompileError.isUnsupportedReturn = declaration.unsupportedReturns
  hidden : ¬ declaration.IsWellFormed → errors.filter CompileError.isUnsupportedReturn = []
  receivers : ∀ method ∈ declaration.queried, ∀ first others,
    method.signature.arguments = first :: others → ¬ first.IsReference →
      .badReceiver method.signature.name first.position ∈ errors

end DataAccess
