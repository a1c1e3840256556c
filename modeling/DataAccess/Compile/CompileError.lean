/-
This file holds the problems that are found while a batch is compiled. Each has a code, by which
reports refer to it.
-/

import DataAccess.Compile.ScratchDirectory
import DataAccess.Declaration.Item
import DataAccess.Mapping.Classification
import DataAccess.Parse.Problem

namespace DataAccess

/-- What keeps a trait from being generated. -/
inductive TraitFeature where
  | generics
  | unsafety
  | automatic
  | supertraits
deriving DecidableEq, Repr

/-- What keeps a method with a query from being generated. -/
inductive MethodFeature where
  | constness
  | asyncness
  | unsafety
  | abi
  | generics
  | variadic
deriving DecidableEq, Repr

/-- What keeps a provided method off a trait object. -/
inductive DispatchObstacle where
  | typeParameter
  | noReceiver
  | asyncness
  | opaqueType
  | selfType
deriving DecidableEq, Repr

inductive ErrorKind where
  | unsupportedType
  | malformedDeclaration
deriving DecidableEq, Repr

inductive CompileError where
  | unsupportedParameter (method parameter : Name) (declared : String) (position : Position)
      (reason : Rejection)
  | unsupportedReturn (method : Name) (declared : String) (position : Position)
      (reason : Rejection)
  | markerOnNonTrait (marker : Position) (kind : ItemKind)
  | missingQuery (interface method : Name)
  | emptyQuery (method : Name) (position : Position)
  | duplicateQuery (method : Name) (position previous : Position)
  | queryWithBody (method : Name) (position : Position)
  | unsupportedTrait (interface : Name) (position : Position) (feature : TraitFeature)
  | unsupportedMethod (method : Name) (position : Position) (feature : MethodFeature)
  | unsupportedItem (interface : Name) (position : Position)
  | badReceiver (method : Name) (position : Position)
  | patternParameter (method : Name) (position : Position)
  | badAttribute (error : SyntaxError)
  | debugOutput (position : Position) (failure : FileFailure)
  | undispatchableMethod (interface method : Name) (position : Position)
      (obstacle : DispatchObstacle)
deriving DecidableEq, Repr

def TraitFeature.text : TraitFeature → String
  | .generics => "generic parameters"
  | .unsafety => "an `unsafe` qualifier"
  | .automatic => "an `auto` qualifier"
  | .supertraits => "supertraits"

def MethodFeature.text : MethodFeature → String
  | .constness => "a `const` qualifier"
  | .asyncness => "an `async` qualifier"
  | .unsafety => "an `unsafe` qualifier"
  | .abi => "an explicit ABI"
  | .generics => "generic parameters"
  | .variadic => "variadic parameters"

def DispatchObstacle.text : DispatchObstacle → String
  | .typeParameter => "generic type parameters"
  | .noReceiver => "no `self` receiver"
  | .asyncness => "an `async` qualifier"
  | .opaqueType => "an `impl Trait` type"
  | .selfType => "`Self` in its parameters or return type"

/-- An item's kind as messages name it. -/
def ItemKind.text : ItemKind → String
  | .constant => "a constant"
  | .enumeration => "an enum"
  | .externCrate => "an extern crate"
  | .function => "a function"
  | .foreignBlock => "an extern block"
  | .implementation => "an impl block"
  | .invocation => "a macro invocation"
  | .moduleBlock => "a module"
  | .record => "a struct"
  | .staticValue => "a static"
  | .traitAlias => "a trait alias"
  | .typeAlias => "a type alias"
  | .unionType => "a union"
  | .useDeclaration => "a use declaration"

def ErrorKind.name : ErrorKind → String
  | .unsupportedType => "UnsupportedType"
  | .malformedDeclaration => "MalformedDeclaration"

namespace CompileError

def code : CompileError → Nat
  | .unsupportedParameter .. => 0
  | .unsupportedReturn .. => 1
  | .markerOnNonTrait .. => 2
  | .missingQuery .. => 3
  | .emptyQuery .. => 4
  | .duplicateQuery .. => 5
  | .queryWithBody .. => 6
  | .unsupportedTrait .. => 7
  | .unsupportedMethod .. => 8
  | .unsupportedItem .. => 9
  | .badReceiver .. => 10
  | .patternParameter .. => 11
  | .badAttribute .. => 12
  | .debugOutput .. => 13
  | .undispatchableMethod .. => 14

/-- Errors of the first kind name the offending type; all others are about the shape of the
declarations. -/
def kind (error : CompileError) : ErrorKind :=
  if error.code ≤ 1 then .unsupportedType else .malformedDeclaration

/-- Where the error is reported. -/
def position : CompileError → Position
  | .unsupportedParameter _ _ _ position _ => position
  | .unsupportedReturn _ _ position _ => position
  | .markerOnNonTrait marker _ => marker
  | .missingQuery _ method => method.position
  | .emptyQuery _ position => position
  | .duplicateQuery _ position _ => position
  | .queryWithBody _ position => position
  | .unsupportedTrait _ position _ => position
  | .unsupportedMethod _ position _ => position
  | .unsupportedItem _ position => position
  | .badReceiver _ position => position
  | .patternParameter _ position => position
  | .badAttribute error => error.fault.position
  | .debugOutput position _ => position
  | .undispatchableMethod _ _ position _ => position

/-- The place of the query attribute that a duplicate repeats. -/
def previous? : CompileError → Option Position
  | .duplicateQuery _ _ previous => some previous
  | _ => none

def message : CompileError → String
  | .unsupportedParameter method parameter declared _ _ =>
      s!"Unsupported type `{declared}` for parameter `{parameter.text}` of `{method.text}`"
  | .unsupportedReturn method declared _ _ =>
      s!"Unsupported return type `{declared}` for `{method.text}`"
  | .markerOnNonTrait _ kind => s!"`#[dao]` can only be used on traits, not on {kind.text}"
  | .missingQuery interface method =>
      s!"Method `{method.text}` of `{interface.text}` has no `#[query(\"...\")]`"
  | .emptyQuery method _ => s!"The query of `{method.text}` is empty"
  | .duplicateQuery method _ _ => s!"`{method.text}` has more than one `#[query(...)]`"
  | .queryWithBody method _ => s!"`{method.text}` has a `#[query(...)]` and a default body"
  | .unsupportedTrait interface _ feature =>
      s!"`{interface.text}` cannot be generated, it has {feature.text}"
  | .unsupportedMethod method _ feature =>
      s!"`{method.text}` cannot be generated, it has {feature.text}"
  | .unsupportedItem interface _ => s!"`{interface.text}` can only contain methods"
  | .badReceiver method _ => s!"`{method.text}` must take `&self` or `&mut self`"
  | .patternParameter method _ => s!"Parameters of `{method.text}` must be plain identifiers"
  | .badAttribute error => error.fault.problem.message
  | .debugOutput _ failure => failure.message
  | .undispatchableMethod interface method _ obstacle =>
      s!"`{method.text}` has {obstacle.text}, so `{interface.text}` cannot be used as " ++
        s!"`dyn {interface.text}`"

def help? : CompileError → Option String
  | .unsupportedParameter _ _ _ _ reason => some reason.help
  | .unsupportedReturn _ _ _ reason => some reason.help
  | .markerOnNonTrait _ _ => some "Declare the data access interface as a `trait`"
  | .missingQuery _ _ =>
      some "Annotate the method with its query, or give it a default body"
  | .queryWithBody _ _ => some "Remove the body, the implementation is generated"
  | .patternParameter _ _ => some "Parameters are bound by position, e.g. `id: i64`"
  | .undispatchableMethod _ _ _ _ =>
      some "Add `where Self: Sized` to the method to leave it out of the trait object"
  | _ => none

/-- What is told besides the message: a note on an earlier place, then a help text. -/
def remarks (error : CompileError) : List String :=
  (error.previous?.map fun _ => "  = note: First query given here\n").toList ++
    (error.help?.map fun text => s!"  = help: {text}\n").toList

/-- The diagnostic as a text. -/
def rendered (error : CompileError) : String :=
  let head := s!"[DBX-{error.code}] {error.message}"
  match error.remarks with
  | [] => head
  | remarks => head ++ "\n\n" ++ String.join remarks ++ "\n"

end CompileError

end DataAccess
