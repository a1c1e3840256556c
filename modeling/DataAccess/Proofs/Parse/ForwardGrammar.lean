/-
This file proves that reading moves forward in the whole grammar, however deep its parts are nested.
-/

import DataAccess.Parse.Batch
import DataAccess.Proofs.Parse.Forward

namespace DataAccess

open DataAccess.Parser

/-- The parts that are read outside of groups move forward. -/
class Grammar.Forward (grammar : Grammar) : Prop where
  type : ∀ allowPlus, Parser.Forward (grammar.type allowPlus)
  typeReading : ∀ allowPlus, Parser.Forward (grammar.typeReading allowPlus)
  bound : ∀ allowCapture allowConstant, Parser.Forward (grammar.bound allowCapture allowConstant)
  pattern : Parser.Forward grammar.pattern
  expression : ∀ allowStruct, Parser.Forward (grammar.expression allowStruct)
  operand : ∀ allowStruct, Parser.Forward (grammar.operand allowStruct)
  operators : ∀ allowStruct found strength,
    Parser.Forward (grammar.operators allowStruct found strength)

attribute [instance] Grammar.Forward.type Grammar.Forward.typeReading Grammar.Forward.bound
  Grammar.Forward.pattern Grammar.Forward.expression Grammar.Forward.operand
  Grammar.Forward.operators

namespace Parse

set_option synthInstance.maxSize 8000

variable {grammar : Grammar} [Grammar.Forward grammar]

/-! Attributes and blocks move forward. -/

/-- The names of a path move forward, by induction on how many may still follow. -/
instance (leading : Option Position) (fuel : Nat) (found : List (Name × Position)) :
    Forward (namePathFrom leading fuel found) := by
  induction fuel generalizing found with
  | zero =>
    unfold namePathFrom
    infer_instance
  | succ fuel hypothesis =>
    unfold namePathFrom
    infer_instance

/-- A path of names moves forward. -/
instance : Forward namePath := by
  unfold namePath
  infer_instance

/-- The value of an attribute moves forward, whether it is a literal or another expression. -/
instance : Forward (attributeValue grammar) := by
  unfold attributeValue
  refine .andThen inferInstance fun found => ?_
  split <;> infer_instance

/-- An attribute moves forward over its marks and its brackets. -/
instance (inner : Bool) : Forward (attributeWith grammar inner) := by
  unfold attributeWith
  infer_instance

/-- The attributes in front of a declaration move forward. -/
instance : Forward (outerAttributes grammar) := by
  unfold outerAttributes
  infer_instance

/-- The attributes at the front of a body move forward. -/
instance : Forward (innerAttributes grammar) := by
  unfold innerAttributes
  infer_instance

/-- The attributes in front of what is kept as code move forward. -/
instance : Forward (outerAttributeCode grammar) := by
  unfold outerAttributeCode
  infer_instance

/-- A block without a label moves forward over its braces. -/
instance : Forward (plainBlock grammar) := by
  unfold plainBlock
  infer_instance

/-- A block moves forward together with the attributes inside of it. -/
instance : Forward (block grammar) := by
  unfold block
  infer_instance

/-! Paths and bounds move forward. -/

/-- A constant among generic arguments moves forward, be it a literal, a name or a block. -/
instance : Forward (constantArgument grammar) := by
  unfold constantArgument
  infer_instance

/-- The bounds that constrain an associated type move forward. -/
instance : Forward (argumentBounds grammar) := by
  unfold argumentBounds
  infer_instance

/-- A generic argument moves forward, whichever of its forms it turns out to have. -/
instance : Forward (genericArgument grammar) := by
  unfold genericArgument
  refine .andThen inferInstance fun _ => .ifElse inferInstance ?_
  refine .andThen inferInstance fun _ => .ifElse inferInstance ?_
  refine .andThen inferInstance fun declared => ?_
  split
  next => split <;> infer_instance
  next => infer_instance

/-- Generic arguments move forward up to the closing angle. -/
instance : Forward (angledArguments grammar) := by
  unfold angledArguments
  infer_instance

/-- The return type of a function type or a closure moves forward. -/
instance (allowPlus : Bool) : Forward (returnCode grammar allowPlus) := by
  unfold returnCode
  infer_instance

/-- The arguments of a called path move forward over their parentheses and the return type. -/
instance : Forward (calledArguments grammar) := by
  unfold calledArguments
  infer_instance

/-- A segment of a path moves forward with its arguments. -/
instance (style : PathStyle) : Forward (segment grammar style) := by
  unfold segment
  infer_instance

/-- The further segments of a path move forward, by induction on how many may still follow. -/
instance (style : PathStyle) (fuel : Nat) (found : SegmentPath) :
    Forward (pathRestFrom grammar style fuel found) := by
  induction fuel generalizing found with
  | zero =>
    unfold pathRestFrom
    infer_instance
  | succ fuel hypothesis =>
    unfold pathRestFrom
    infer_instance

/-- What follows the first segment of a path moves forward. -/
instance (style : PathStyle) (path : SegmentPath) : Forward (pathRest grammar style path) := by
  unfold pathRest
  infer_instance

/-- A path moves forward from its first segment on. -/
instance (style : PathStyle) : Forward (path grammar style) := by
  unfold path
  infer_instance

/-- A lifetime parameter moves forward with its bounds. -/
instance : Forward lifetimeParameter := by
  unfold lifetimeParameter
  infer_instance

/-- A type parameter moves forward with its bounds and its default. -/
instance : Forward (typeParameter grammar) := by
  unfold typeParameter
  infer_instance

/-- A constant parameter moves forward with its type and its default. -/
instance : Forward (constantParameter grammar) := by
  unfold constantParameter
  infer_instance

/-- A parameter of a binder moves forward. -/
instance : Forward (binderParameter grammar) := by
  unfold binderParameter
  infer_instance

/-- A binder moves forward over its angles. -/
instance : Forward (binder grammar) := by
  unfold binder
  infer_instance

/-- A binder that can be absent moves forward. -/
instance : Forward (binder? grammar) := by
  unfold binder?
  infer_instance

/-- The word that makes a bound constant moves forward where it is allowed. -/
instance (allowed : Bool) : Forward (constancy allowed) := by
  unfold constancy
  infer_instance

/-- A bound with a name moves forward, relaxed or not. -/
instance (allowConstant : Bool) : Forward (namedBound grammar allowConstant) := by
  unfold namedBound
  refine .andThen inferInstance fun _ => .andThen inferInstance fun _ => ?_
  refine .andThen inferInstance fun relaxation => ?_
  cases relaxation <;> infer_instance

/-- An entry of a list of captures moves forward. -/
instance : Forward captured := by
  unfold captured
  infer_instance

/-- The captures of an opaque type move forward, by induction on how many may still follow. -/
instance (fuel : Nat) (found : List Argument) : Forward (capturedFrom fuel found) := by
  induction fuel generalizing found with
  | zero =>
    unfold capturedFrom
    infer_instance
  | succ fuel hypothesis =>
    unfold capturedFrom
    infer_instance

/-- A list of captures moves forward where it is allowed. -/
instance (allowed : Bool) : Forward (capture allowed) := by
  unfold capture
  infer_instance

/-- A bound moves forward, be it a lifetime, a list of captures or a named one. -/
instance (allowCapture allowConstant : Bool) :
    Forward (bound grammar allowCapture allowConstant) := by
  unfold bound
  infer_instance

/-- Generic arguments behind a double colon move forward. -/
instance : Forward (turbofish grammar) := by
  unfold turbofish
  infer_instance

/-- Bounds that are joined by plus signs move forward. -/
instance (allowPlus allowCapture allowConstant : Bool) :
    Forward (someBounds grammar allowPlus allowCapture allowConstant) := by
  unfold someBounds
  infer_instance

/-! Types move forward. -/

/-- The bounds of a trait object move forward behind the first one. -/
instance (start : Position) (allowPlus : Bool) :
    Forward (objectBounds grammar start allowPlus) := by
  unfold objectBounds
  infer_instance

/-- A trait object that begins with a lifetime moves forward. -/
instance : Forward (lifetimeObject grammar) := by
  unfold lifetimeObject
  infer_instance

/-- A trait object that is marked as one moves forward. -/
instance (allowPlus : Bool) : Forward (dynType grammar allowPlus) := by
  unfold dynType
  infer_instance

/-- An opaque type moves forward with its bounds. -/
instance (allowPlus : Bool) : Forward (opaqueType grammar allowPlus) := by
  unfold opaqueType
  infer_instance

/-- Bounds behind a plus sign move forward. -/
instance : Forward (furtherBounds grammar) := by
  unfold furtherBounds
  infer_instance

/-- A type in parentheses moves forward, and so does what makes it a trait object or a tuple. -/
instance (allowPlus : Bool) : Forward (parenthesizedType grammar allowPlus) := by
  unfold parenthesizedType
  refine .andThen inferInstance fun enclosed => ?_
  dsimp only
  split
  next => infer_instance
  next => infer_instance
  next => infer_instance
  next =>
    refine .andThen inferInstance fun plus => ?_
    split <;> infer_instance

/-- The name of a calling convention moves forward. -/
instance : Forward abi := by
  unfold abi
  refine .andThen inferInstance fun found => ?_
  split <;> infer_instance

/-- A calling convention that is kept as code moves forward. -/
instance : Forward abiCode := by
  unfold abiCode
  refine .andThen inferInstance fun found => ?_
  split <;> infer_instance

/-- A function type moves forward over its qualifiers, its inputs and its return type. -/
instance : Forward (functionType grammar) := by
  unfold functionType
  infer_instance

/-- A path that begins with a qualified type moves forward. -/
instance (style : PathStyle) : Forward (qualifiedPath grammar style) := by
  unfold qualifiedPath
  infer_instance

/-- The call of a macro moves forward over its delimiters. -/
instance : Forward invocation := by
  unfold invocation
  infer_instance

/-- A type that begins with a path moves forward, whether it is a path, a call of a macro or an
object. -/
instance (binder : Code) (allowPlus : Bool) : Forward (namedType grammar binder allowPlus) := by
  unfold namedType
  infer_instance

/-- A pointer type moves forward. -/
instance : Forward (pointerType grammar) := by
  unfold pointerType
  infer_instance

/-- A reference type moves forward with its lifetime. -/
instance : Forward (referenceType grammar) := by
  unfold referenceType
  infer_instance

/-- A slice or an array moves forward over its brackets. -/
instance : Forward (bracketedType grammar) := by
  unfold bracketedType
  infer_instance

/-- A type behind a binder moves forward. -/
instance (allowPlus : Bool) : Forward (boundType grammar allowPlus) := by
  unfold boundType
  infer_instance

/-- A type is read forward, whatever it begins with. -/
instance (allowPlus : Bool) : Forward (typeReading grammar allowPlus) := by
  unfold typeReading
  infer_instance

/-- A declared type moves forward. -/
instance (allowPlus : Bool) : Forward (declaredType grammar allowPlus) := by
  unfold declaredType
  infer_instance

/-! Patterns move forward. -/

/-- Alternatives of a pattern move forward. -/
instance : Forward (patternAlternatives grammar) := by
  unfold patternAlternatives
  infer_instance

/-- A limit of a range in a pattern moves forward. -/
instance : Forward (rangeLimit grammar) := by
  unfold rangeLimit
  infer_instance

/-- The dots of a range move forward. -/
instance (allowThree : Bool) : Forward (rangeDots allowThree) := by
  unfold rangeDots
  infer_instance

/-- The rest of a range behind its dots moves forward. -/
instance (allowThree : Bool) : Forward (rangeRest grammar allowThree) := by
  unfold rangeRest
  infer_instance

/-- A pattern that begins with a limit is that limit alone or the range from it. -/
instance (lower : Code) : Forward (limitPattern grammar lower) := by
  unfold limitPattern
  refine .andThen inferInstance fun _ => .ifElse (.andThen inferInstance fun found => ?_) ?_
  · split <;> infer_instance
  · infer_instance

/-- A range pattern without a lower limit moves forward. -/
instance : Forward (openRangePattern grammar) := by
  unfold openRangePattern
  refine .andThen inferInstance fun found => ?_
  split <;> infer_instance

/-- A member is a name or a number, and a number is taken with its sign. -/
instance : Forward member := by
  unfold member
  refine .andThen inferInstance fun start => .look fun standing => ?_
  split
  next =>
    split
    next => exact .failExpected
    next => exact .take (List.suffix_cons ..)
  next =>
    split
    next negative digits signed =>
      split
      next rest =>
        have behind : rest <:+ standing := by
          split at signed
          next =>
            cases (Prod.mk.inj signed).2
            exact (List.suffix_cons ..).trans (List.suffix_cons ..)
          next =>
            cases (Prod.mk.inj signed).2
            exact List.suffix_cons ..
        split
        next =>
          split
          next => exact .take behind
          next => exact .failAt
        next => exact .failExpected
      next => exact .failExpected

/-- The patterns of fields move forward over their braces. -/
instance : Forward (fieldPatterns grammar) := by
  unfold fieldPatterns
  infer_instance

/-- The patterns of a tuple move forward over their parentheses. -/
instance : Forward (tuplePatterns grammar) := by
  unfold tuplePatterns
  infer_instance

/-- The patterns of a slice move forward over their brackets. -/
instance : Forward (slicePattern grammar) := by
  unfold slicePattern
  infer_instance

/-- A pattern that begins with a path moves forward. -/
instance : Forward (pathPattern grammar) := by
  unfold pathPattern
  infer_instance

/-- A pattern that binds a name moves forward with the pattern behind it. -/
instance : Forward (namedPattern grammar) := by
  unfold namedPattern
  infer_instance

/-- A reference pattern moves forward. -/
instance : Forward (referencePattern grammar) := by
  unfold referencePattern
  infer_instance

/-- A pattern for what is boxed moves forward. -/
instance : Forward (boxedPattern grammar) := by
  unfold boxedPattern
  infer_instance

/-- A pattern moves forward, whatever it begins with. -/
instance : Forward (pattern grammar) := by
  unfold pattern
  infer_instance

/-! Generic parameters and conditions move forward. -/

/-- A generic parameter moves forward with its attributes. -/
instance : Forward (genericParameter grammar) := by
  unfold genericParameter
  infer_instance

/-- Generic parameters move forward over their angles. -/
instance : Forward (generics grammar) := by
  unfold generics
  infer_instance

/-- A condition of a where clause moves forward, on a lifetime as well as on a type. -/
instance : Forward (predicate grammar) := by
  unfold predicate
  infer_instance

/-- A where clause moves forward where there is one. -/
instance : Forward (whereClause? grammar) := by
  unfold whereClause?
  refine .andThen inferInstance fun found => ?_
  split <;> infer_instance

/-- A where clause that is kept as code moves forward where there is one. -/
instance : Forward (whereCode? grammar) := by
  unfold whereCode?
  refine .andThen inferInstance fun found => ?_
  split <;> infer_instance

/-! Expressions move forward. -/

/-- The code of an expression moves forward. -/
instance : Forward (expressionCode grammar) := by
  unfold expressionCode
  infer_instance

/-- The arguments of a call move forward over their parentheses. -/
instance : Forward (callArguments grammar) := by
  unfold callArguments
  infer_instance

/-- A member that is kept as code moves forward. -/
instance : Forward (memberCode grammar) := by
  unfold memberCode
  infer_instance

/-- A number with a fraction is taken from the front of the tokens, with its sign. -/
theorem float?_suffix {tokens rest : List Token} {negative : Bool} {spelling : String}
    (found : float? tokens = some (negative, spelling, rest)) : rest <:+ tokens := by
  unfold float? at found
  split at found
  next =>
    obtain ⟨_, same⟩ := Option.ite_none_right_eq_some.mp found
    cases same
    exact List.suffix_cons ..
  next =>
    obtain ⟨_, same⟩ := Option.ite_none_right_eq_some.mp found
    cases same
    exact (List.suffix_cons ..).trans (List.suffix_cons ..)
  next => exact nomatch found

/-- The field behind a point moves forward, and a number with a fraction counts as two fields. -/
instance : Forward (fieldCode grammar) := by
  unfold fieldCode
  refine .andThen inferInstance fun point => .andThen inferInstance fun start => ?_
  refine .look fun standing => ?_
  split
  next => exact (inferInstance : Forward _).suffix _
  next negative spelling rest found =>
    dsimp only
    split
    next => exact .failAt
    next numbers _ =>
      refine .bind .took fun _ _ left => ?_
      subst left
      split
      next =>
        exact .bind ((inferInstance : Forward (memberCode grammar)).suffix _) fun _ _ behind =>
          .pure (behind.trans (float?_suffix found))
      next => exact .pure (float?_suffix found)

/-- What is called, indexed or chosen of an operand moves forward, by induction on how much may
still follow. -/
instance (fuel : Nat) (found : Expression) : Forward (trailersFrom grammar fuel found) := by
  induction fuel generalizing found with
  | zero =>
    unfold trailersFrom
    infer_instance
  | succ fuel hypothesis =>
    unfold trailersFrom
    infer_instance

/-- Everything behind an operand that binds more strongly than an operator moves forward. -/
instance (found : Expression) : Forward (trailers grammar found) := by
  unfold trailers
  infer_instance

/-- The right side of an operator goes on as long as stronger operators follow. -/
instance (allowStruct : Bool) (strength : Nat) (fuel : Nat) (found : Expression) :
    Forward (rightSideFrom grammar allowStruct strength fuel found) := by
  induction fuel generalizing found with
  | zero =>
    unfold rightSideFrom
    infer_instance
  | succ fuel hypothesis =>
    unfold rightSideFrom
    infer_instance

/-- The right side of an operator moves forward from its first operand on. -/
instance (allowStruct : Bool) (strength : Nat) :
    Forward (rightSide grammar allowStruct strength) := by
  unfold rightSide
  infer_instance

/-- The end of a range moves forward where there is one. -/
instance (allowStruct : Bool) (front : Code) : Forward (rangeEnd grammar allowStruct front) := by
  unfold rangeEnd
  infer_instance

/-- What may not follow a cast is looked at and left where it is. -/
instance : Forward checkCast := by
  unfold checkCast
  refine .andThen inferInstance fun next => ?_
  dsimp only
  split <;> infer_instance

/-- The operators of an expression move forward, by induction on how many may still follow. -/
instance (allowStruct : Bool) (strength : Nat) (fuel : Nat) (found : Expression) :
    Forward (operatorsFrom grammar allowStruct strength fuel found) := by
  induction fuel generalizing found with
  | zero =>
    unfold operatorsFrom
    infer_instance
  | succ fuel hypothesis =>
    unfold operatorsFrom
    refine .andThen inferInstance fun next => .ifElse inferInstance ?_
    split <;> infer_instance

/-- The operators of an expression move forward down to a given strength. -/
instance (allowStruct : Bool) (found : Expression) (strength : Nat) :
    Forward (operators grammar allowStruct found strength) := by
  unfold operators
  infer_instance

/-- The values of fields move forward over their braces. -/
instance : Forward (fieldValues grammar) := by
  unfold fieldValues
  infer_instance

/-- An expression that begins with a path moves forward, be it a struct, a call of a macro or the
path. -/
instance (allowStruct : Bool) : Forward (pathExpression grammar allowStruct) := by
  unfold pathExpression
  infer_instance

/-- An expression in parentheses or a tuple moves forward. -/
instance : Forward (parenthesizedExpression grammar) := by
  unfold parenthesizedExpression
  refine .andThen inferInstance fun found => ?_
  split <;> infer_instance

/-- An input of a closure moves forward with its type. -/
instance : Forward (closureInput grammar) := by
  unfold closureInput
  infer_instance

/-- A closure moves forward over its inputs, its return type and its body. -/
instance (allowStruct : Bool) : Forward (closure grammar allowStruct) := by
  unfold closure
  infer_instance

/-- A condition moves forward without taking a block for a struct. -/
instance : Forward (condition grammar) := by
  unfold condition
  infer_instance

/-- The branches behind a condition move forward, by induction on how many may still follow. -/
instance (fuel : Nat) (found : Code) : Forward (conditionalFrom grammar fuel found) := by
  induction fuel generalizing found with
  | zero =>
    unfold conditionalFrom
    infer_instance
  | succ fuel hypothesis =>
    unfold conditionalFrom
    infer_instance

/-- A conditional moves forward with all its branches. -/
instance : Forward (conditional grammar) := by
  unfold conditional
  infer_instance

/-- A loop with a condition moves forward. -/
instance : Forward (whileLoop grammar) := by
  unfold whileLoop
  infer_instance

/-- A loop over the elements of an iterator moves forward. -/
instance : Forward (forLoop grammar) := by
  unfold forLoop
  infer_instance

/-- A loop without an end moves forward. -/
instance : Forward (endlessLoop grammar) := by
  unfold endlessLoop
  infer_instance

/-- A keyword with a block behind it moves forward. -/
instance (keyword : String) : Forward (keywordBlock grammar keyword) := by
  unfold keywordBlock
  infer_instance

/-- A block that catches failures moves forward. -/
instance : Forward (tryBlock grammar) := by
  unfold tryBlock
  infer_instance

/-- A case distinction moves forward over its arms. -/
instance : Forward (matchExpression grammar) := by
  unfold matchExpression
  infer_instance

/-- A pattern that is tested against an expression moves forward. -/
instance (allowStruct : Bool) : Forward (letExpression grammar allowStruct) := by
  unfold letExpression
  infer_instance

/-- Leaving a loop moves forward with its label and its value. -/
instance (allowStruct : Bool) : Forward (breakExpression grammar allowStruct) := by
  unfold breakExpression
  infer_instance

/-- Going on with a loop moves forward with its label. -/
instance : Forward continueExpression := by
  unfold continueExpression
  infer_instance

/-- A keyword that hands over a value moves forward. -/
instance (spelling : String) : Forward (handover grammar spelling) := by
  unfold handover
  infer_instance

/-- A call in place of the caller moves forward. -/
instance : Forward (tailCall grammar) := by
  unfold tailCall
  infer_instance

/-- A call of the compiler itself moves forward. -/
instance : Forward intrinsic := by
  unfold intrinsic
  infer_instance

/-- A labelled loop or block moves forward. -/
instance : Forward (labelled grammar) := by
  unfold labelled
  infer_instance

/-- A block that runs later moves forward. -/
instance : Forward (asyncBlock grammar) := by
  unfold asyncBlock
  infer_instance

/-- An expression that ends a statement with its brace moves forward where there is one. -/
instance : Forward (boundaryAtom? grammar) := by
  unfold boundaryAtom?
  infer_instance

/-- An expression without operators moves forward, whatever it begins with. -/
instance (allowStruct : Bool) : Forward (atom grammar allowStruct) := by
  unfold atom
  refine .andThen inferInstance fun next => ?_
  repeat refine .ifElse inferInstance ?_
  exact .andThen inferInstance fun
    | some _ => inferInstance
    | none => inferInstance

/-- A reference to an operand moves forward. -/
instance (allowStruct : Bool) : Forward (referenceExpression grammar allowStruct) := by
  unfold referenceExpression
  infer_instance

/-- An expression with attributes moves forward behind them. -/
instance (allowStruct : Bool) (beginning : List Token) (attributes : Code) :
    Forward (attributedAtom grammar allowStruct beginning attributes) := by
  unfold attributedAtom
  refine .andThen inferInstance fun _ => .andThen inferInstance fun _ => ?_
  refine .andThen inferInstance fun found => ?_
  split <;> infer_instance

/-- An operand moves forward with the signs in front of it. -/
instance (allowStruct : Bool) : Forward (operand grammar allowStruct) := by
  unfold operand
  infer_instance

/-- An expression moves forward from its first operand on. -/
instance (allowStruct : Bool) : Forward (expression grammar allowStruct) := by
  unfold expression
  infer_instance

/-! Signatures move forward. -/

/-- What a signature begins with is looked at and left where it is. -/
instance (allowSafe : Bool) : Forward (startsSignature allowSafe) := by
  unfold startsSignature
  infer_instance

/-- A receiver is only accepted at the front of the inputs, which takes no token. -/
instance (found : List (Separated Input)) (input : Input) :
    Forward (checkReceiver found input) := by
  unfold checkReceiver
  split <;> infer_instance

/-- The return type of a function moves forward where there is one. -/
instance : Forward (returnType grammar) := by
  unfold returnType
  refine .andThen inferInstance fun found => ?_
  split <;> infer_instance

/-- A signature moves forward over its qualifiers, its name, its inputs and its return type. -/
instance (allowSafe : Bool) : Forward (signatureOf grammar allowSafe) := by
  unfold signatureOf
  infer_instance

/-- The signature of a method moves forward. -/
instance : Forward (signature grammar) := by
  unfold signature
  infer_instance

/-! Traits move forward. -/

/-- A visibility moves forward, and parentheses that do not restrict it are left. -/
instance : Forward visibility := by
  unfold visibility
  refine .andThen inferInstance fun keyword => .ifElse inferInstance ?_
  refine .andThen inferInstance fun standing => ?_
  split
  next =>
    refine .ifElse inferInstance (.andThen inferInstance fun found => ?_)
    split <;> infer_instance
  next => infer_instance

/-- The body of a function moves forward over its braces. -/
instance : Forward (functionBody grammar) := by
  unfold functionBody
  infer_instance

/-- A name or an underscore moves forward. -/
instance : Forward wordOrUnderscore := by
  unfold wordOrUnderscore
  infer_instance

/-- A constant moves forward up to its semicolon. -/
instance : Forward (constant grammar) := by
  unfold constant
  infer_instance

/-- The definition of a type moves forward, on whichever side its conditions stand. -/
instance (place : ConditionPlace) : Forward (typeDefinition grammar place) := by
  unfold typeDefinition
  infer_instance

/-- The traits that a trait extends move forward. -/
instance : Forward (supertraits grammar) := by
  unfold supertraits
  refine .andThen inferInstance fun found => ?_
  split <;> infer_instance

/-- The rest of a trait moves forward behind its generic parameters. -/
instance (attributes : List Attribute) (visibility : Code) (unsafety automatic : Option Position)
    (keyword : Position) (name : Name) (generics : Generics) :
    Forward (traitRest grammar attributes visibility unsafety automatic keyword name generics) := by
  unfold traitRest
  infer_instance

/-- A trait moves forward from its attributes to its braces. -/
instance : Forward (traitDeclaration grammar) := by
  unfold traitDeclaration
  infer_instance

/-! Items move forward. -/

/-- A function moves forward with its body. -/
instance : Forward (function grammar) := by
  unfold function
  infer_instance

/-- The other name of a crate moves forward. -/
instance : Forward crateRename := by
  unfold crateRename
  infer_instance

/-- The declaration of a crate moves forward. -/
instance : Forward externCrate := by
  unfold externCrate
  infer_instance

/-- Fields with numbers move forward over their parentheses. -/
instance : Forward (numberedFields grammar) := by
  unfold numberedFields
  infer_instance

/-- Fields with names move forward, by induction on how deep their braces may nest. -/
instance (fuel : Nat) : Forward (namedFieldsFrom grammar fuel) := by
  induction fuel with
  | zero =>
    unfold namedFieldsFrom
    infer_instance
  | succ fuel hypothesis =>
    unfold namedFieldsFrom
    infer_instance

/-- Fields with names move forward over their braces. -/
instance : Forward (namedFields grammar) := by
  unfold namedFields
  infer_instance

/-- The fields of a struct move forward in all three forms. -/
instance : Forward (structFields grammar) := by
  unfold structFields
  infer_instance

/-- A struct moves forward with its conditions. -/
instance : Forward (structItem grammar) := by
  unfold structItem
  infer_instance

/-- An enumeration moves forward over its variants. -/
instance : Forward (enumItem grammar) := by
  unfold enumItem
  infer_instance

/-- A union moves forward over its fields. -/
instance : Forward (unionItem grammar) := by
  unfold unionItem
  infer_instance

/-- A type item moves forward up to its semicolon. -/
instance : Forward (typeItem grammar) := by
  unfold typeItem
  infer_instance

/-- The other name of what is brought in moves forward. -/
instance : Forward useRename := by
  unfold useRename
  infer_instance

/-- The branches of a use declaration move forward, by induction on how deep they may nest. -/
instance (fuel : Nat) (found : Bool) : Forward (useTreeFrom fuel found) := by
  induction fuel generalizing found with
  | zero =>
    unfold useTreeFrom
    infer_instance
  | succ fuel hypothesis =>
    unfold useTreeFrom
    infer_instance

/-- A use declaration moves forward up to its semicolon. -/
instance : Forward useItem := by
  unfold useItem
  infer_instance

/-- A static moves forward up to its semicolon. -/
instance : Forward (staticItem grammar) := by
  unfold staticItem
  infer_instance

/-- A constant item moves forward up to its semicolon. -/
instance : Forward (constantItem grammar) := by
  unfold constantItem
  infer_instance

/-- An implementation moves forward over its head and its braces. -/
instance : Forward (implementation grammar) := by
  unfold implementation
  have subject (goesOn : Code → Parser ItemBody) [∀ code, Forward (goesOn code)]
      (first : DeclaredType) (polarity : Option Position) : Forward (match polarity with
        | some position => failAt .negativeImplementation position >>= goesOn
        | none => pure first.code >>= goesOn) := by
    cases polarity <;> infer_instance
  infer_instance

/-- A block of foreign items moves forward over its braces. -/
instance : Forward (foreignBlock grammar) := by
  unfold foreignBlock
  infer_instance

/-- A module moves forward, with its items or without. -/
instance : Forward (moduleItem grammar) := by
  unfold moduleItem
  infer_instance

/-- The call of a macro as an item moves forward, with a semicolon where its delimiters need one. -/
instance : Forward invocationItem := by
  unfold invocationItem
  have ends (found : NamePath) (bang : Code) (name? : Option Name) (body : Token)
      (semicolon : Code) : Forward (match name?, body with
        | some name, .group _ _ _ inner =>
            let front := found.code ++ bang ++ Code.word name
            if found.isName "macro_rules" then
              pure (ItemBody.plain .invocation
                (front ++ MacroRules.code inner (body :: Code.tokens semicolon)))
            else pure (ItemBody.plain .invocation (front ++ [.token body] ++ semicolon))
        | _, _ => (pure (ItemBody.plain .invocation
            (found.code ++ bang ++ [.token body] ++ semicolon)) : Parser ItemBody)) := by
    split <;> infer_instance
  infer_instance

/-- A trait or a name for bounds moves forward. -/
instance : Forward (traitOrAlias grammar) := by
  unfold traitOrAlias
  infer_instance

/-- The definition of a macro moves forward. -/
instance : Forward macroDefinition := by
  unfold macroDefinition
  infer_instance


/-- An item behind `extern` may be read again from its start, but stays behind it. -/
instance (start : Stream) : StaysBehind start.tokens (externItem grammar start) := by
  unfold externItem
  infer_instance

/-- An item behind `unsafe` may be read again from its start, but stays behind it. -/
instance (start : Stream) : StaysBehind start.tokens (unsafeItem grammar start) := by
  unfold unsafeItem
  infer_instance

/-- The body of an item moves forward, whatever kind of item it is. -/
instance : Forward (itemBody grammar) := by
  unfold itemBody
  infer_instance

/-- An item moves forward from its attributes on. -/
instance : Forward (item grammar) := by
  unfold item
  refine .andThen inferInstance fun _ => .andThen inferInstance fun _ => ?_
  refine .andThen inferInstance fun found => ?_
  split <;> infer_instance

/-- The whole grammar moves forward, by induction on the depth of its nesting. -/
instance forwardGrammar (depth : Nat) : Grammar.Forward (Parse.grammar depth) := by
  induction depth with
  | zero => constructor <;> intros <;> exact inferInstanceAs (Forward (failExpected []))
  | succ depth hypothesis =>
    exact {
      type := fun allowPlus =>
        inferInstanceAs (Forward (declaredType (Parse.grammar depth) allowPlus))
      typeReading := fun allowPlus =>
        inferInstanceAs (Forward (typeReading (Parse.grammar depth) allowPlus))
      bound := fun allowCapture allowConstant =>
        inferInstanceAs (Forward (bound (Parse.grammar depth) allowCapture allowConstant))
      pattern := inferInstanceAs (Forward (pattern (Parse.grammar depth)))
      expression := fun allowStruct =>
        inferInstanceAs (Forward (expression (Parse.grammar depth) allowStruct))
      operand := fun allowStruct =>
        inferInstanceAs (Forward (operand (Parse.grammar depth) allowStruct))
      operators := fun allowStruct found strength =>
        inferInstanceAs (Forward (operators (Parse.grammar depth) allowStruct found strength)) }

end Parse

end DataAccess
