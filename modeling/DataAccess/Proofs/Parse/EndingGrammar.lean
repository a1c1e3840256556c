/-
This file proves that a signature is read in front of a body as it is read in front of a semicolon.
-/

import DataAccess.Parse.Declaration
import DataAccess.Proofs.Parse.Ending
import DataAccess.Proofs.Parse.ForwardGrammar

namespace DataAccess

open DataAccess.Parser

/-- The parts of a signature that are not between brackets end alike at both ends, and neither a
type nor a bound is read where the semicolon stands. -/
class Grammar.ReadsFront (grammar : Grammar) : Prop where
  type : ∀ allowPlus, Parser.ReadsFront (grammar.type allowPlus)
  typeReading : ∀ allowPlus, Parser.ReadsFront (grammar.typeReading allowPlus)
  bound : ∀ allowCapture allowConstant,
    Parser.ReadsFront (grammar.bound allowCapture allowConstant)
  typeStops : ∀ allowPlus, Stops (grammar.type allowPlus)
  boundStops : ∀ allowCapture allowConstant, Stops (grammar.bound allowCapture allowConstant)

attribute [instance] Grammar.ReadsFront.type Grammar.ReadsFront.typeReading
  Grammar.ReadsFront.bound

namespace Parse

set_option synthInstance.maxSize 8000

/-! The marks of a signature. None of them is a semicolon, so that each is found in front of both
ends or of neither. -/

instance : TestsFront (Peek.mark "+") := .mark (by decide)
instance : TestsFront (Peek.mark "::") := .mark (by decide)
instance : TestsFront (Peek.mark ":") := .mark (by decide)
instance : TestsFront (Peek.mark "<") := .mark (by decide)
instance : TestsFront (Peek.mark "<=") := .mark (by decide)
instance : TestsFront (Peek.mark "<<=") := .mark (by decide)
instance : TestsFront (Peek.mark ">") := .mark (by decide)
instance : TestsFront (Peek.mark ",") := .mark (by decide)
instance : TestsFront (Peek.mark "=") := .mark (by decide)
instance : TestsFront (Peek.mark "?") := .mark (by decide)
instance : TestsFront (Peek.mark "->") := .mark (by decide)
instance : TestsFront (Peek.mark "!") := .mark (by decide)
instance : TestsFront (Peek.mark "!=") := .mark (by decide)
instance : TestsFront (Peek.mark "*") := .mark (by decide)
instance : TestsFront (Peek.mark "&") := .mark (by decide)
instance : TestsFront (Peek.mark "#") := .mark (by decide)

variable {grammar : Grammar} [Grammar.Forward grammar] [Grammar.ReadsFront grammar]

/-! Attributes, blocks, paths and bounds. -/

/-- An attribute ends in brackets, in front of either end. -/
instance (inner : Bool) : ReadsFront (attributeWith grammar inner) := by
  unfold attributeWith
  infer_instance

/-- Attributes are read as long as a number sign stands next, which neither end is. -/
instance : ReadsFront (outerAttributes grammar) := by
  unfold outerAttributes
  infer_instance

/-- Attributes that are kept as code are read alike in front of both ends. -/
instance : ReadsFront (outerAttributeCode grammar) := by
  unfold outerAttributeCode
  infer_instance

/-- A block that begins in front of the end also ends there. -/
instance : ReadsFront (block grammar) := by
  unfold block
  infer_instance

/-- A constant is read alike where it begins in front of the end. -/
instance : ReadsFront (constantArgument grammar) := by
  unfold constantArgument
  refine .andThen inferInstance fun _ => .ifElse inferInstance ?_
  refine .andThen inferInstance fun _ => .ifElse inferInstance ?_
  -- Only a body can be mistaken for a block, and in front of the semicolon the reading has failed.
  refine .orElse inferInstance inferInstance (fun _ _ _ => ⟨_, rfl⟩) (fun _ => rfl) ?_
  intro ending token front
  cases token <;> rfl

/-- A body looks like a constant where neither of the two ends can begin anything else. -/
theorem readsFront_orConstant {Result : Type} {first second : Parser Result}
    (one : ReadsFront first) (another : ReadsFront second) (stops : Stops second) :
    ReadsFront (do if ← peek startsConstant then first else second) := by
  refine .orElse one another stops (fun _ => rfl) fun ending token front => ?_
  have literal : Peek.literal (token :: front ++ ending.declared) = _ :=
    TestsFront.agrees ending (token :: front)
  unfold startsConstant
  rw [literal]
  cases token <;> rfl

/-- The bounds of an associated type are read alike. -/
instance : ReadsFront (argumentBounds grammar) := by
  unfold argumentBounds
  infer_instance

/-- Neither a constant nor a type is read where the semicolon stands. -/
instance : ReadsFront (genericArgument grammar) := by
  unfold genericArgument
  refine .andThen inferInstance fun _ => .ifElse inferInstance ?_
  refine readsFront_orConstant inferInstance ?_ (.bind (Grammar.ReadsFront.typeStops true))
  refine .andThen inferInstance fun declared => ?_
  have value (declared equals : Code) : ReadsFront (do
      if ← peek startsConstant then do
        let value ← constantArgument grammar
        return (Argument.other (declared ++ equals ++ value) : Option Position → Argument)
      else do
        let value ← DeclaredType.code <$> grammar.type true
        return Argument.other (declared ++ equals ++ value)) :=
    readsFront_orConstant inferInstance inferInstance
      (.bind (.map (Grammar.ReadsFront.typeStops true)))
  split
  next => split <;> infer_instance
  next => infer_instance

/-- Generic arguments end with a closing angle, in front of either end. -/
instance : ReadsFront (angledArguments grammar) := by
  unfold angledArguments
  infer_instance

/-- A return type is announced by an arrow, which neither end begins with. -/
instance (allowPlus : Bool) : ReadsFront (returnCode grammar allowPlus) := by
  unfold returnCode
  infer_instance

/-- The arguments of a called path stand in parentheses. -/
instance : ReadsFront (calledArguments grammar) := by
  unfold calledArguments
  infer_instance

/-- Whether an angle opens next is the same at both ends. -/
instance : TestsFront startsAngle := by
  unfold startsAngle
  infer_instance

/-- Whether generic arguments open next is the same at both ends. -/
instance (style : PathStyle) : TestsFront (opensAngled style) := by
  unfold opensAngled
  infer_instance

/-- Whether arguments in parentheses open next is the same at both ends. -/
instance : TestsFront opensCall := by
  unfold opensCall
  infer_instance

/-- Whether a path goes on is the same at both ends. -/
instance : TestsFront continuesPath := by
  unfold continuesPath
  infer_instance

/-- A segment is read alike with its arguments. -/
instance (style : PathStyle) : ReadsFront (segment grammar style) := by
  unfold segment
  infer_instance

/-- The further segments of a path are read alike, by induction on how many may still follow. -/
instance (style : PathStyle) (fuel : Nat) (found : SegmentPath) :
    ReadsFront (pathRestFrom grammar style fuel found) := by
  induction fuel generalizing found with
  | zero =>
    unfold pathRestFrom
    infer_instance
  | succ fuel hypothesis =>
    unfold pathRestFrom
    infer_instance

/-- A path goes on as far in front of one end as in front of the other. -/
instance (style : PathStyle) (path : SegmentPath) : ReadsFront (pathRest grammar style path) :=
  .measured (fun _ => inferInstance) fun _ _ same => by rw [same]

/-- A path is read alike from its first segment on. -/
instance (style : PathStyle) : ReadsFront (path grammar style) := by
  unfold path
  infer_instance

/-- A lifetime parameter is read alike with its bounds. -/
instance : ReadsFront lifetimeParameter := by
  unfold lifetimeParameter
  infer_instance

/-- A type parameter is read alike with its bounds and its default. -/
instance : ReadsFront (typeParameter grammar) := by
  unfold typeParameter
  infer_instance

/-- A constant parameter is read alike with its type and its default. -/
instance : ReadsFront (constantParameter grammar) := by
  unfold constantParameter
  infer_instance

/-- A parameter of a binder is read alike. -/
instance : ReadsFront (binderParameter grammar) := by
  unfold binderParameter
  infer_instance

/-- A binder ends with a closing angle, in front of either end. -/
instance : ReadsFront (binder grammar) := by
  unfold binder
  infer_instance

/-- A binder that can be absent is announced by a word. -/
instance : ReadsFront (binder? grammar) := by
  unfold binder?
  infer_instance

/-- The place is told only where a bound must not be a constant one. -/
instance (allowed : Bool) : ReadsFront (constancy allowed) where
  forward := inferInstance
  agrees ending front := by
    unfold constancy
    refine .positioned (fun place => ReadsFront.agrees ending front) fun one another => ?_
    rintro ⟨_, _, _, _⟩ finished left result rfl done ends
    cases done
    obtain rfl := List.append_cancel_right ends
    rfl

/-- A bound with a name is read alike, relaxed or not. -/
instance (allowConstant : Bool) : ReadsFront (namedBound grammar allowConstant) := by
  unfold namedBound
  refine .andThen inferInstance fun _ => .andThen inferInstance fun _ => ?_
  refine .andThen inferInstance fun relaxation => ?_
  cases relaxation <;> infer_instance

/-- An entry of a list of captures is read alike. -/
instance : ReadsFront captured := by
  unfold captured
  infer_instance

/-- The captures of an opaque type are read alike, by induction on how many may still follow. -/
instance (fuel : Nat) (found : List Argument) : ReadsFront (capturedFrom fuel found) := by
  induction fuel generalizing found with
  | zero =>
    unfold capturedFrom
    infer_instance
  | succ fuel hypothesis =>
    unfold capturedFrom
    infer_instance

/-- A list of captures begins with a keyword, which neither end is. -/
instance (allowed : Bool) : ReadsFront (capture allowed) := by
  unfold capture
  refine .positioned (fun _ => ?_) fun _ => .bind (.bind (.keyword "use"))
  refine .andThen inferInstance fun _ => .andThen inferInstance fun _ => ?_
  exact .measured (fun _ => inferInstance) fun _ _ same => by rw [same]

/-- A constant bound is kept as the tokens that it has passed over. -/
instance (allowCapture allowConstant : Bool) :
    ReadsFront (bound grammar allowCapture allowConstant) := by
  unfold bound
  have kept (ending : Ending) (start front : List Token) (found : Bound) (constant : Bool) :
      Agree ending front
        (if constant then do return Bound.constant (← since (start ++ ending.declared))
          else pure found)
        (if constant then do return Bound.constant (← since (start ++ ending.implemented))
          else pure found) :=
    .ifElse (.bind .since inferInstance fun _ _ => .pure) .pure
  refine .andThen inferInstance fun _ => .ifElse inferInstance ?_
  refine .andThen inferInstance fun _ => .ifElse inferInstance ?_
  refine .recalled inferInstance fun ending start => ?_
  refine .bind (ReadsFront.agrees ending start) inferInstance fun enclosed front => ?_
  refine .ifElse ?_ ?_
  · refine .bind (ReadsFront.agrees ending front) inferInstance fun enclosed front => ?_
    exact .bind .pure inferInstance fun found front => kept ending start front found.1 found.2
  · refine .bind (ReadsFront.agrees ending front) inferInstance fun found front => ?_
    exact kept ending start front found.1 found.2

/-- Whether a bound begins next is the same at both ends. -/
instance (allowConstant : Bool) : TestsFront (startsBound allowConstant) := by
  unfold startsBound
  infer_instance

/-- Bounds go on as long as a plus sign follows, which neither end is. -/
instance (allowPlus allowCapture allowConstant : Bool) :
    ReadsFront (someBounds grammar allowPlus allowCapture allowConstant) := by
  unfold someBounds
  infer_instance

/-! Types. -/

/-- The bounds of a trait object are read alike behind the first one. -/
instance (start : Position) (allowPlus : Bool) :
    ReadsFront (objectBounds grammar start allowPlus) := by
  unfold objectBounds
  infer_instance

/-- A trait object that begins with a lifetime is read alike, and needs a bound in front of the
end. -/
instance : ReadsFront (lifetimeObject grammar) := by
  unfold lifetimeObject objectBounds someBounds
  exact .positioned (fun _ => inferInstance) fun _ =>
    .bind (.bind (.bind (Grammar.ReadsFront.boundStops false false)))

/-- A trait object that is kept as the tokens it has passed over passes over the same ones. -/
instance (allowPlus : Bool) : ReadsFront (dynType grammar allowPlus) := by
  unfold dynType
  refine .recalled inferInstance fun ending start => ?_
  refine .positioned (fun place => ?_) fun _ _ => (Stops.bind (.bind (.keyword "dyn"))).agree
  refine .bind (ReadsFront.agrees ending start) inferInstance fun _ front => ?_
  refine .bind (ReadsFront.agrees ending front) inferInstance fun _ front => ?_
  refine .bind (ReadsFront.agrees ending front) inferInstance fun _ front => ?_
  exact .ifElse (.bind .since inferInstance fun _ _ => .pure) .pure

/-- An opaque type begins with a keyword, which neither end is. -/
instance (allowPlus : Bool) : ReadsFront (opaqueType grammar allowPlus) := by
  unfold opaqueType
  exact .positioned (fun _ => inferInstance) fun _ => .bind (.bind (.keyword "impl"))

/-- Further bounds go on as long as a plus sign follows. -/
instance : ReadsFront (furtherBounds grammar) := by
  unfold furtherBounds
  infer_instance

/-- A type in parentheses is read alike, with the bounds that may follow it. -/
instance (allowPlus : Bool) : ReadsFront (parenthesizedType grammar allowPlus) := by
  unfold parenthesizedType
  refine .andThen inferInstance fun enclosed => ?_
  dsimp only
  split
  next => infer_instance
  next => infer_instance
  next => infer_instance
  next =>
    refine .andThen inferInstance fun plus => ?_
    split <;> infer_instance

/-- The name of a calling convention is announced by a word. -/
instance : ReadsFront abi := by
  unfold abi
  refine .andThen inferInstance fun found => ?_
  split <;> infer_instance

/-- A calling convention that is kept as code is read alike. -/
instance : ReadsFront abiCode := by
  unfold abiCode
  refine .andThen inferInstance fun found => ?_
  split <;> infer_instance

/-- A function type is read alike up to its return type. -/
instance : ReadsFront (functionType grammar) := by
  unfold functionType
  infer_instance

/-- A path that begins with a qualified type is read alike. -/
instance (style : PathStyle) : ReadsFront (qualifiedPath grammar style) := by
  unfold qualifiedPath
  have goesOn (front : Code) : ReadsFront (do
      let remaining ← tokens
      let rest ← repeatFrom (do
        if ← peek (Peek.mark "::") then
          let colons ← markCode "::"
          let (name, arguments) ← segment grammar style
          return some (colons ++ Code.word name ++ arguments.code style)
        else return none) (remaining.length + 1) []
      return front ++ rest.flatten) :=
    .measured (fun _ => inferInstance) fun _ _ same => by rw [same]
  infer_instance

/-- Whether a macro is called next is the same at both ends. -/
instance : TestsFront startsInvocation := by
  unfold startsInvocation
  infer_instance

/-- The call of a macro ends with its delimiters. -/
instance : ReadsFront invocation := by
  unfold invocation
  infer_instance

/-- A type that begins with a path is read alike, whatever the path turns out to be. -/
instance (binder : Code) (allowPlus : Bool) : ReadsFront (namedType grammar binder allowPlus) := by
  unfold namedType
  infer_instance

/-- A pointer type is read alike. -/
instance : ReadsFront (pointerType grammar) := by
  unfold pointerType
  infer_instance

/-- A reference type is read alike with its lifetime. -/
instance : ReadsFront (referenceType grammar) := by
  unfold referenceType
  infer_instance

/-- A slice or an array stands in brackets. -/
instance : ReadsFront (bracketedType grammar) := by
  unfold bracketedType
  infer_instance

/-- Whether a function type begins next is the same at both ends. -/
instance : TestsFront startsFunctionType := by
  unfold startsFunctionType
  infer_instance

/-- Whether a type begins with a path is the same at both ends. -/
instance : TestsFront startsNamedType := by
  unfold startsNamedType
  infer_instance

/-- A type behind a binder is read alike. -/
instance (allowPlus : Bool) : ReadsFront (boundType grammar allowPlus) := by
  unfold boundType
  infer_instance

/-- A type is read alike, whatever it begins with. -/
instance (allowPlus : Bool) : ReadsFront (typeReading grammar allowPlus) := by
  unfold typeReading
  infer_instance

/-- A declared type is read alike. -/
instance (allowPlus : Bool) : ReadsFront (declaredType grammar allowPlus) := by
  unfold declaredType
  infer_instance

/-! Generic parameters, conditions and signatures. -/

/-- A generic parameter is read alike with its attributes. -/
instance : ReadsFront (genericParameter grammar) := by
  unfold genericParameter
  infer_instance

/-- Generic parameters end with a closing angle, in front of either end. -/
instance : ReadsFront (generics grammar) := by
  unfold generics
  infer_instance

/-- Whether generic parameters open next is the same at both ends. -/
instance : TestsFront opensGenerics := by
  unfold opensGenerics
  infer_instance

/-- Conditions end at a body as well as at a semicolon. -/
instance : TestsFront endsConditions where
  agrees ending front := by
    cases front with
    -- Each end is told by a test of its own, which the other end fails.
    | nil => rfl
    | cons token front =>
      have colon : TestsFront fun tokens => Peek.mark ":" tokens && !Peek.mark "::" tokens :=
        inferInstance
      unfold endsConditions
      rw [colon.agrees]
      cases token <;> rfl

/-- A condition of a where clause is read alike. -/
instance : ReadsFront (predicate grammar) := by
  unfold predicate
  infer_instance

/-- A where clause is read alike where there is one, and may end without a last comma. -/
instance : ReadsFront (whereClause? grammar) := by
  unfold whereClause?
  refine .andThen inferInstance fun found => ?_
  split
  next => infer_instance
  next =>
    refine .andThen inferInstance fun _ => .ifElse ?_ inferInstance
    exact .positioned (fun _ => inferInstance) fun _ => .bind fun _ _ _ => ⟨_, rfl⟩

/-- The return type of a function is announced by an arrow. -/
instance : ReadsFront (returnType grammar) := by
  unfold returnType
  refine .andThen inferInstance fun found => ?_
  split <;> infer_instance

/-- A signature is read alike from its qualifiers to its conditions. -/
instance (allowSafe : Bool) : ReadsFront (signatureOf grammar allowSafe) := by
  unfold signatureOf
  infer_instance

/-- The signature of a method is read alike. -/
instance : ReadsFront (signature grammar) := by
  unfold signature
  infer_instance

end Parse

open Parse in
/-- However deep the grammar nests, the two ends are told apart by none of its parts. -/
instance readsFrontGrammar (depth : Nat) : Grammar.ReadsFront (grammar depth) := by
  induction depth with
  | zero =>
    exact {
      type := fun _ => inferInstanceAs (ReadsFront (failExpected []))
      typeReading := fun _ => inferInstanceAs (ReadsFront (failExpected []))
      bound := fun _ _ => inferInstanceAs (ReadsFront (failExpected []))
      typeStops := fun _ _ _ _ => ⟨_, rfl⟩
      boundStops := fun _ _ _ _ _ => ⟨_, rfl⟩ }
  | succ depth hypothesis =>
    exact {
      type := fun allowPlus => inferInstanceAs (ReadsFront (declaredType (grammar depth) allowPlus))
      typeReading := fun allowPlus =>
        inferInstanceAs (ReadsFront (typeReading (grammar depth) allowPlus))
      bound := fun allowCapture allowConstant =>
        inferInstanceAs (ReadsFront (bound (grammar depth) allowCapture allowConstant))
      typeStops := by
        rintro allowPlus ending ⟨_, _, _, _⟩ rfl
        exact ⟨_, rfl⟩
      boundStops := by
        rintro allowCapture allowConstant ending ⟨_, _, _, _⟩ rfl
        exact ⟨_, rfl⟩ }

end DataAccess
