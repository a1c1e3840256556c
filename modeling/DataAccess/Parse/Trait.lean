/-
This file reads traits.
-/

import DataAccess.Parse.Statement

namespace DataAccess.Parse

open DataAccess.Parser

/-- The inside of a restriction: a place, or a path behind `in`, which the formatter leaves out
before a single place. -/
def restriction : Parser Code := do
  let isPlace (name : String) : Bool := ["crate", "self", "super"].contains name
  if ← peek (Peek.anyOf ["crate", "self", "super"]) then
    let name ← anyWordCode
    if ← isEmpty then return name else failExpected []
  else if ← peek (Peek.word "in") then
    let within ← keywordCode "in"
    let place ← namePath
    let alone := place.leading.isNone && place.qualifier.isEmpty && isPlace place.last.text
    return (if alone then within.leaveOut else within) ++ place.code
  else failExpected []

/-- A restriction of visibility is part of it only when nothing else stands in its parentheses. -/
def visibility : Parser Code := do
  let keyword ← keywordCode? "pub"
  if keyword.isEmpty then return []
  match ← tokens with
  | .group .parenthesis opening closing inner :: _ =>
      let restricted := groupCode .parenthesis restriction
      if Peek.word "in" inner then return keyword ++ (← restricted)
      else
        match ← attempt restricted with
        | some _ => return keyword ++ Code.ofTokens [.group .parenthesis opening closing inner]
        | none => return keyword
  | _ => return keyword

def itemChoicesEnd : List Expectation :=
  [.identifier, .token "self", .token "super", .token "crate", .token "::"]

def traitItemChoices : List Expectation :=
  [.token "fn", .token "const", .token "type"] ++ itemChoicesEnd

/-- The body of a function: its attributes, and its statements between their braces. -/
def functionBody (grammar : Grammar) : Parser (List Attribute × Body) := do
  let enclosed ← group .brace do
    let attributes ← innerAttributes grammar
    return (attributes, BlockStatement.listCode (← grammar.statements))
  return (enclosed.value.1, ⟨enclosed.opening, enclosed.closing, enclosed.value.2⟩)

/-- A method of a trait ends in a semicolon or in a default body, whose inner attributes belong to
the method. -/
def traitMethod (grammar : Grammar) (attributes : List Attribute) : Parser Method := do
  let signature ← signature grammar
  if ← peek (Peek.group .brace) then
    let (inner, body) ← functionBody grammar
    return ⟨attributes ++ inner, signature, some body, body.closing⟩
  else if ← peek (Peek.mark ";") then
    return ⟨attributes, signature, none, ← mark ";"⟩
  else failExpected [.enclosed .brace, .token ";"]

def wordOrUnderscore : Parser Code := do
  if ← peek fun tokens => Peek.identifier tokens || Peek.word "_" tokens then anyWordCode
  else failExpected [.identifier, .token "_"]

/-- A constant of a trait, of an implementation or of a module. A general one has parameters or
conditions of its own. -/
structure ConstantReading where
  code : Code
  isGeneral : Bool
  hasValue : Bool

def constant (grammar : Grammar) : Parser ConstantReading := do
  let keyword ← keywordCode "const"
  let name ← wordOrUnderscore
  let hasParameters ← peek (Peek.mark "<")
  let parameters ← generics grammar
  let colon ← markCode ":"
  let declared ← grammar.type true
  let value ←
    if ← peek (Peek.mark "=") then do
      let equals ← markCode "="
      pure (equals ++ (← grammar.expression true).code)
    else pure []
  let conditions ← whereClause? grammar
  let semicolon ← markCode ";"
  return {
    code := keyword ++ name ++ parameters.code ++ colon ++ declared.code ++ value ++ semicolon
    isGeneral := hasParameters || conditions.isSome
    hasValue := !value.isEmpty }

/-- Where the conditions of a type definition can stand. -/
inductive ConditionPlace where
  | beforeDefinition
  | behindDefinition
  | either
deriving DecidableEq, Repr

/-- The parts of a type that is declared rather than used. -/
structure TypeDefinition where
  head : Code
  colon : Code
  bounds : Code
  conditions : Code
  definition : Code
  semicolon : Code

def typeDefinition (grammar : Grammar) (place : ConditionPlace) : Parser TypeDefinition := do
  let keyword ← keywordCode "type"
  let name ← identifierCode
  let parameters ← generics grammar
  let colon ← markCode? ":"
  let stops (tokens : List Token) : Bool :=
    Peek.word "where" tokens || Peek.mark "=" tokens || Peek.mark ";" tokens
  let bounds ←
    if colon.isEmpty then pure []
    else do
      pure (boundsCode (← listUntil stops "+" (grammar.bound false true)))
  let early ← if place = .behindDefinition then pure none else whereClause? grammar
  let definition ←
    if ← peek (Peek.mark "=") then do
      let equals ← markCode "="
      pure (equals ++ (← grammar.type true).code)
    else pure []
  let late ←
    if place = .beforeDefinition || early.isSome then pure none else whereClause? grammar
  let semicolon ← markCode ";"
  let conditions :=
    match early.or late with
    | some clause => clause.code
    | none => []
  return ⟨keyword ++ name ++ parameters.code, colon, bounds, conditions, definition, semicolon⟩

/-- A type of a trait: its bounds are printed only when there are some. -/
def traitType (grammar : Grammar) : Parser Code := do
  let found ← typeDefinition grammar .behindDefinition
  return found.head ++ (if found.bounds.isEmpty then [] else found.colon ++ found.bounds) ++
    found.definition ++ found.conditions ++ found.semicolon

/-- A macro among items ends in a semicolon unless it ends in a brace. -/
def itemInvocation : Parser Code := do
  let found ← namePath
  let (delimiter, body) ← invocation
  let semicolon ← if delimiter = .brace then pure [] else markCode ";"
  return found.code ++ body ++ semicolon

def startsInvocationItem (tokens : List Token) : Bool :=
  Peek.identifier tokens || Peek.pathWord tokens || Peek.mark "::" tokens

/-- An item of a trait. One with a visibility or a default marking keeps its tokens unchanged. -/
def traitItem (grammar : Grammar) : Parser TraitItem := do
  let beginning ← tokens
  let attributes ← outerAttributes grammar
  let exposure ← visibility
  let defaultness ← keywordCode? "default"
  let plain := exposure.isEmpty && defaultness.isEmpty
  let front := Attribute.outerCode attributes
  let unchanged : Parser TraitItem := do
    return .other (← refusedSince .traitItem beginning)
  let found : TraitItem ← do
    if (← peek (Peek.word "fn")) || (← startsSignature false) then
      pure (TraitItem.method (← traitMethod grammar attributes))
    else if ← peek (Peek.word "const") then
      let start ← tokens
      if Peek.identifier (start.drop 1) || Peek.word "_" (start.drop 1) then
        let found ← constant grammar
        if found.isGeneral then unchanged else pure (TraitItem.other (front ++ found.code))
      else if Peek.anyOf ["async", "unsafe", "extern", "fn"] (start.drop 1) then
        pure (TraitItem.method (← traitMethod grammar attributes))
      else
        let _ ← keyword "const"
        failExpected [.identifier, .token "_", .token "async", .token "unsafe", .token "extern",
          .token "fn"]
    else if ← peek (Peek.word "type") then
      pure (TraitItem.other (front ++ (← traitType grammar)))
    else if plain && (← peek startsInvocationItem) then
      pure (TraitItem.other (front ++ (← itemInvocation)))
    else if plain then failExpected traitItemChoices
    else failExpected [.token "fn", .token "const", .token "type"]
  if plain then return found else unchanged

def supertraits (grammar : Grammar) : Parser (Position × List (Separated Bound)) := do
  match ← mark? ":" with
  | none => return (.callSite, [])
  | some colon =>
      let stops (tokens : List Token) : Bool :=
        Peek.word "where" tokens || Peek.group .brace tokens
      return (colon, ← listUntil stops "+" (grammar.bound false true))

/-- A trait from the colon of its supertraits on. -/
def traitRest (grammar : Grammar) (attributes : List Attribute) (visibility : Code)
    (unsafety automatic : Option Position) (keyword : Position) (name : Name)
    (generics : Generics) : Parser TraitDeclaration := do
  let (colon, supertraits) ← supertraits grammar
  let conditions ← whereClause? grammar
  let enclosed ← group .brace do
    let inner ← innerAttributes grammar
    let items ← untilEmpty (traitItem grammar)
    return (inner, items)
  return {
    attributes := attributes ++ enclosed.value.1
    visibility, unsafety, automatic, keyword, name
    generics := { generics with whereClause := conditions }
    colon, supertraits
    opening := enclosed.opening
    closing := enclosed.closing
    items := enclosed.value.2 }

def traitDeclaration (grammar : Grammar) : Parser TraitDeclaration := do
  let attributes ← outerAttributes grammar
  let visibility ← visibility
  let unsafety ← keyword? "unsafe"
  let automatic ← keyword? "auto"
  let keyword ← keyword "trait"
  let name ← identifier
  let generics ← generics grammar
  traitRest grammar attributes visibility unsafety automatic keyword name generics

end DataAccess.Parse
