/-
This file reads declared types.
-/

import DataAccess.Parse.TypePath

namespace DataAccess.Parse

open DataAccess.Parser

/-- The beginnings of a type, in the order in which messages list them. -/
def typeChoices : List Expectation :=
  [.token "for", .enclosed .parenthesis, .token "fn", .token "unsafe", .token "extern",
    .identifier, .token "::", .token "<", .token "dyn", .enclosed .bracket, .token "*",
    .token "&", .token "!", .token "impl", .token "_", .lifetime]

/-- What can stand behind a binder of lifetimes. -/
def boundTypeChoices : List Expectation :=
  [.identifier, .token "fn", .token "unsafe", .token "extern", .token "super", .token "self",
    .token "Self", .token "crate"]

def namesTrait : Bound → Bool
  | .named _ _ _ _ _ _ => true
  | .constant _ => true
  | .other _ => false

/-- The bounds of an object type name at least one trait. -/
def objectBounds (grammar : Grammar) (start : Position) (allowPlus : Bool) : Parser Code := do
  let bounds ← someBounds grammar allowPlus false false
  if bounds.any fun bound => namesTrait bound.entry then return boundsCode bounds
  else failAt .objectWithoutTrait start

/-- An object type that is written as its bounds alone; the formatter writes the keyword. -/
def bareObject (bounds : Code) : Code :=
  .inserted "dyn " :: bounds

/-- The bounds of an object type begin with a lifetime. -/
def lifetimeObject (grammar : Grammar) : Parser Code := do
  let start ← position
  return bareObject (← objectBounds grammar start true)

/-- A raw object type keeps its tokens unchanged. -/
def dynType (grammar : Grammar) (allowPlus : Bool) : Parser Code := do
  let beginning ← tokens
  let start ← position
  let keyword ← keywordCode "dyn"
  let star ← mark? "*"
  let bounds ← objectBounds grammar start allowPlus
  if star.isSome then refusedSince .type beginning else return keyword ++ bounds

def opaqueType (grammar : Grammar) (allowPlus : Bool) : Parser Code := do
  let start ← position
  let keyword ← keywordCode "impl"
  let bounds ← someBounds grammar allowPlus true true
  if bounds.any fun bound => namesTrait bound.entry then
    return keyword ++ boundsCode bounds
  else failAt .opaqueWithoutTrait start

/-- Further bounds of an object type whose first bound has been read. -/
def furtherBounds (grammar : Grammar) : Parser Code := do
  let parts ← repeatStep do
    if ← peek (Peek.mark "+") then
      let plus ← markCode "+"
      return some (plus ++ (← grammar.bound false false).code)
    else return none
  return parts.flatten

/-- What stands between the parentheses of a type. -/
inductive ParenthesizedType where
  | unit
  | single (inner : TypeReading)
  | relaxed (bound : Bound)
  | several (code : Code)

def parenthesizedInside (grammar : Grammar) : Parser ParenthesizedType := do
  if ← isEmpty then return .unit
  else if ← peek Peek.lifetime then return .single (.ofCode (← lifetimeObject grammar))
  else if ← peek (Peek.mark "?") then return .relaxed (← namedBound grammar false).1
  else
    let first ← grammar.typeReading true
    if ← peek (Peek.mark ",") then
      let comma ← mark ","
      let rest ← terminated do return (← grammar.type true).code
      return .several (Separated.code "," (⟨first.type.code, some comma⟩ :: rest))
    else return .single first

/-- Parentheses hold nothing, a type, several types, or the first bound of an object type. -/
def parenthesizedType (grammar : Grammar) (allowPlus : Bool) : Parser TypeReading := do
  let enclosed ← group .parenthesis (parenthesizedInside grammar)
  let wrap (inside : Code) : Code :=
    [.group .parenthesis enclosed.opening enclosed.closing inside]
  match enclosed.value with
  | .unit => return ⟨.unit enclosed.opening enclosed.closing, none⟩
  | .several code => return .ofCode (wrap code)
  | .relaxed bound =>
      let further ← furtherBounds grammar
      return ⟨.other (bareObject (wrap bound.code ++ further)),
        if further.isEmpty then some bound.code else none⟩
  | .single found =>
      match found.bound, allowPlus && (← peek (Peek.mark "+")) with
      | some bound, true =>
          return .ofCode (bareObject (wrap bound ++ (← furtherBounds grammar)))
      | _, _ => return ⟨.parenthesized enclosed.opening enclosed.closing found.type, none⟩

/-- A name in front of an argument of a function type. -/
def startsNamed (test : List Token → Bool) (tokens : List Token) : Bool :=
  test tokens && Peek.mark ":" (tokens.drop 1) && !Peek.mark "::" (tokens.drop 1)

def isArgumentName (tokens : List Token) : Bool :=
  Peek.identifier tokens || Peek.word "_" tokens

/-- Three dots, perhaps behind a name, end the arguments of a function type. -/
def startsVariadic (tokens : List Token) : Bool :=
  Peek.mark "..." tokens ||
    (isArgumentName tokens && Peek.mark ":" (tokens.drop 1) && Peek.mark "..." (tokens.drop 2))

def variadicArgument : Parser Code := do
  let name ←
    if ← peek isArgumentName then do
      let name ← anyWordCode
      pure (name ++ (← markCode ":"))
    else pure []
  let dots ← markCode "..."
  return name ++ dots ++ (← markCode? ",")

def startsMutableSelf (tokens : List Token) : Bool :=
  Peek.word "mut" tokens && Peek.word "self" (tokens.drop 1)

/-- An argument of a function type may have a name. The first one may look like a receiver; a
mutable receiver keeps its tokens unchanged. -/
def functionArgument (grammar : Grammar) (first : Bool) : Parser Code := do
  let beginning ← tokens
  let mutable := first && startsMutableSelf beginning
  if mutable then
    let _ ← keyword "mut"
  let isName (tokens : List Token) : Bool :=
    isArgumentName tokens || (first && Peek.word "self" tokens)
  let named ← peek (startsNamed isName)
  let itself ← peek (Peek.word "self")
  let name ←
    if named then do
      let name ← anyWordCode
      pure (name ++ (← markCode ":"))
    else pure []
  if first && !(named && itself) && (← peek startsMutableSelf) then
    let _ ← keyword "mut"
    let _ ← keyword "self"
    refusedSince .type beginning
  else if mutable && !named then
    let _ ← keyword "self"
    refusedSince .type beginning
  else
    let declared ← grammar.type true
    if mutable then refusedSince .type beginning else return name ++ declared.code

/-- The arguments of a function type, those read so far the latest first. -/
def functionArgumentsFrom (grammar : Grammar) :
    Nat → List (Separated Code) → Parser (List (Separated Code))
  | 0, found => return found.reverse
  | fuel + 1, found => do
      if ← isEmpty then return found.reverse
      let attributes ← outerAttributeCode grammar
      if ← peek startsVariadic then
        let variadic ← variadicArgument
        return (⟨attributes ++ variadic, none⟩ :: found).reverse
      let argument ← functionArgument grammar found.isEmpty
      if ← isEmpty then return (⟨attributes ++ argument, none⟩ :: found).reverse
      let comma ← mark ","
      functionArgumentsFrom grammar fuel (⟨attributes ++ argument, some comma⟩ :: found)

def functionArguments (grammar : Grammar) : Parser Code := do
  let remaining ← tokens
  return Separated.code "," (← functionArgumentsFrom grammar (remaining.length + 1) [])

def abi : Parser (Option Abi) := do
  match ← keyword? "extern" with
  | none => return none
  | some position =>
      if ← peek Peek.stringLiteral then return some ⟨position, some (← stringLiteral)⟩
      else return some ⟨position, none⟩

def abiCode : Parser Code := do
  match ← abi with
  | some abi => return abi.code
  | none => return []

def functionType (grammar : Grammar) : Parser Code := do
  let unsafety ← keywordCode? "unsafe"
  let abi ← abiCode
  let keyword ← keywordCode "fn"
  let inputs ← groupCode .parenthesis (functionArguments grammar)
  let output ← returnCode grammar false
  return unsafety ++ abi ++ keyword ++ inputs ++ output

/-- A path whose first part is a type in angle brackets. -/
def qualifiedPath (grammar : Grammar) (style : PathStyle) : Parser Code := do
  let opening ← markCode "<"
  let this ← grammar.type true
  let trait ←
    if ← peek (Peek.word "as") then do
      let keyword ← keywordCode "as"
      pure (keyword ++ (← path grammar .type).code .type)
    else pure []
  let closing ← markCode ">"
  let colons ← markCode "::"
  let (name, arguments) ← segment grammar style
  let remaining ← tokens
  let rest ← repeatFrom (do
    if ← peek (Peek.mark "::") then
      let colons ← markCode "::"
      let (name, arguments) ← segment grammar style
      return some (colons ++ Code.word name ++ arguments.code style)
    else return none) (remaining.length + 1) []
  return opening ++ this.code ++ trait ++ closing ++ colons ++ Code.word name ++
    arguments.code style ++ rest.flatten

def startsInvocation (tokens : List Token) : Bool :=
  Peek.mark "!" tokens && !Peek.mark "!=" tokens

/-- The formatter writes what is in the braces of a macro on lines of its own. -/
def macroBody : Token → Code
  | .group .brace opening closing (first :: rest) =>
      [.token (.group .brace opening closing (first :: rest)), .lineBreak]
  | body => [.token body]

/-- The rest of an invocation behind the name of the macro: its delimiter and its code. -/
def invocation : Parser (Delimiter × Code) := do
  let bang ← markCode "!"
  let (delimiter, body) ← anyGroup
  return (delimiter, bang ++ macroBody body)

/-- A path is a type, the name of a macro, or the first bound of an object type. -/
def namedType (grammar : Grammar) (binder : Code) (allowPlus : Bool) :
    Parser TypeReading := do
  if ← peek (Peek.mark "<") then return .ofCode (← qualifiedPath grammar .type)
  let found ← path grammar .type
  if found.namesOnly && (← peek startsInvocation) then
    let (_, body) ← invocation
    return .ofCode (found.code .type ++ body)
  else if allowPlus && (← peek (Peek.mark "+")) then
    let plus ← mark "+"
    let further ← listWhile (fun tokens => !startsBound false tokens) "+"
      (grammar.bound false false)
    let bounds := ⟨binder ++ found.code .type, some plus⟩ ::
      further.map (Separated.map Bound.code)
    return .ofCode (bareObject (Separated.code "+" bounds))
  else if !binder.isEmpty then
    let bound := binder ++ found.code .type
    return ⟨.other (bareObject bound), some bound⟩
  else return ⟨found.type, some (found.code .type)⟩

def pointerType (grammar : Grammar) : Parser Code := do
  let star ← markCode "*"
  let qualifier ←
    if ← peek (Peek.word "const") then keywordCode "const"
    else if ← peek (Peek.word "mut") then keywordCode "mut"
    else failExpected [.token "const", .token "mut"]
  return star ++ qualifier ++ (← grammar.type false).code

def referenceType (grammar : Grammar) : Parser DeclaredType := do
  let ampersand ← mark "&"
  let name ← lifetime?
  let mutability ← keyword? "mut"
  return .reference ampersand name mutability (← grammar.type false)

def bracketedType (grammar : Grammar) : Parser Code :=
  groupCode .bracket do
    let element ← grammar.type true
    if ← peek (Peek.mark ";") then
      let semicolon ← markCode ";"
      return element.code ++ semicolon ++ (← grammar.expression true).code
    else return element.code

def startsNamedType (tokens : List Token) : Bool :=
  Peek.identifier tokens || Peek.anyOf ["super", "self", "Self", "crate"] tokens ||
    Peek.mark "::" tokens || Peek.mark "<" tokens

def startsFunctionType (tokens : List Token) : Bool :=
  Peek.anyOf ["fn", "unsafe", "extern"] tokens

/-- A type behind a binder of lifetimes is a function type or begins with a bound. -/
def boundType (grammar : Grammar) (allowPlus : Bool) : Parser TypeReading := do
  let binder ← binder grammar
  if ← peek startsFunctionType then return .ofCode (binder ++ (← functionType grammar))
  else if ← peek fun tokens => Peek.identifier tokens ||
      Peek.anyOf ["super", "self", "Self", "crate"] tokens then
    namedType grammar binder allowPlus
  else failExpected boundTypeChoices

/-- A type together with the bound that it can be. -/
def typeReading (grammar : Grammar) (allowPlus : Bool) : Parser TypeReading := do
  let next ← tokens
  if Peek.word "for" next then boundType grammar allowPlus
  else if Peek.group .parenthesis next then parenthesizedType grammar allowPlus
  else if startsFunctionType next then return .ofCode (← functionType grammar)
  else if startsNamedType next then namedType grammar [] allowPlus
  else if Peek.word "dyn" next then return .ofCode (← dynType grammar allowPlus)
  else if Peek.group .bracket next then return .ofCode (← bracketedType grammar)
  else if Peek.mark "*" next then return .ofCode (← pointerType grammar)
  else if Peek.mark "&" next then return ⟨← referenceType grammar, none⟩
  else if Peek.mark "!" next then return .ofCode (← markCode "!")
  else if Peek.word "impl" next then return .ofCode (← opaqueType grammar allowPlus)
  else if Peek.word "_" next then return .ofCode (← anyWordCode)
  else if Peek.lifetime next then return .ofCode (← lifetimeObject grammar)
  else failExpected typeChoices

def declaredType (grammar : Grammar) (allowPlus : Bool) : Parser DeclaredType := do
  return (← typeReading grammar allowPlus).type

end DataAccess.Parse
