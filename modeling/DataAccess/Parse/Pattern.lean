/-
This file reads patterns.
-/

import DataAccess.Parse.Type

namespace DataAccess.Parse

open DataAccess.Parser

def patternChoices : List Expectation :=
  [.identifier, .token "::", .token "<", .token "_", .literal, .token "const", .token "ref",
    .token "mut", .token "&", .enclosed .parenthesis, .enclosed .bracket, .token "..",
    .token "const"]

/-- What can limit the range of a pattern. -/
def limitChoices : List Expectation :=
  [.literal, .identifier, .token "::", .token "<", .token "self", .token "Self", .token "super",
    .token "crate", .token "const"]

def continuesAlternatives (tokens : List Token) : Bool :=
  Peek.mark "|" tokens && !Peek.mark "||" tokens && !Peek.mark "|=" tokens

/-- Alternatives, of which the first may also follow a bar; the formatter leaves out that one. -/
def patternAlternatives (grammar : Grammar) : Parser Pattern := do
  let leading ← markCode? "|"
  let first ← grammar.pattern
  let rest ← repeatStep do
    if ← peek continuesAlternatives then
      let bar ← markCode "|"
      return some (bar ++ (← grammar.pattern).code)
    else return none
  if leading.isEmpty && rest.isEmpty then return first
  else return .other (leading.leaveOut ++ first.code ++ rest.flatten)

/-- The end of a range can be left out where the range itself ends. -/
def endsRange (tokens : List Token) : Bool :=
  tokens.isEmpty || Peek.mark "|" tokens || Peek.mark "=" tokens ||
    (Peek.mark ":" tokens && !Peek.mark "::" tokens) || Peek.mark "," tokens ||
    Peek.mark ";" tokens || Peek.word "if" tokens

def rangeLimit (grammar : Grammar) : Parser Code := do
  let next ← tokens
  if Peek.literal next then literalCode
  else if Peek.identifier next || Peek.mark "::" next || Peek.pathWord next ||
      Peek.word "Self" next then
    return (← path grammar .expression).code .expression
  else if Peek.mark "<" next then qualifiedPath grammar .expression
  else if Peek.word "const" next then do
    let keyword ← keywordCode "const"
    return keyword ++ (← block grammar).inline
  else failExpected limitChoices

/-- The dots of a range, and whether they say that it has an upper limit. -/
structure RangeDots where
  position : Position
  code : Code
  closed : Bool

/-- Behind a lower limit, three dots are an old form of a closed range. -/
def rangeDots (allowThree : Bool) : Parser RangeDots := do
  let start ← position
  if ← peek (Peek.mark "..=") then return ⟨start, ← markCode "..=", true⟩
  else if ← peek (Peek.mark "...") then
    if allowThree then
      let _ ← mark "..."
      return ⟨start, Code.mark "..=" start, true⟩
    else failExpected [.token "..="]
  else return ⟨start, ← markCode "..", false⟩

/-- The dots of a range and perhaps an upper limit. -/
def rangeRest (grammar : Grammar) (allowThree : Bool) : Parser (RangeDots × Option Code) := do
  let dots ← rangeDots allowThree
  if ← peek endsRange then
    if dots.closed then failExpected [.phrase "range upper bound"] else return (dots, none)
  else return (dots, some (← rangeLimit grammar))

/-- A lower limit is a pattern itself unless dots follow. -/
def limitPattern (grammar : Grammar) (lower : Code) : Parser Pattern := do
  if ← peek (Peek.mark "..") then
    match ← rangeRest grammar true with
    | (dots, none) => return .halfOpen dots.position (lower ++ dots.code)
    | (dots, some upper) => return .other (lower ++ dots.code ++ upper)
  else return .other lower

/-- A range without a lower limit, or the rest of what a pattern takes apart. -/
def openRangePattern (grammar : Grammar) : Parser Pattern := do
  match ← rangeRest grammar false with
  | (dots, none) => return .other dots.code
  | (dots, some upper) => return .halfOpen dots.position (dots.code ++ upper)

/-- The name or the number of a field. -/
def member : Parser (Code × Bool) := do
  let start ← position
  match ← tokens with
  | .word name :: rest =>
      if Text.Identifier.isReserved name.text then
        failExpected [.phrase "identifier or integer"]
      else do
        take rest
        return (Code.word name, true)
  | next =>
      let (negative, digits) :=
        match next with
        | .mark '-' _ _ :: rest => (true, rest)
        | _ => (false, next)
      match digits with
      | .literal spelling _ :: rest =>
          if Peek.isNumber spelling && !FieldNumber.isFloat spelling then
            match FieldNumber.ofSpelling negative spelling with
            | .ok value => do
                take rest
                return (Code.ofTokens [.literal (toString value) start], false)
            | .error problem => failAt (.fieldNumber problem) start
          else failExpected [.phrase "identifier or integer"]
      | _ => failExpected [.phrase "identifier or integer"]

/-- A field of a struct pattern is a name with markings, or a member with its own pattern. A boxed
field keeps its tokens unchanged. -/
def fieldPattern (grammar : Grammar) : Parser Code := do
  let beginning ← tokens
  let boxed ← keyword? "box"
  let reference ← keywordCode? "ref"
  let mutability ← keywordCode? "mut"
  if boxed.isSome || !reference.isEmpty || !mutability.isEmpty then
    let name ← identifierCode
    if boxed.isSome then refusedSince .pattern beginning
    else return reference ++ mutability ++ name
  else
    let (member, named) ← member
    if !named || (← peek (Peek.mark ":")) then
      let colon ← markCode ":"
      return member ++ colon ++ (← patternAlternatives grammar).code
    else return member

/-- The fields of a struct pattern, the latest first; two dots end them. -/
def fieldPatternsFrom (grammar : Grammar) :
    Nat → List (Separated Code) → Parser (List (Separated Code))
  | 0, found => return found.reverse
  | fuel + 1, found => do
      if ← isEmpty then return found.reverse
      let attributes ← outerAttributeCode grammar
      if ← peek (Peek.mark "..") then
        let dots ← markCode ".."
        return (⟨attributes ++ dots, none⟩ :: found).reverse
      let field ← fieldPattern grammar
      if ← isEmpty then return (⟨attributes ++ field, none⟩ :: found).reverse
      let comma ← mark ","
      fieldPatternsFrom grammar fuel (⟨attributes ++ field, some comma⟩ :: found)

def fieldPatterns (grammar : Grammar) : Parser Code :=
  groupCode .brace do
    let remaining ← tokens
    return Separated.code "," (← fieldPatternsFrom grammar (remaining.length + 1) [])

def tuplePatterns (grammar : Grammar) : Parser Code :=
  groupCode .parenthesis (terminatedCode do return (← patternAlternatives grammar).code)

/-- A range that lacks a limit would be misread among the elements of a slice. -/
def slicePattern (grammar : Grammar) : Parser Code :=
  groupCode .bracket <| terminatedCode do
    match ← patternAlternatives grammar with
    | .halfOpen dots _ => failAt .openRangeInSlice dots
    | element => return element.code

/-- A path is a pattern itself, or begins a macro, a struct, a tuple or a range. -/
def pathPattern (grammar : Grammar) : Parser Pattern := do
  let (found, namesOnly) ←
    if ← peek (Peek.mark "<") then do
      let qualified ← qualifiedPath grammar .expression
      pure (qualified, false)
    else do
      let found ← path grammar .expression
      pure (found.code .expression, found.namesOnly)
  if namesOnly && (← peek startsInvocation) then
    let (_, body) ← invocation
    return .other (found ++ body)
  else if ← peek (Peek.group .brace) then return .other (found ++ (← fieldPatterns grammar))
  else if ← peek (Peek.group .parenthesis) then
    return .other (found ++ (← tuplePatterns grammar))
  else limitPattern grammar found

def namedPattern (grammar : Grammar) : Parser Pattern := do
  let reference ← keyword? "ref"
  let mutability ← keyword? "mut"
  let name ← if ← peek (Peek.word "self") then anyWord else identifier
  if ← peek (Peek.mark "@") then
    let at_ ← markCode "@"
    let inner ← grammar.pattern
    return .named reference mutability name (some (at_ ++ inner.code))
  else return .named reference mutability name none

def referencePattern (grammar : Grammar) : Parser Code := do
  let ampersand ← markCode "&"
  let mutability ← keywordCode? "mut"
  return ampersand ++ mutability ++ (← grammar.pattern).code

def boxedPattern (grammar : Grammar) : Parser Code := do
  let beginning ← tokens
  let _ ← keyword "box"
  let _ ← grammar.pattern
  refusedSince .pattern beginning

def startsPathPattern (tokens : List Token) : Bool :=
  let second := tokens.drop 1
  (Peek.identifier tokens && (Peek.mark "::" second || Peek.mark "!" second ||
    Peek.group .brace second || Peek.group .parenthesis second || Peek.mark ".." second)) ||
    (Peek.word "self" tokens && Peek.mark "::" second) || Peek.mark "::" tokens ||
    Peek.mark "<" tokens || Peek.anyOf ["Self", "super", "crate"] tokens

/-- A single pattern, without alternatives. -/
def pattern (grammar : Grammar) : Parser Pattern := do
  let next ← tokens
  if startsPathPattern next then pathPattern grammar
  else if Peek.word "_" next then return .other (← anyWordCode)
  else if Peek.word "box" next then return .other (← boxedPattern grammar)
  else if Peek.mark "-" next || Peek.literal next || Peek.word "const" next then
    limitPattern grammar (← rangeLimit grammar)
  else if Peek.identifier next || Peek.anyOf ["ref", "mut", "self"] next then
    namedPattern grammar
  else if Peek.mark "&" next then return .other (← referencePattern grammar)
  else if Peek.group .parenthesis next then return .other (← tuplePatterns grammar)
  else if Peek.group .bracket next then return .other (← slicePattern grammar)
  else if Peek.mark ".." next && !Peek.mark "..." next then openRangePattern grammar
  else failExpected patternChoices

end DataAccess.Parse
