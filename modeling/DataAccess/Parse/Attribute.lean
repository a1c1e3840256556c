/-
This file reads attributes.
-/

import DataAccess.Parse.Grammar

namespace DataAccess.Parse

open DataAccess.Parser

def namePathStart (tokens : List Token) : Bool :=
  Peek.identifier tokens || Peek.anyOf ["super", "self", "Self", "crate"] tokens

/-- The segments before the last one are answered the latest first. -/
def namePathFrom (leading : Option Position) :
    Nat → List (Name × Position) → Parser NamePath
  | 0, _ => failExpected [.identifier]
  | fuel + 1, qualifier => do
      if ← peek namePathStart then
        let name ← anyWord
        if ← peek (Peek.mark "::") then
          let colons ← mark "::"
          namePathFrom leading fuel ((name, colons) :: qualifier)
        else return ⟨leading, qualifier.reverse, name⟩
      else if qualifier.isEmpty then
        let name ← identifier
        return ⟨leading, [], name⟩
      else failExpected [.phrase "path segment after `::`"]

def namePath : Parser NamePath := do
  let leading ← mark? "::"
  let remaining ← tokens
  namePathFrom leading (remaining.length + 1) []

/-- The path of an attribute can be the word `unsafe` alone. -/
def attributePath : Parser NamePath := do
  if ← peek (Peek.word "unsafe") then return ⟨none, [], ← anyWord⟩ else namePath

/-- A value that is one literal is taken as it is. -/
def attributeValue (grammar : Grammar) : Parser Code := do
  let alone : Parser Code := do
    let value ← literalCode
    if ← isEmpty then return value else failExpected []
  match ← attempt alone with
  | some value => return value
  | none =>
      if ← peek fun tokens => Peek.mark "#" tokens && Peek.group .bracket (tokens.drop 1) then
        failAt .nestedAttribute (← position)
      else return (← grammar.expression true).code

/-- An equals sign that begins no longer operator. -/
def startsAssignment (tokens : List Token) : Bool :=
  Peek.mark "=" tokens && !Peek.mark "==" tokens && !Peek.mark "=>" tokens

def attributeContent (grammar : Grammar) : Parser AttributeContent := do
  match ← tokens with
  | .group delimiter opening closing inner :: rest => do
      take rest
      return .list delimiter opening closing inner
  | remaining =>
      if startsAssignment remaining then
        let equals ← mark "="
        return .value equals (← attributeValue grammar)
      else return .bare

def attributeWith (grammar : Grammar) (inner : Bool) : Parser Attribute := do
  let pound ← mark "#"
  let bang ← if inner then some <$> mark "!" else pure none
  let enclosed ← group .bracket do
    let path ← attributePath
    let content ← attributeContent grammar
    return (path, content)
  return ⟨pound, bang, enclosed.opening, enclosed.closing, enclosed.value.1, enclosed.value.2⟩

def outerAttributes (grammar : Grammar) : Parser (List Attribute) :=
  repeatStep do
    if ← peek (Peek.mark "#") then return some (← attributeWith grammar false) else return none

def innerAttributes (grammar : Grammar) : Parser (List Attribute) :=
  repeatStep do
    if ← peek fun tokens => Peek.mark "#" tokens && Peek.mark "!" (tokens.drop 1) then
      return some (← attributeWith grammar true)
    else return none

def outerAttributeCode (grammar : Grammar) : Parser Code := do
  return (← outerAttributes grammar).flatMap Attribute.code

def innerAttributeCode (grammar : Grammar) : Parser Code := do
  return (← innerAttributes grammar).flatMap Attribute.code

/-- A block without attributes inside its braces. -/
def plainBlock (grammar : Grammar) : Parser Block := do
  let enclosed ← group .brace grammar.statements
  return ⟨enclosed.opening, enclosed.closing, [], enclosed.value⟩

/-- A block that can begin with attributes of what it belongs to. -/
def block (grammar : Grammar) : Parser Block := do
  let enclosed ← group .brace do
    let attributes ← innerAttributeCode grammar
    return (attributes, ← grammar.statements)
  return ⟨enclosed.opening, enclosed.closing, enclosed.value.1, enclosed.value.2⟩

end DataAccess.Parse
