/-
This file reads the statements of a block.
-/

import DataAccess.Parse.Expression
import DataAccess.Parse.Signature

namespace DataAccess.Parse

open DataAccess.Parser

/-- What can begin an item inside a block. -/
def startsItem (tokens : List Token) : Bool :=
  let second := tokens.drop 1
  let third := tokens.drop 2
  Peek.anyOf ["pub", "extern", "use", "mod", "type", "struct", "enum", "trait", "impl", "macro",
    "fn"] tokens ||
    (Peek.word "crate" tokens && !Peek.mark "::" second) ||
    (Peek.word "static" tokens && (Peek.word "mut" second || (Peek.identifier second &&
      !(Peek.word "async" second && (Peek.word "move" third || Peek.mark "|" third))))) ||
    (Peek.word "const" tokens && !(Peek.group .brace second || Peek.word "static" second ||
      (Peek.word "async" second && !Peek.anyOf ["unsafe", "extern", "fn"] third) ||
      Peek.word "move" second || Peek.mark "|" second)) ||
    (Peek.word "unsafe" tokens && !Peek.group .brace second) ||
    (Peek.word "async" tokens && Peek.anyOf ["unsafe", "extern", "fn"] second) ||
    (Peek.word "union" tokens && Peek.identifier second) ||
    (Peek.word "auto" tokens && Peek.word "trait" second) ||
    (Peek.word "default" tokens && Peek.anyOf ["unsafe", "impl"] second)

/-- How a statement that begins with a macro's path goes on. -/
inductive MacroStart where
  | none
  | item
  | statement

def macroStart : Parser MacroStart := do
  match ← attempt namePath with
  | .none => return .none
  | some _ =>
      let next ← tokens
      let second := next.drop 1
      let third := next.drop 2
      if !Peek.mark "!" next then return .none
      else if Peek.identifier second || Peek.word "try" second then return .item
      else if Peek.group .brace second &&
          !(startsField third || Peek.mark "?" third) then return .statement
      else return .none

/-- A macro in braces ends a statement; the formatter leaves out a semicolon behind it. -/
def macroStatement : Parser Code := do
  let found ← namePath
  let (_, body) ← invocation
  let semicolon ← markCode? ";"
  return found.code ++ body ++ semicolon.leaveOut

def localStatement (grammar : Grammar) : Parser Code := do
  let keyword ← keywordCode "let"
  let found ← grammar.pattern
  let ascription ←
    if ← peek (Peek.mark ":") then do
      let colon ← markCode ":"
      pure (colon ++ (← grammar.type true).code)
    else pure []
  let value ←
    if ← peek (Peek.mark "=") then do
      let equals ← markCode "="
      let value ← expressionCode grammar
      if !value.endsInBrace && (← peek (Peek.word "else")) then
        let otherwise ← keywordCode "else"
        pure (equals ++ value ++ otherwise ++ (← plainBlock grammar).inline)
      else pure (equals ++ value)
    else pure []
  let semicolon ← markCode ";"
  return keyword ++ found.code ++ ascription ++ value ++ semicolon

def statement (grammar : Grammar) : Parser BlockStatement := do
  let beginning ← get
  let attributes ← outerAttributeCode grammar
  let form ← ahead macroStart
  let nested : Parser BlockStatement := do
    set beginning
    return .other (← grammar.item).code
  match form with
  | .statement => return .other (attributes ++ (← macroStatement))
  | .item => nested
  | .none =>
      if ← peek (Peek.word "let") then
        return .other (attributes ++ (← localStatement grammar))
      else if ← peek startsItem then nested
      else
        let found ← grammar.boundaryExpression
        return .expression (found.withAttributes attributes) (← mark? ";")

/-- A semicolon must separate the statement from what follows. -/
def needsSemicolon : BlockStatement → Bool
  | .empty _ => false
  | .expression value semicolon => semicolon.isNone && value.form.needsSemicolon
  | .other _ => false

/-- Lone semicolons and statements, up to the end of the block. -/
def statements (grammar : Grammar) : Parser (List BlockStatement) :=
  repeatStep do
    if ← peek (Peek.mark ";") then return some (.empty (← mark ";"))
    else if ← isEmpty then return none
    else
      let found ← statement grammar
      if needsSemicolon found && !(← isEmpty) then
        failAt .unterminatedStatement (← position)
      else return some found

end DataAccess.Parse
