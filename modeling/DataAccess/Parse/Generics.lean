/-
This file reads generic parameters and where clauses.
-/

import DataAccess.Parse.Type

namespace DataAccess.Parse

open DataAccess.Parser

def genericParameter (grammar : Grammar) : Parser GenericParameter := do
  let attributes ← outerAttributeCode grammar
  if ← peek Peek.lifetime then return .lifetime (attributes ++ (← lifetimeParameter))
  else if ← peek Peek.identifier then return .other (attributes ++ (← typeParameter grammar))
  else if ← peek (Peek.word "const") then
    return .other (attributes ++ (← constantParameter grammar))
  else if ← peek (Peek.word "_") then return .other (attributes ++ (← anyWordCode))
  else failExpected [.lifetime, .identifier, .token "const"]

/-- Generic parameters without conditions. -/
def generics (grammar : Grammar) : Parser Generics := do
  if ← peek (Peek.mark "<") then
    let opening ← mark "<"
    let parameters ← listUntil (Peek.mark ">") "," (genericParameter grammar)
    let closing ← mark ">"
    return ⟨opening, parameters, closing, none⟩
  else return .none

/-- A bracket opens generic parameters, rather than a qualified path, when what follows it can
only be a parameter. -/
def opensGenerics (tokens : List Token) : Bool :=
  let second := tokens.drop 1
  let third := tokens.drop 2
  Peek.mark "<" tokens &&
    (Peek.mark ">" second || Peek.mark "#" second ||
      ((Peek.lifetime second || Peek.identifier second) &&
        ((Peek.mark ":" third && !Peek.mark "::" third) || Peek.mark "," third ||
          Peek.mark ">" third || Peek.mark "=" third)) ||
      Peek.word "const" second)

/-- What ends a where clause or the bounds of one of its conditions. -/
def endsConditions (tokens : List Token) : Bool :=
  tokens.isEmpty || Peek.group .brace tokens || Peek.mark "," tokens || Peek.mark ";" tokens ||
    (Peek.mark ":" tokens && !Peek.mark "::" tokens) || Peek.mark "=" tokens

def predicate (grammar : Grammar) : Parser Predicate := do
  if ← peek fun tokens => Peek.lifetime tokens && Peek.mark ":" (tokens.drop 1) then
    let name ← lifetimeCode
    let colon ← markCode ":"
    let bounds ← listWhile
      (fun tokens => endsConditions tokens || Peek.mark ":" tokens) "+" lifetimeCode
    return .lifetime (name ++ colon ++ Separated.code "+" bounds)
  else
    let binder ← binder? grammar
    let bounded ← grammar.type true
    let colon ← mark ":"
    let bounds ← listWhile endsConditions "+" (grammar.bound false true)
    return .type binder bounded colon bounds

def whereClause? (grammar : Grammar) : Parser (Option WhereClause) := do
  match ← keyword? "where" with
  | none => return none
  | some start =>
      if ← peek opensGenerics then failAt .genericConditions (← position)
      return some ⟨start, ← listWhile endsConditions "," (predicate grammar)⟩

def whereCode? (grammar : Grammar) : Parser Code := do
  match ← whereClause? grammar with
  | some clause => return clause.code
  | none => return []

end DataAccess.Parse
