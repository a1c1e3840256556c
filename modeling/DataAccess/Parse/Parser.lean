/-
This file holds the parser of token lists and its elementary steps. No step looks through an
invisible group, since what is read are the tokens of a text, and no text holds such a group. The
groups are known to tokens and types for those that are built otherwise.
-/

import DataAccess.Parse.Problem
import DataAccess.Source.Literal
import DataAccess.Source.Separated
import DataAccess.Text.Identifier

namespace DataAccess

/-- The tokens that are still to be read, where errors at their end point, and the first token that
was left over in a group. -/
structure Stream where
  tokens : List Token
  ending : Position
  enclosing : Option Delimiter
  leftover : Option Fault

namespace Stream

def position (stream : Stream) : Position :=
  match stream.tokens with
  | [] => stream.ending
  | token :: _ => token.position

def isEmpty (stream : Stream) : Bool :=
  stream.tokens.isEmpty

/-- The fault of a stream that should have been read to its end. -/
def rest? (stream : Stream) : Option Fault :=
  stream.tokens.head?.map fun token => ⟨.leftover stream.enclosing, token.position⟩

end Stream

abbrev Parser := StateT Stream (Except SyntaxError)

/-! What a token list begins with. -/
namespace Peek

def marks : List Char → List Token → Bool
  | [character], .mark found _ _ :: _ => character == found
  | character :: more, .mark found joint _ :: rest =>
      character == found && joint && marks more rest
  | _, _ => false

def mark (spelling : String) (tokens : List Token) : Bool :=
  marks spelling.toList tokens

def word (spelling : String) : List Token → Bool
  | .word name :: _ => name.text == spelling
  | _ => false

def anyWord : List Token → Bool
  | .word _ :: _ => true
  | _ => false

def identifier : List Token → Bool
  | .word name :: _ => !Text.Identifier.isReserved name.text
  | _ => false

def lifetime : List Token → Bool
  | .lifetime _ :: _ => true
  | _ => false

def group (delimiter : Delimiter) : List Token → Bool
  | .group found _ _ _ :: _ => found == delimiter
  | _ => false

def stringLiteral : List Token → Bool
  | token :: _ => (StringLiteral.ofToken? token).isSome
  | [] => false

def isNumber (spelling : String) : Bool :=
  match spelling.toList with
  | first :: _ => first.isDigit
  | [] => false

/-- A literal, a truth value, or a negative number. -/
def literal : List Token → Bool
  | .literal _ _ :: _ => true
  | .word name :: _ => name.text == "true" || name.text == "false"
  | .mark '-' _ _ :: .literal spelling _ :: _ => isNumber spelling
  | _ => false

def anyOf (spellings : List String) (tokens : List Token) : Bool :=
  spellings.any (word · tokens)

def pathWord (tokens : List Token) : Bool :=
  anyOf ["self", "super", "crate"] tokens

/-- What a place admits stands there, as far as a single token tells. -/
def expectation : Expectation → List Token → Bool
  | .token spelling, tokens =>
      if spelling.toList.all Text.Identifier.isContinue then word spelling tokens
      else mark spelling tokens
  | .identifier, tokens => identifier tokens
  | .lifetime, tokens => lifetime tokens
  | .literal, tokens => literal tokens
  | .stringLiteral, tokens => stringLiteral tokens
  | .enclosed delimiter, tokens => group delimiter tokens
  | .phrase _, _ => false

end Peek

namespace Parser

def failAt {Result : Type} (problem : SyntaxProblem) (position : Position) : Parser Result :=
  throw ⟨⟨problem, position⟩, []⟩

def tokens : Parser (List Token) := do
  return (← get).tokens

def position : Parser Position := do
  return (← get).position

def isEmpty : Parser Bool := do
  return (← get).isEmpty

def peek (test : List Token → Bool) : Parser Bool := do
  return test (← get).tokens

/-- Fails at the present token with what the place admits. What stands there, and is admitted only
before something else, is not told again. -/
def failExpected {Result : Type} (choices : List Expectation) : Parser Result := do
  let stream ← get
  let others := choices.filter fun choice => !Peek.expectation choice stream.tokens
  failAt (.expected others stream.isEmpty) stream.position

def take (rest : List Token) : Parser Unit :=
  modify fun stream => { stream with tokens := rest }

/-- Reads the characters of a mark, all of them joint but the last. -/
def marksFrom : List Char → List Token → Option (List Token)
  | [character], .mark found _ _ :: rest => if character == found then some rest else none
  | character :: more, .mark found joint _ :: rest =>
      if character == found && joint then marksFrom more rest else none
  | _, _ => none

def mark (spelling : String) : Parser Position := do
  let stream ← get
  match marksFrom spelling.toList stream.tokens with
  | some rest => do
      take rest
      return stream.position
  | none => failAt (.missingMark spelling) stream.position

def mark? (spelling : String) : Parser (Option Position) := do
  if ← peek (Peek.mark spelling) then return some (← mark spelling) else return none

def keyword (spelling : String) : Parser Position := do
  let stream ← get
  match stream.tokens with
  | .word name :: rest =>
      if name.text == spelling then do
        take rest
        return name.position
      else failExpected [.token spelling]
  | _ => failExpected [.token spelling]

def keyword? (spelling : String) : Parser (Option Position) := do
  if ← peek (Peek.word spelling) then return some (← keyword spelling) else return none

def anyWord : Parser Name := do
  match ← tokens with
  | .word name :: rest => do
      take rest
      return name
  | _ => failExpected [.phrase "ident"]

def identifier : Parser Name := do
  match ← tokens with
  | .word name :: rest =>
      if Text.Identifier.isReserved name.text then
        failAt (.reservedWord name.text) name.position
      else do
        take rest
        return name
  | _ => failExpected [.identifier]

def lifetime : Parser Name := do
  match ← tokens with
  | .lifetime name :: rest => do
      take rest
      return name
  | _ => failExpected [.lifetime]

def lifetime? : Parser (Option Name) := do
  if ← peek Peek.lifetime then return some (← lifetime) else return none

def stringLiteral : Parser StringLiteral := do
  match ← tokens with
  | token :: rest =>
      match StringLiteral.ofToken? token with
      | some literal => do
          take rest
          return literal
      | none => failExpected [.stringLiteral]
  | [] => failExpected [.stringLiteral]

/-- A literal, a truth value, or a number behind its sign. -/
def literal : Parser (List Token) := do
  match ← tokens with
  | .literal spelling position :: rest => do
      take rest
      return [.literal spelling position]
  | .word name :: rest =>
      if name.text == "true" || name.text == "false" then do
        take rest
        return [.word name]
      else failExpected [.literal]
  | .mark '-' _ position :: .literal spelling place :: rest =>
      if Peek.isNumber spelling then do
        take rest
        return [.mark '-' false position, .literal spelling place]
      else failExpected [.literal]
  | _ => failExpected [.literal]

/-- A group with what its inside reads as, and the places of its delimiters. -/
structure Enclosed (Result : Type) where
  opening : Position
  closing : Position
  value : Result

def Enclosed.piece (delimiter : Delimiter) (enclosed : Enclosed Code) : Piece :=
  .group delimiter enclosed.opening enclosed.closing enclosed.value

/-- Reads the inside of a group. What the inside leaves over is reported once all else is read. -/
def group {Result : Type} (delimiter : Delimiter) (inside : Parser Result) :
    Parser (Enclosed Result) := fun stream =>
  match stream.tokens with
  | .group found opening closing inner :: rest =>
      if found = delimiter then
        match inside ⟨inner, closing, some delimiter, stream.leftover⟩ with
        | .ok (value, finished) =>
            .ok (⟨opening, closing, value⟩,
              { stream with tokens := rest, leftover := finished.leftover.or finished.rest? })
        | .error error => .error error
      else failExpected [.enclosed delimiter] stream
  | _ => failExpected [.enclosed delimiter] stream

/-- Everything up to the end of the stream, unchanged. -/
def remaining : Parser (List Token) := do
  let found ← tokens
  take []
  return found

/-- Any group, unchanged. -/
def anyGroup : Parser (Delimiter × Token) := do
  match ← tokens with
  | .group delimiter opening closing inner :: rest => do
      take rest
      return (delimiter, .group delimiter opening closing inner)
  | _ => failExpected [.phrase "delimiter"]

/-- Tries a parser and leaves the stream unchanged when it fails. -/
def attempt {Result : Type} (parser : Parser Result) : Parser (Option Result) := fun stream =>
  match parser stream with
  | .ok (result, rest) => .ok (some result, rest)
  | .error _ => .ok (none, stream)

/-- Runs a parser on a copy of the stream. -/
def ahead {Result : Type} (parser : Parser Result) : Parser Result := fun stream =>
  match parser stream with
  | .ok (result, _) => .ok (result, stream)
  | .error error => .error error

/-- The tokens that a parser has passed over since a stream, unchanged. -/
def since (start : List Token) : Parser (List Token) := do
  let rest ← tokens
  return start.take (start.length - rest.length)

def repeatFrom {Result : Type} (step : Parser (Option Result)) :
    Nat → List Result → Parser (List Result)
  | 0, found => return found.reverse
  | fuel + 1, found => do
      match ← step with
      | some result => repeatFrom step fuel (result :: found)
      | none => return found.reverse

/-- Repeats a step until it answers nothing. Each step but the last reads a token. -/
def repeatStep {Result : Type} (step : Parser (Option Result)) : Parser (List Result) := do
  let remaining ← tokens
  repeatFrom step (remaining.length + 1) []

def untilEmpty {Result : Type} (parser : Parser Result) : Parser (List Result) :=
  repeatStep do
    if ← isEmpty then return none else return some (← parser)

def listFrom {Result : Type} (stops : List Token → Bool) (separator : String)
    (goesOn : List Token → Bool) (entry : Parser Result) :
    Nat → List (Separated Result) → Parser (List (Separated Result))
  | 0, found => return found.reverse
  | fuel + 1, found => do
      if ← peek stops then return found.reverse
      let result ← entry
      if ← peek goesOn then
        let position ← mark separator
        listFrom stops separator goesOn entry fuel (⟨result, some position⟩ :: found)
      else return (⟨result, none⟩ :: found).reverse

/-- A list that ends where `stops` holds: a separator must stand before anything else. -/
def listUntil {Result : Type} (stops : List Token → Bool) (separator : String)
    (entry : Parser Result) : Parser (List (Separated Result)) := do
  let remaining ← tokens
  listFrom stops separator (fun rest => !stops rest) entry (remaining.length + 1) []

/-- A list that ends where `stops` holds or no separator follows. -/
def listWhile {Result : Type} (stops : List Token → Bool) (separator : String)
    (entry : Parser Result) : Parser (List (Separated Result)) := do
  let remaining ← tokens
  listFrom stops separator (Peek.mark separator) entry (remaining.length + 1) []

/-- A list that takes the whole stream. -/
def terminated {Result : Type} (entry : Parser Result) : Parser (List (Separated Result)) :=
  listUntil List.isEmpty "," entry

/-- Reads a whole token list, at whose end errors point to a given place. -/
def runWithin {Result : Type} (ending : Position) (parser : Parser Result)
    (tokens : List Token) : Except SyntaxError Result :=
  match parser ⟨tokens, ending, none, none⟩ with
  | .error error => .error error
  | .ok (result, finished) =>
      match finished.leftover.or finished.rest? with
      | some fault => .error ⟨fault, []⟩
      | none => .ok result

/-- Reads a whole source. -/
def run {Result : Type} (parser : Parser Result) (tokens : List Token) :
    Except SyntaxError Result :=
  runWithin .callSite parser tokens

end Parser

end DataAccess
