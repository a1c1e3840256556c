/-
This file reads the values of string literals.
-/

import DataAccess.Source.Lexeme
import DataAccess.Source.Token

namespace DataAccess

/-- A string literal as it is written. -/
structure StringLiteral where
  spelling : String
  position : Position
deriving DecidableEq, Repr

namespace StringLiteral

def token (literal : StringLiteral) : Token :=
  .literal literal.spelling literal.position

/-- A string literal begins with a quote or with the `r` of a raw one. -/
def ofSpelling? (spelling : String) (position : Position) : Option StringLiteral :=
  match spelling.toList with
  | '"' :: _ => some ⟨spelling, position⟩
  | 'r' :: _ => some ⟨spelling, position⟩
  | _ => none

def ofToken? : Token → Option StringLiteral
  | .literal spelling position => ofSpelling? spelling position
  | _ => none

/-- The value of an escape and what follows it. -/
def unescape : List Char → Option (Char × List Char)
  | 'x' :: first :: second :: rest =>
      some (Char.ofNat (Lexeme.hexadecimalValue first * 16 + Lexeme.hexadecimalValue second), rest)
  | 'u' :: '{' :: rest => Lexeme.unicodeDigits 0 0 rest
  | 'n' :: rest => some ('\n', rest)
  | 'r' :: rest => some ('\r', rest)
  | 't' :: rest => some ('\t', rest)
  | '0' :: rest => some ('\x00', rest)
  | character :: rest => some (character, rest)
  | [] => none

/-- The blanks that begin the line behind a continued one; other white space is kept. -/
def isIndentation (character : Char) : Bool :=
  character == ' ' || character == '\t' || character == '\n' || character == '\r'

/-- The characters that the inside of a quoted literal denotes, up to its closing quote. -/
def quotedValue : Nat → List Char → List Char
  | 0, _ => []
  | fuel + 1, characters =>
      match characters with
      | [] => []
      | '"' :: _ => []
      | '\r' :: '\n' :: rest => '\n' :: quotedValue fuel rest
      | '\\' :: '\n' :: rest => quotedValue fuel (rest.dropWhile isIndentation)
      | '\\' :: '\r' :: rest => quotedValue fuel (rest.dropWhile isIndentation)
      | '\\' :: rest =>
          match unescape rest with
          | some (character, rest) => character :: quotedValue fuel rest
          | none => []
      | character :: rest => character :: quotedValue fuel rest

/-- The inside of a raw literal stands for itself; its last quote closes it. -/
def rawValue (characters : List Char) : List Char :=
  let inside := (characters.dropWhile (· == '#')).drop 1
  ((inside.reverse.dropWhile (· != '"')).drop 1).reverse

def value (literal : StringLiteral) : String :=
  match literal.spelling.toList with
  | '"' :: rest => String.ofList (quotedValue (rest.length + 1) rest)
  | 'r' :: rest => String.ofList (rawValue rest)
  | _ => ""

end StringLiteral

end DataAccess
