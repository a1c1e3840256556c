/-
This file reads a source text as tokens.
-/

import DataAccess.Source.Lexeme
import DataAccess.Source.Token
import DataAccess.Text.Quoted
import DataAccess.Text.Whitespace

namespace DataAccess.Lexer

/-- The text that is still to be read and the place where it begins. -/
structure Cursor where
  characters : List Char
  position : Position

def advance (position : Position) (character : Char) : Position :=
  if character == '\n' then ⟨position.line + 1, 0⟩ else ⟨position.line, position.column + 1⟩

/-- The cursor moves to what is left of its text. -/
def Cursor.skipTo (cursor : Cursor) (rest : List Char) : Cursor :=
  let consumed := cursor.characters.take (cursor.characters.length - rest.length)
  ⟨rest, consumed.foldl advance cursor.position⟩

def Cursor.textBefore (cursor : Cursor) (rest : List Char) : String :=
  String.ofList (cursor.characters.take (cursor.characters.length - rest.length))

/-- Direction marks separate tokens as white space does. -/
def separates (character : Char) : Bool :=
  Text.isWhitespace character || character == '\u200e' || character == '\u200f'

/-- What follows a plain comment, if the text begins with one. -/
def plainComment (characters : List Char) : Lexeme.Rest :=
  let begins := (Lexeme.startsWith · characters)
  if begins "//" && (!begins "///" || begins "////") && !begins "//!" then
    some (Lexeme.lineEnd characters).2
  else if begins "/**/" then some (characters.drop 4)
  else if begins "/*" && (!begins "/**" || begins "/***") && !begins "/*!" then
    Lexeme.blockComment 0 characters
  else none

/-- White space and plain comments are skipped. -/
def skipBlanks : Nat → List Char → List Char
  | 0, characters => characters
  | fuel + 1, characters =>
      match plainComment characters with
      | some rest => skipBlanks fuel rest
      | none =>
          match characters with
          | [] => []
          | first :: rest => if separates first then skipBlanks fuel rest else first :: rest

/-- A documentation comment documents what follows it, or what holds it. -/
structure DocComment where
  inside : Bool
  body : List Char
  rest : List Char

/-- A carriage return stands only before a line feed. -/
def lineEndsPaired : List Char → Bool
  | [] => true
  | '\r' :: '\n' :: rest => lineEndsPaired rest
  | '\r' :: _ => false
  | _ :: rest => lineEndsPaired rest

def blockBody (characters rest : List Char) : List Char :=
  let whole := characters.take (characters.length - rest.length)
  (whole.drop 3).take (whole.length - 5)

def docComment (characters : List Char) : Option DocComment :=
  let begins := (Lexeme.startsWith · characters)
  let found : Option DocComment :=
    if begins "//!" then
      let (body, rest) := Lexeme.lineEnd (characters.drop 3)
      some ⟨true, body, rest⟩
    else if begins "/*!" then
      (Lexeme.blockComment 0 characters).map fun rest => ⟨true, blockBody characters rest, rest⟩
    else if begins "///" then
      if begins "////" then none
      else
        let (body, rest) := Lexeme.lineEnd (characters.drop 3)
        some ⟨false, body, rest⟩
    else if begins "/**" && !begins "/***" then
      (Lexeme.blockComment 0 characters).map fun rest => ⟨false, blockBody characters rest, rest⟩
    else none
  found.filter fun comment => lineEndsPaired comment.body

/-- A documentation comment reads as the attribute that it abbreviates. -/
def DocComment.tokens (comment : DocComment) (position : Position) : List Token :=
  [.mark '#' false position] ++
    (if comment.inside then [.mark '!' false position] else []) ++
    [.group .bracket position position
      [.word ⟨"doc", position⟩, .mark '=' false position,
        .literal (Text.Quoted.literal (String.ofList comment.body)) position]]

/-- A quote and the word behind it are one token; a quote before a literal stands alone. -/
def quoted (cursor : Cursor) (body : List Char) : Option (Token × List Char) :=
  if !Lexeme.startsLifetime cursor.characters then none
  else if (Lexeme.literal body).isSome then some (.mark '\'' true cursor.position, body)
  else
    (Lexeme.word body).map fun rest =>
      (.lifetime ⟨cursor.textBefore rest, cursor.position⟩, rest)

/-- A literal is tried first, then a mark, then a word. -/
def leaf (cursor : Cursor) : Option (Token × List Char) :=
  match (Lexeme.literal cursor.characters).or (Lexeme.errorLiteral cursor.characters) with
  | some rest => some (.literal (cursor.textBefore rest) cursor.position, rest)
  | none =>
      match Lexeme.markCharacter cursor.characters with
      | some ('\'', body) => quoted cursor body
      | some (character, rest) =>
          let joint := (Lexeme.markCharacter rest).isSome
          some (.mark character joint cursor.position, rest)
      | none =>
          (Lexeme.word cursor.characters).map fun rest =>
            (.word ⟨cursor.textBefore rest, cursor.position⟩, rest)

/-- A group that is still open, with the tokens before it, the latest first. -/
structure Frame where
  delimiter : Delimiter
  opening : Position
  before : List Token

/-- A group is opened by its delimiter, unless that begins a literal. -/
def opens : List Char → Option Delimiter
  | '(' :: rest =>
      if (Lexeme.errorLiteral ('(' :: rest)).isSome then none else some .parenthesis
  | '[' :: _ => some .bracket
  | '{' :: _ => some .brace
  | _ => none

def closes : Char → Option Delimiter
  | ')' => some .parenthesis
  | ']' => some .bracket
  | '}' => some .brace
  | _ => none

/-- The tokens of a text, or nothing when it cannot be read. Every step reads a character, so the
number of characters bounds the steps. -/
def tokensFrom : Nat → Cursor → List Frame → List Token → Option (List Token)
  | 0, _, _, _ => none
  | fuel + 1, cursor, frames, tokens =>
      let cursor := cursor.skipTo (skipBlanks cursor.characters.length cursor.characters)
      match docComment cursor.characters with
      | some comment =>
          tokensFrom fuel (cursor.skipTo comment.rest) frames
            ((comment.tokens cursor.position).reverse ++ tokens)
      | none =>
          match cursor.characters with
          | [] => if frames.isEmpty then some tokens.reverse else none
          | first :: rest =>
              match opens (first :: rest), closes first with
              | some delimiter, _ =>
                  tokensFrom fuel (cursor.skipTo rest)
                    (⟨delimiter, cursor.position, tokens⟩ :: frames) []
              | none, some delimiter =>
                  match frames with
                  | [] => none
                  | frame :: outer =>
                      if frame.delimiter = delimiter then
                        tokensFrom fuel (cursor.skipTo rest) outer
                          (.group delimiter frame.opening cursor.position tokens.reverse ::
                            frame.before)
                      else none
              | none, none =>
                  match leaf cursor with
                  | some (token, rest) =>
                      tokensFrom fuel (cursor.skipTo rest) frames (token :: tokens)
                  | none => none

/-- A byte order mark at the front is passed over. -/
def tokens? (source : String) : Option (List Token) :=
  let characters := source.toList
  let start : Cursor :=
    match characters with
    | '\ufeff' :: rest => ⟨rest, ⟨1, 1⟩⟩
    | _ => ⟨characters, ⟨1, 0⟩⟩
  tokensFrom (characters.length + 1) start [] []

end DataAccess.Lexer
