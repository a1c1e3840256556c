/-
This file recognises single lexemes at the front of a text. Each recogniser answers what follows
the lexeme, or nothing when the text does not begin with one.
-/

import DataAccess.Text.Identifier

namespace DataAccess.Lexeme

open Text.Identifier (isStart isContinue)

abbrev Rest := Option (List Char)

def startsWith (opening : String) (characters : List Char) : Bool :=
  opening.toList.isPrefixOf characters

def after (opening : String) (characters : List Char) : Rest :=
  if startsWith opening characters then some (characters.drop opening.toList.length) else none

def plainIdentifier : List Char → Rest
  | [] => none
  | first :: rest => if isStart first then some (rest.dropWhile isContinue) else none

/-- An identifier may carry the raw prefix, except the words that name places in a path. -/
def identifier (characters : List Char) : Rest :=
  match after "r#" characters with
  | none => plainIdentifier characters
  | some body => do
      let rest ← plainIdentifier body
      let word := String.ofList (body.take (body.length - rest.length))
      if ["_", "super", "self", "Self", "crate"].contains word then none else some rest

def suffix (characters : List Char) : List Char :=
  (plainIdentifier characters).getD characters

/-- A number ends where no identifier character follows. -/
def wordBreak : List Char → Rest
  | [] => some []
  | next :: rest => if isContinue next then none else some (next :: rest)

def isHexadecimal (character : Char) : Bool :=
  character.isDigit || ('a' ≤ character && character ≤ 'f') ||
    ('A' ≤ character && character ≤ 'F')

def hexadecimalValue (character : Char) : Nat :=
  if character.isDigit then character.toNat - '0'.toNat
  else if 'a' ≤ character then character.toNat - 'a'.toNat + 10
  else character.toNat - 'A'.toNat + 10

/-- The digits of `\u` after the opening brace: at most six, and the number of a character. -/
def unicodeDigits : Nat → Nat → List Char → Option (Char × List Char)
  | _, _, [] => none
  | count, value, character :: rest =>
      if isHexadecimal character then
        if count == 6 then none
        else unicodeDigits (count + 1) (value * 16 + hexadecimalValue character) rest
      else if character == '_' && count != 0 then unicodeDigits count value rest
      else if character == '}' && count != 0 then
        if value < 0xd800 || (0xdfff < value && value < 0x110000) then
          some (Char.ofNat value, rest)
        else none
      else none

/-- What a literal admits between its quotes. -/
inductive Alphabet where
  | characters
  | bytes
  | nulTerminated
deriving DecidableEq

def Alphabet.admits : Alphabet → Char → Bool
  | .characters, _ => true
  | .bytes, character => character.toNat < 0x80
  | .nulTerminated, character => character != '\x00'

/-- What follows an escape whose backslash has been read, line ends apart. -/
def escapeBody (alphabet : Alphabet) : List Char → Rest
  | 'x' :: first :: second :: rest =>
      match alphabet with
      | .characters =>
          if '0' ≤ first && first ≤ '7' && isHexadecimal second then some rest else none
      | .bytes => if isHexadecimal first && isHexadecimal second then some rest else none
      | .nulTerminated =>
          if isHexadecimal first && isHexadecimal second &&
              !(first == '0' && second == '0') then some rest else none
  | 'u' :: '{' :: rest =>
      match alphabet with
      | .bytes => none
      | .characters => (unicodeDigits 0 0 rest).map Prod.snd
      | .nulTerminated =>
          match unicodeDigits 0 0 rest with
          | some (character, rest) => if character == '\x00' then none else some rest
          | none => none
  | '0' :: rest => if alphabet = .nulTerminated then none else some rest
  | character :: rest =>
      if ['n', 'r', 't', '\\', '\'', '"'].contains character then some rest else none
  | [] => none

/-- A backslash at a line's end skips the blanks that begin the next lines. -/
def continuedLine : List Char → Rest
  | [] => none
  | '\r' :: '\n' :: rest => continuedLine rest
  | '\r' :: _ => none
  | character :: rest =>
      if character == ' ' || character == '\t' || character == '\n' then continuedLine rest
      else some (character :: rest)

/-- The inside of a quoted literal, to behind its closing quote. -/
def quotedBody (alphabet : Alphabet) : Nat → List Char → Rest
  | 0, _ => none
  | fuel + 1, characters =>
      match characters with
      | [] => none
      | '"' :: rest => some (suffix rest)
      | '\r' :: '\n' :: rest => quotedBody alphabet fuel rest
      | '\r' :: _ => none
      | '\\' :: '\n' :: rest => (continuedLine rest).bind (quotedBody alphabet fuel)
      | '\\' :: '\r' :: '\n' :: rest => (continuedLine rest).bind (quotedBody alphabet fuel)
      | '\\' :: rest => (escapeBody alphabet rest).bind (quotedBody alphabet fuel)
      | character :: rest =>
          if alphabet.admits character then quotedBody alphabet fuel rest else none

/-- The inside of a raw literal, up to a quote and as many hashes as opened it. -/
def rawBody (alphabet : Alphabet) (hashes : List Char) : List Char → Rest
  | [] => none
  | '"' :: rest =>
      if hashes.isPrefixOf rest then some (suffix (rest.drop hashes.length))
      else rawBody alphabet hashes rest
  | '\r' :: '\n' :: rest => rawBody alphabet hashes rest
  | '\r' :: _ => none
  | character :: rest =>
      if alphabet.admits character then rawBody alphabet hashes rest else none

def raw (alphabet : Alphabet) (characters : List Char) : Rest :=
  let hashes := characters.takeWhile (· == '#')
  match characters.drop hashes.length with
  | '"' :: body => if 255 < hashes.length then none else rawBody alphabet hashes body
  | _ => none

def rawQuoted (alphabet : Alphabet) (opening : String) (characters : List Char) : Rest :=
  (after opening characters).bind (raw alphabet)

def stringLiteral (characters : List Char) : Rest :=
  match after "\"" characters with
  | some body => quotedBody .characters (body.length + 1) body
  | none => rawQuoted .characters "r" characters

def byteStringLiteral (characters : List Char) : Rest :=
  match after "b\"" characters with
  | some body => quotedBody .bytes (body.length + 1) body
  | none => rawQuoted .bytes "br" characters

def nulTerminatedLiteral (characters : List Char) : Rest :=
  match after "c\"" characters with
  | some body => quotedBody .nulTerminated (body.length + 1) body
  | none => rawQuoted .nulTerminated "cr" characters

/-- One character or escape between single quotes. -/
def singleQuoted (alphabet : Alphabet) (characters : List Char) : Rest := do
  let rest ←
    match characters with
    | '\\' :: rest => escapeBody alphabet rest
    | _ :: rest => some rest
    | [] => none
  match rest with
  | '\'' :: rest => some (suffix rest)
  | _ => none

def byteLiteral (characters : List Char) : Rest := do
  let body ← after "b'" characters
  match body with
  | first :: _ => if first.toNat < 0x80 then singleQuoted .bytes body else none
  | [] => none

def characterLiteral (characters : List Char) : Rest :=
  (after "'" characters).bind (singleQuoted .characters)

def isDigitOrUnderscore (character : Char) : Bool :=
  character.isDigit || character == '_'

/-- The exponent of a float after its `e`, or nothing when it has no digit. -/
def exponentBody (characters : List Char) : Rest :=
  let unmarked := characters.dropWhile (· == '_')
  let signed :=
    match unmarked with
    | sign :: rest => if sign == '+' || sign == '-' then some rest else some unmarked
    | [] => some unmarked
  signed.bind fun digits =>
    let body := digits.takeWhile isDigitOrUnderscore
    if body.any Char.isDigit then some (digits.drop body.length) else none

/-- The digits of a float: a point that no range or field follows, an exponent, or both. -/
def floatDigits : List Char → Rest
  | [] => none
  | first :: rest =>
      if first.isDigit then
        let tail := rest.dropWhile isDigitOrUnderscore
        let exponent (hasPoint : Bool) (characters : List Char) : Rest :=
          match characters with
          | mark :: body =>
              if mark == 'e' || mark == 'E' then
                match exponentBody body with
                | some rest => some rest
                | none => if hasPoint then some characters else none
              else if hasPoint then some characters else none
          | [] => if hasPoint then some characters else none
        match tail with
        | '.' :: fraction =>
            match fraction with
            | next :: _ =>
                if next == '.' || isStart next then none
                else exponent true (fraction.dropWhile isDigitOrUnderscore)
            | [] => some []
        | _ => exponent false tail
      else none

def withSuffix (characters : List Char) : Rest :=
  match characters with
  | next :: _ =>
      if isStart next then (plainIdentifier characters).bind wordBreak else wordBreak characters
  | [] => some []

def floatLiteral (characters : List Char) : Rest :=
  (floatDigits characters).bind withSuffix

/-- The digits of an integer in its base. A decimal digit that is too large is an error, while a
letter that is too large begins the suffix. -/
def integerDigits (base : Nat) : Bool → List Char → Rest
  | empty, [] => if empty then none else some []
  | empty, character :: rest =>
      if character.isDigit then
        if hexadecimalValue character < base then integerDigits base false rest else none
      else if isHexadecimal character && hexadecimalValue character < base then
        integerDigits base false rest
      else if character == '_' then
        if empty && base == 10 then none else integerDigits base empty rest
      else if empty then none
      else some (character :: rest)

def integerLiteral (characters : List Char) : Rest :=
  let digits :=
    match characters with
    | '0' :: 'x' :: rest => integerDigits 16 true rest
    | '0' :: 'o' :: rest => integerDigits 8 true rest
    | '0' :: 'b' :: rest => integerDigits 2 true rest
    | _ => integerDigits 10 true characters
  digits.bind withSuffix

/-- A literal is recognised before a mark or a word. -/
def literal (characters : List Char) : Rest :=
  (stringLiteral characters).or <| (byteStringLiteral characters).or <|
    (nulTerminatedLiteral characters).or <| (byteLiteral characters).or <|
    (characterLiteral characters).or <| (floatLiteral characters).or (integerLiteral characters)

def startsComment (characters : List Char) : Bool :=
  startsWith "//" characters || startsWith "/*" characters

def markCharacter : List Char → Option (Char × List Char)
  | [] => none
  | character :: rest =>
      if "~!@#$%^&*-=+|;:,<.>/?'".toList.contains character &&
          !startsComment (character :: rest) then some (character, rest)
      else none

/-- Words that would be read as the opening of a literal are not identifiers. -/
def word (characters : List Char) : Rest :=
  if ["r\"", "r#\"", "r##", "b\"", "b'", "br\"", "br#", "c\"", "cr\"", "cr#"].any
      (startsWith · characters) then none
  else identifier characters

/-- A quote can stand before an identifier that no further quote follows. The identifier may turn
out to be the beginning of a literal. -/
def startsLifetime (characters : List Char) : Bool :=
  match after "'" characters with
  | none => false
  | some body =>
      match identifier body with
      | some ('\'' :: _) => false
      | some ('#' :: _) => startsWith "r#" body
      | some _ => true
      | none => false

/-- The literal that stands for what could not be read. -/
def errorLiteral (characters : List Char) : Rest :=
  after "(/*ERROR*/)" characters

/-- Comments nest; the recogniser needs the number that are open. -/
def blockComment : Nat → List Char → Rest
  | _, [] => none
  | depth, '/' :: '*' :: rest => blockComment (depth + 1) rest
  | depth, '*' :: '/' :: rest =>
      if depth ≤ 1 then some rest else blockComment (depth - 1) rest
  | depth, _ :: rest => blockComment depth rest

/-- A line ends before its line feed, and before a carriage return with a line feed. -/
def lineEnd : List Char → List Char × List Char
  | [] => ([], [])
  | '\n' :: rest => ([], '\n' :: rest)
  | '\r' :: '\n' :: rest => ([], '\n' :: rest)
  | character :: rest =>
      let (line, remaining) := lineEnd rest
      (character :: line, remaining)

end DataAccess.Lexeme
