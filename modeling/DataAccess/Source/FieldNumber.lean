/-
This file reads the numbers by which fields without a name are chosen.
-/

import DataAccess.Source.Lexeme

namespace DataAccess

/-- Why a number does not choose a field. -/
inductive FieldNumberProblem where
  | notInteger
  | suffixed
  | signed
  | tooLarge
deriving DecidableEq, Repr

def FieldNumberProblem.message : FieldNumberProblem → String
  | .notInteger => "expected integer literal"
  | .suffixed => "expected unsuffixed integer"
  | .signed => "invalid digit found in string"
  | .tooLarge => "number too large to fit in target type"

namespace FieldNumber

def largest : Nat := UInt32.size - 1

/-- A number with a fraction or an exponent. -/
def isFloat (spelling : String) : Bool :=
  (Lexeme.floatLiteral spelling.toList).isSome

/-- The base of a number and what follows the mark of the base. -/
def baseOf : List Char → Nat × List Char
  | '0' :: 'x' :: rest => (16, rest)
  | '0' :: 'o' :: rest => (8, rest)
  | '0' :: 'b' :: rest => (2, rest)
  | characters => (10, characters)

def isDigitOf (base : Nat) (character : Char) : Bool :=
  if base == 16 then Lexeme.isHexadecimal character else character.isDigit

/-- The value of an integer and its suffix. -/
def integer (spelling : String) : Nat × List Char :=
  let (base, characters) := baseOf spelling.toList
  let belongs (character : Char) : Bool := character == '_' || isDigitOf base character
  let digits := (characters.takeWhile belongs).filter (· != '_')
  (digits.foldl (fun value digit => value * base + Lexeme.hexadecimalValue digit) 0,
    characters.dropWhile belongs)

/-- The field that an integer chooses. -/
def ofSpelling (negative : Bool) (spelling : String) : Except FieldNumberProblem Nat :=
  if isFloat spelling then .error .notInteger
  else
    let (value, suffix) := integer spelling
    if !suffix.isEmpty then .error .suffixed
    else if negative then .error .signed
    else if largest < value then .error .tooLarge
    else .ok value

/-- The fields that a number with points chooses one in another. -/
def ofParts (negative : Bool) : List String → Except FieldNumberProblem (List Nat)
  | [] => .ok []
  | part :: rest =>
      match ofSpelling negative part with
      | .error problem => .error problem
      | .ok value =>
          match ofParts false rest with
          | .error problem => .error problem
          | .ok values => .ok (value :: values)

end FieldNumber

end DataAccess
