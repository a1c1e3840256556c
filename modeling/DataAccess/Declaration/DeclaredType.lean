/-
This file holds types as they are declared, in the depth in which they are looked at.
-/

import DataAccess.Source.Separated

namespace DataAccess

mutual

/-- A path keeps its last segment apart from what qualifies it. A type whose parts are never looked
at is kept as its code. -/
inductive DeclaredType where
  | unit (opening closing : Position)
  | parenthesized (opening closing : Position) (inner : DeclaredType)
  | grouped (opening closing : Position) (inner : DeclaredType)
  | reference (ampersand : Position) (lifetime : Option Name) (mutability : Option Position)
      (referent : DeclaredType)
  | path (qualifier : Code) (last : Name) (arguments : Arguments)
  | other (code : Code)

inductive Arguments where
  | none
  | angled (colons : Option Position) (opening : Position) (list : List Argument)
      (closing : Position)
  | called (code : Code)

inductive Argument where
  | type (declared : DeclaredType) (comma : Option Position)
  | lifetime (name : Name) (comma : Option Position)
  | other (code : Code) (comma : Option Position)

end

namespace Argument

def isLifetime : Argument → Bool
  | .lifetime _ _ => true
  | .type _ _ => false
  | .other _ _ => false

def type? : Argument → Option DeclaredType
  | .type declared _ => some declared
  | .lifetime _ _ => none
  | .other _ _ => none

end Argument

/-- How a path writes its arguments: inside an expression they stand behind a double colon. -/
inductive PathStyle where
  | type
  | expression
deriving DecidableEq, Repr

/-- The colons before arguments belong to the path only inside an expression, and the formatter
leaves out arguments that are empty. -/
def angledCode (style : PathStyle) (colons : Option Position) (opening closing : Position)
    (entries : List (Separated Code)) : Code :=
  let front : Code :=
    match colons with
    | some position => Code.mark "::" position
    | none => []
  let list := Code.mark "<" opening ++ Separated.code "," entries ++ Code.mark ">" closing
  if entries.isEmpty then (front ++ list).leaveOut
  else (match style with
    | .type => front.leaveOut
    | .expression => front) ++ list

mutual

def DeclaredType.code : DeclaredType → Code
  | .unit opening closing => [.group .parenthesis opening closing []]
  | .parenthesized opening closing inner =>
      [.group .parenthesis opening closing inner.code]
  | .grouped opening closing inner => [.group .invisible opening closing inner.code]
  | .reference ampersand lifetime mutability referent =>
      Code.mark "&" ampersand ++ (match lifetime with
        | some name => Code.lifetime name
        | none => []) ++ Code.keyword? "mut" mutability ++ referent.code
  | .path qualifier last arguments => qualifier ++ Code.word last ++ arguments.code .type
  | .other code => code

/-- Lifetimes are printed before the other arguments. -/
def Arguments.code (arguments : Arguments) (style : PathStyle) : Code :=
  match arguments with
  | .none => []
  | .angled colons opening list closing =>
      angledCode style colons opening closing (lifetimeEntries list ++ otherEntries list)
  | .called code => code

def lifetimeEntries : List Argument → List (Separated Code)
  | [] => []
  | .lifetime name comma :: rest => ⟨Code.lifetime name, comma⟩ :: lifetimeEntries rest
  | .type _ _ :: rest => lifetimeEntries rest
  | .other _ _ :: rest => lifetimeEntries rest

def otherEntries : List Argument → List (Separated Code)
  | [] => []
  | .lifetime _ _ :: rest => otherEntries rest
  | .type declared comma :: rest => ⟨declared.code, comma⟩ :: otherEntries rest
  | .other code comma :: rest => ⟨code, comma⟩ :: otherEntries rest

end

namespace DeclaredType

def tokens (declared : DeclaredType) : List Token :=
  declared.code.tokens

def position (declared : DeclaredType) : Position :=
  Token.startOf declared.tokens

def text (declared : DeclaredType) : String :=
  Token.textOf declared.tokens

end DeclaredType

end DataAccess
