/-
This file says in how many ways a type can be spelled: in parentheses or in an invisible group, with
or without what qualifies a path, and with or without lifetimes and arguments that are no types.
-/

import DataAccess.Declaration.DeclaredType
import Mathlib.Logic.Relation

namespace DataAccess

mutual

/-- One change in the spelling of a type, at any depth. It may also stand elsewhere. A type whose
parts are never looked at is kept as its code, which changes with any of its parts. -/
inductive DeclaredType.Respelled : DeclaredType → DeclaredType → Prop
  | parenthesized (opening closing : Position) (inner : DeclaredType) :
      DeclaredType.Respelled inner (.parenthesized opening closing inner)
  | grouped (opening closing : Position) (inner : DeclaredType) :
      DeclaredType.Respelled inner (.grouped opening closing inner)
  | qualifier (written other : Code) {last moved : Name} (same : last.text = moved.text)
      (arguments : Arguments) :
      DeclaredType.Respelled (.path written last arguments) (.path other moved arguments)
  | lifetime (ampersand moved : Position) (written other : Option Name)
      {mutability mutabilityMoved : Option Position}
      (same : mutability.isSome = mutabilityMoved.isSome) (referent : DeclaredType) :
      DeclaredType.Respelled (.reference ampersand written mutability referent)
        (.reference moved other mutabilityMoved referent)
  | unit (opening closing openingMoved closingMoved : Position) :
      DeclaredType.Respelled (.unit opening closing) (.unit openingMoved closingMoved)
  | unread (written other : Code) : DeclaredType.Respelled (.other written) (.other other)
  | inParentheses (opening closing : Position) {inner other : DeclaredType}
      (changed : DeclaredType.Respelled inner other) :
      DeclaredType.Respelled (.parenthesized opening closing inner)
        (.parenthesized opening closing other)
  | inGroup (opening closing : Position) {inner other : DeclaredType}
      (changed : DeclaredType.Respelled inner other) :
      DeclaredType.Respelled (.grouped opening closing inner) (.grouped opening closing other)
  | inReference (ampersand : Position) (lifetime : Option Name) (mutability : Option Position)
      {referent other : DeclaredType} (changed : DeclaredType.Respelled referent other) :
      DeclaredType.Respelled (.reference ampersand lifetime mutability referent)
        (.reference ampersand lifetime mutability other)
  | inArguments (qualifier : Code) (last : Name) {arguments other : Arguments}
      (changed : Arguments.Respelled arguments other) :
      DeclaredType.Respelled (.path qualifier last arguments) (.path qualifier last other)

/-- One change in the arguments of a path. Arguments that are written like those of a call are never
looked at. -/
inductive Arguments.Respelled : Arguments → Arguments → Prop
  | angled (colons colonsMoved : Option Position)
      (opening closing openingMoved closingMoved : Position) {list other : List Argument}
      (changed : ArgumentsRespelled list other) :
      Arguments.Respelled (.angled colons opening list closing)
        (.angled colonsMoved openingMoved other closingMoved)
  | unread (written other : Code) : Arguments.Respelled (.called written) (.called other)

/-- One change in a list of arguments: another lifetime, constant or named argument, or a change in
an argument that is a type. The commas behind arguments come and go with them. -/
inductive ArgumentsRespelled : List Argument → List Argument → Prop
  | lifetime (name : Name) (comma : Option Position) (rest : List Argument) :
      ArgumentsRespelled rest (.lifetime name comma :: rest)
  | other (code : Code) (comma : Option Position) (rest : List Argument) :
      ArgumentsRespelled rest (.other code comma :: rest)
  | type (comma : Option Position) {declared other : DeclaredType}
      (changed : DeclaredType.Respelled declared other) (rest : List Argument) :
      ArgumentsRespelled (.type declared comma :: rest) (.type other comma :: rest)
  | comma (declared : DeclaredType) (written other : Option Position) (rest : List Argument) :
      ArgumentsRespelled (.type declared written :: rest) (.type declared other :: rest)
  | behind (first : Argument) {rest other : List Argument}
      (changed : ArgumentsRespelled rest other) :
      ArgumentsRespelled (first :: rest) (first :: other)

end

/-- Two spellings of one type: any number of changes lead from one to the other, forth or back. -/
def DeclaredType.SpelledAlike : DeclaredType → DeclaredType → Prop :=
  Relation.EqvGen DeclaredType.Respelled

end DataAccess
