/-
This file holds the signatures of methods.
-/

import DataAccess.Declaration.Attribute
import DataAccess.Declaration.DeclaredType

namespace DataAccess

/-- A bound names what a type must satisfy. A relaxed bound begins with a question mark, and a
constant one holds in constant expressions, too. -/
inductive Bound where
  | named (enclosure : Option (Position × Position)) (relaxation : Option Position)
      (binder qualifier : Code) (last : Name) (arguments : Arguments)
  | constant (tokens : List Token)
  | other (code : Code)

namespace Bound

def code : Bound → Code
  | .named enclosure relaxation binder qualifier last arguments =>
      let inner :=
        (match relaxation with
          | some position => Code.mark "?" position
          | none => []) ++
          binder ++ qualifier ++ Code.word last ++ arguments.code .type
      match enclosure with
      | some (opening, closing) => [.group .parenthesis opening closing inner]
      | none => inner
  | .constant tokens => Code.refuse .bound tokens
  | .other code => code

end Bound

/-- A condition of a where clause bounds a lifetime or a type. -/
inductive Predicate where
  | lifetime (code : Code)
  | type (binder : Code) (bounded : DeclaredType) (colon : Position)
      (bounds : List (Separated Bound))

namespace Predicate

def code : Predicate → Code
  | .lifetime code => code
  | .type binder bounded colon bounds =>
      binder ++ bounded.code ++ Code.mark ":" colon ++
        Separated.code "+" (bounds.map (Separated.map Bound.code))

end Predicate

structure WhereClause where
  position : Position
  predicates : List (Separated Predicate)

/-- A where clause without conditions is not printed. -/
def WhereClause.code (clause : WhereClause) : Code :=
  match clause.predicates with
  | [] => []
  | _ :: _ =>
      Code.keyword "where" clause.position ++
        Separated.code "," (clause.predicates.map (Separated.map Predicate.code))

inductive GenericParameter where
  | lifetime (code : Code)
  | other (code : Code)

namespace GenericParameter

def code : GenericParameter → Code
  | .lifetime code => code
  | .other code => code

def position (parameter : GenericParameter) : Position :=
  Token.startOf parameter.code.tokens

def isLifetime : GenericParameter → Bool
  | .lifetime _ => true
  | .other _ => false

end GenericParameter

/-- Generic parameters stand between angle brackets, their conditions further behind. -/
structure Generics where
  opening : Position
  parameters : List (Separated GenericParameter)
  closing : Position
  whereClause : Option WhereClause

namespace Generics

def none : Generics := ⟨.callSite, [], .callSite, .none⟩

/-- Lifetimes are printed before the other parameters, and an empty list is not printed. -/
def code (generics : Generics) : Code :=
  match generics.parameters with
  | [] => []
  | parameters =>
      let isLifetime (parameter : Separated GenericParameter) := parameter.entry.isLifetime
      let ordered := parameters.filter isLifetime ++
        parameters.filter fun parameter => !isLifetime parameter
      Code.mark "<" generics.opening ++
        Separated.code "," (ordered.map (Separated.map GenericParameter.code)) ++
        Code.mark ">" generics.closing

def whereCode (generics : Generics) : Code :=
  match generics.whereClause with
  | some clause => clause.code
  | .none => []

/-- The place of generics is their bracket; conditions alone have no place of their own. -/
def position (generics : Generics) : Position :=
  Token.startOf generics.code.tokens

/-- There is a parameter or a where clause. -/
def isPresent (generics : Generics) : Bool :=
  !generics.parameters.isEmpty || generics.whereClause.isSome

end Generics

/-- A pattern is a name, perhaps with markings, a range that lacks a limit, or something else. -/
inductive Pattern where
  | named (reference mutability : Option Position) (name : Name) (subpattern : Option Code)
  | halfOpen (dots : Position) (code : Code)
  | other (code : Code)

namespace Pattern

def code : Pattern → Code
  | .named reference mutability name subpattern =>
      Code.keyword? "ref" reference ++ Code.keyword? "mut" mutability ++ Code.word name ++
        subpattern.getD []
  | .halfOpen _ code => code
  | .other code => code

def position (pattern : Pattern) : Position :=
  Token.startOf pattern.code.tokens

end Pattern

/-- An input is the receiver or a typed parameter. -/
inductive Input where
  | receiver (attributes : List Attribute) (reference : Option (Position × Option Name))
      (mutability : Option Position) (self : Position)
      (ascription : Option (Position × DeclaredType))
  | typed (attributes : List Attribute) (pattern : Pattern) (colon : Position)
      (declared : DeclaredType)

namespace Input

def code : Input → Code
  | .receiver attributes reference mutability self ascription =>
      Attribute.outerCode attributes ++
        (match reference with
          | some (ampersand, some lifetime) =>
              Code.mark "&" ampersand ++ Code.lifetime lifetime
          | some (ampersand, none) => Code.mark "&" ampersand
          | none => []) ++
        Code.keyword? "mut" mutability ++ Code.keyword "self" self ++
        (match ascription with
          | some (colon, declared) => Code.mark ":" colon ++ declared.code
          | none => [])
  | .typed attributes pattern colon declared =>
      Attribute.outerCode attributes ++ pattern.code ++ Code.mark ":" colon ++ declared.code

def position (input : Input) : Position :=
  Token.startOf input.code.tokens

end Input

structure Abi where
  position : Position
  name : Option StringLiteral

def Abi.code (abi : Abi) : Code :=
  Code.keyword "extern" abi.position ++
    (match abi.name with
      | some literal => [.token literal.token]
      | none => [])

/-- Further arguments, written as three dots. -/
structure Variadic where
  attributes : List Attribute
  pattern : Code
  dots : Position
  comma : Option Position

namespace Variadic

def code (variadic : Variadic) : Code :=
  Attribute.outerCode variadic.attributes ++ variadic.pattern ++
    Code.mark "..." variadic.dots ++
    (match variadic.comma with
      | some position => Code.mark "," position
      | none => [])

def position (variadic : Variadic) : Position :=
  Token.startOf variadic.code.tokens

end Variadic

/-- A declared return type with its arrow. -/
structure ReturnType where
  arrow : Position
  declared : DeclaredType

def ReturnType.code (output : ReturnType) : Code :=
  Code.mark "->" output.arrow ++ output.declared.code

structure Signature where
  constness : Option Position
  asyncness : Option Position
  unsafety : Option Position
  abi : Option Abi
  keyword : Position
  name : Name
  generics : Generics
  opening : Position
  closing : Position
  inputs : List (Separated Input)
  variadic : Option Variadic
  output : Option ReturnType

namespace Signature

def inputCode (signature : Signature) : Code :=
  let inputs := signature.inputs.map (Separated.map Input.code)
  match signature.variadic with
  | none => Separated.code "," inputs
  | some variadic => Separated.code "," (inputs ++ [⟨variadic.code, none⟩])

def outputCode (signature : Signature) : Code :=
  match signature.output with
  | some output => output.code
  | none => []

def code (signature : Signature) : Code :=
  Code.keyword? "const" signature.constness ++
    Code.keyword? "async" signature.asyncness ++
    Code.keyword? "unsafe" signature.unsafety ++
    (match signature.abi with
      | some abi => abi.code
      | none => []) ++
    Code.keyword "fn" signature.keyword ++ Code.word signature.name ++
    signature.generics.code ++
    [.group .parenthesis signature.opening signature.closing signature.inputCode] ++
    signature.outputCode ++ signature.generics.whereCode

def tokens (signature : Signature) : List Token :=
  signature.code.tokens

def outputTokens (signature : Signature) : List Token :=
  signature.outputCode.tokens

/-- The inputs without their separators. -/
def arguments (signature : Signature) : List Input :=
  Separated.entries signature.inputs

end Signature

end DataAccess
