/-
This file closes the grammar: its parts refer to each other up to a depth that the number of
tokens bounds.
-/

import DataAccess.Parse.Item

namespace DataAccess.Parse

open DataAccess.Parser

/-- The grammar whose parts are nested at most so deep. -/
def grammar : Nat → Grammar
  | 0 => {
      type := fun _ => failExpected []
      typeReading := fun _ => failExpected []
      bound := fun _ _ => failExpected []
      pattern := failExpected []
      expression := fun _ => failExpected []
      boundaryExpression := failExpected []
      operand := fun _ => failExpected []
      operators := fun _ _ _ => failExpected []
      statements := failExpected []
      item := failExpected [] }
  | depth + 1 => {
      type := fun allowPlus stream => declaredType (grammar depth) allowPlus stream
      typeReading := fun allowPlus stream => typeReading (grammar depth) allowPlus stream
      bound := fun allowCapture allowConstant stream =>
        bound (grammar depth) allowCapture allowConstant stream
      pattern := fun stream => pattern (grammar depth) stream
      expression := fun allowStruct stream => expression (grammar depth) allowStruct stream
      boundaryExpression := fun stream => boundaryExpression (grammar depth) stream
      operand := fun allowStruct stream => operand (grammar depth) allowStruct stream
      operators := fun allowStruct found strength stream =>
        operators (grammar depth) allowStruct found strength stream
      statements := fun stream => statements (grammar depth) stream
      item := fun stream => item (grammar depth) stream }

/-- Between two tokens a declaration nests only a few parts. -/
def grammarFor (tokens : List Token) : Grammar :=
  grammar (8 * Token.count tokens + 64)

def type? (tokens : List Token) : Except SyntaxError DeclaredType :=
  run ((grammarFor tokens).type true) tokens

def trait? (tokens : List Token) : Except SyntaxError TraitDeclaration :=
  run (traitDeclaration (grammarFor tokens)) tokens

end DataAccess.Parse
