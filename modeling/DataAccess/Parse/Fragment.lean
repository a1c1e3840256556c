/-
This file reads single fragments of code, of which nothing may be left over: what stands inside
bodies and modules as well as whole files.
-/

import DataAccess.Parse.Declaration

namespace DataAccess

/-- A module as it is read. One that stands in a file of its own has no items here. -/
structure ModuleReading where
  attributes : List Attribute
  exposure : Code
  name : Name
  items : Option (List Item)

namespace Parse

open DataAccess.Parser

/-- A statement as it stands in front of another one. -/
def loneStatement (grammar : Grammar) : Parser BlockStatement := do
  let found ← statement grammar
  if needsSemicolon found then failExpected [.phrase "semicolon"] else return found

/-- A method of an implementation; it has a body. -/
def loneMethod (grammar : Grammar) : Parser Code := do
  match ← implementedMethod grammar (← outerAttributes grammar) with
  | some code => return code
  | none => failExpected [.enclosed .brace]

/-- An implementation, of which no token is kept without being looked at. -/
def loneImplementation (grammar : Grammar) : Parser ItemBody := do
  let _ ← outerAttributes grammar
  match ← implementation grammar with
  | .verbatim => failExpected [.token "impl"]
  | found => return found

/-- The items of a file. -/
def file (grammar : Grammar) : Parser (List Item) := do
  let _ ← innerAttributes grammar
  untilEmpty grammar.item

/-- A module with its items. -/
def loneModule (grammar : Grammar) : Parser ModuleReading := do
  let outer ← outerAttributes grammar
  let exposure ← visibility
  let _ ← keyword? "unsafe"
  let _ ← keyword "mod"
  let name ← if ← peek (Peek.word "try") then anyWord else identifier
  if ← peek (Peek.mark ";") then
    let _ ← mark ";"
    return ⟨outer, exposure, name, none⟩
  else
    let enclosed ← group .brace do
      let inner ← innerAttributes grammar
      return (inner, ← untilEmpty grammar.item)
    return ⟨outer ++ enclosed.value.1, exposure, name, some enclosed.value.2⟩

/-- What a fragment is meant to be. -/
inductive FragmentKind where
  | path
  | statement
  | expression
  | method
  | implementation
  | file
  | module
deriving DecidableEq, Repr

/-- What reads a fragment, whatever it answers. -/
def FragmentKind.parser (grammar : Grammar) : FragmentKind → Parser Unit
  | .path => do let _ ← Parse.path grammar .type
  | .statement => do let _ ← loneStatement grammar
  | .expression => do let _ ← grammar.expression true
  | .method => do let _ ← loneMethod grammar
  | .implementation => do let _ ← loneImplementation grammar
  | .file => do let _ ← Parse.file grammar
  | .module => do let _ ← loneModule grammar

end Parse

end DataAccess
