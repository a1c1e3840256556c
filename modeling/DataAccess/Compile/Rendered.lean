/-
This file holds the readers of what occurs in all rendered code.
-/

import DataAccess.Parse.Parser

namespace DataAccess.Rendered

/-- Reads a literal whose spelling has a meaning. -/
def literalOf {Result : Type} (meaning? : String → Option Result) : Parser Result := do
  match ← Parser.tokens with
  | .literal spelling _ :: rest =>
      match meaning? spelling with
      | some result => do
          Parser.take rest
          return result
      | none => Parser.failExpected [.literal]
  | _ => Parser.failExpected [.literal]

def nothing : Parser Unit :=
  pure ()

/-- A given path from the root of all crates. -/
def path : List String → Parser Unit
  | [] => nothing
  | name :: rest => do
      let _ ← Parser.mark "::"
      let _ ← Parser.keyword name
      path rest

/-- The name in which a given path ends. -/
def memberOf (names : List String) : Parser Name := do
  path names
  let _ ← Parser.mark "::"
  Parser.anyWord

/-- What a name stands for, if it is known. -/
def known {Result : Type} (meaning? : String → Option Result) (name : Name) : Parser Result :=
  match meaning? name.text with
  | some result => return result
  | none => Parser.failAt (.expected [.identifier] false) name.position

end DataAccess.Rendered
