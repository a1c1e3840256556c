/-
This file decides which texts are identifiers.
-/

import DataAccess.Text.IdentifierTable

namespace DataAccess.Text.Identifier

/-- A code point lies in one of the ranges. -/
def inRanges (ranges : Array (Nat × Nat)) (character : Char) : Bool :=
  ranges.any fun range => range.1 ≤ character.toNat && character.toNat ≤ range.2

/-- The characters that can begin an identifier: `XID_Start` and the underscore. -/
def isStart (character : Char) : Bool :=
  if character.toNat < 0x80 then character.isAlpha || character == '_'
  else inRanges IdentifierTable.startRanges character

/-- The characters that can continue an identifier: `XID_Continue`. -/
def isContinue (character : Char) : Bool :=
  if character.toNat < 0x80 then character.isAlphanum || character == '_'
  else inRanges IdentifierTable.startRanges character ||
    inRanges IdentifierTable.continueOnlyRanges character

/-- An identifier is one starting character and any number of continuing ones. -/
def isIdentifier (text : String) : Bool :=
  match text.toList with
  | [] => false
  | first :: rest => isStart first && rest.all isContinue

/-- The words that are reserved, so that they cannot name anything without a raw prefix. -/
def reservedWords : List String :=
  ["_", "abstract", "as", "async", "await", "become", "box", "break", "const", "continue",
    "crate", "do", "dyn", "else", "enum", "extern", "false", "final", "fn", "for", "if", "impl",
    "in", "let", "loop", "macro", "match", "mod", "move", "mut", "override", "priv", "pub", "ref",
    "return", "Self", "self", "static", "struct", "super", "trait", "true", "try", "type",
    "typeof", "unsafe", "unsized", "use", "virtual", "where", "while", "yield"]

def isReserved (text : String) : Bool :=
  reservedWords.contains text

end DataAccess.Text.Identifier
