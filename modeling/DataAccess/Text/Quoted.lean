/-
This file writes texts between quotes, with escapes for what cannot stand there.
-/

import DataAccess.Text.Identifier
import DataAccess.Text.PrintableTable

namespace DataAccess.Text.Quoted

def hexadecimal (value : Nat) : String :=
  String.ofList (Nat.toDigits 16 value)

/-- Combining marks and characters without a shape of their own are written by their number. -/
def needsNumber (character : Char) : Bool :=
  if character.toNat < 0x80 then character.toNat < 0x20 || character.toNat == 0x7f
  else Identifier.inRanges PrintableTable.extendRanges character ||
    Identifier.inRanges PrintableTable.unprintableRanges character

/-- The written form of one character, the null character and quotes apart. -/
def escape (character : Char) : String :=
  if character == '\t' then "\\t"
  else if character == '\r' then "\\r"
  else if character == '\n' then "\\n"
  else if character == '"' then "\\\""
  else if character == '\\' then "\\\\"
  else if needsNumber character then
    "\\u\x7b" ++ hexadecimal character.toNat ++ "\x7d"
  else character.toString

/-- A null character is `\0`, unless an octal digit follows in a literal. -/
def literalBody : List Char → String
  | [] => ""
  | character :: rest =>
      let written :=
        if character == '\x00' then
          match rest with
          | next :: _ => if '0' ≤ next && next ≤ '7' then "\\x00" else "\\0"
          | [] => "\\0"
        else escape character
      written ++ literalBody rest

/-- The spelling of a string literal that denotes the text. -/
def literal (text : String) : String :=
  "\"" ++ literalBody text.toList ++ "\""

/-- The form in which a message shows a text. -/
def shown (text : String) : String :=
  "\"" ++ String.join (text.toList.map fun character =>
    if character == '\x00' then "\\0" else escape character) ++ "\""

end DataAccess.Text.Quoted
