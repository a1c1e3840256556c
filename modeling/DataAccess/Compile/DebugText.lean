/-
This file holds the text of debug files as far as it does not depend on layout: the formatted code
without white space, commas and braces.
-/

import DataAccess.Source.Code
import DataAccess.Text.Whitespace

namespace DataAccess.DebugText

/-- Whether a character is compared: neither white space nor a comma nor a brace. -/
def isKept (character : Char) : Bool :=
  !Text.isWhitespace character && character != ',' && character != '\x7b' && character != '\x7d'

/-- The compared characters of a text. -/
def kept (text : String) : String :=
  String.ofList (text.toList.filter isKept)

/-- The text that the debug file holds of a module, unless the formatter stops. -/
def ofCode (code : Code) : Except FormatFailure String :=
  code.formatted.map kept

end DataAccess.DebugText
