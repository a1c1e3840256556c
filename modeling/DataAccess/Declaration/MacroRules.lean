/-
This file formats the rules that define a macro. A rule is a group that is matched, an arrow, and a
group that the match expands to.
-/

import DataAccess.Source.Code

namespace DataAccess.MacroRules

/-- How much of a rule has been read. -/
inductive Progress where
  | none
  | matcher
  | equals
  | arrow
  | expansion
deriving DecidableEq, Repr

/-- A rule goes on with a token, of which the formatter writes a text. -/
def step (progress : Progress) (token : Token) : Option (Progress × String) :=
  match progress, token with
  | .none, .group _ _ _ _ => some (.matcher, token.text)
  | .matcher, .mark '=' true _ => some (.equals, "=")
  | .equals, .mark '>' false _ => some (.arrow, ">")
  | .arrow, .group _ _ _ inner => some (.expansion, Token.surround .brace (Token.textOf inner))
  | .expansion, .mark ';' false _ => some (.none, ";")
  | _, _ => Option.none

/-- Only a rule that has its expansion is ended. -/
def ending : Progress → String
  | .expansion => ";"
  | .none | .matcher | .equals | .arrow => ""

def textFrom (progress : Progress) : List Token → Option String
  | [] => some (ending progress)
  | token :: rest => do
      let (next, text) ← step progress token
      return text ++ (← textFrom next rest)

/-- The rules, printed as other tokens are. The formatter puts braces around each expansion and
around all rules. -/
def code (rules printed : List Token) : Code :=
  match textFrom .none rules with
  | some text => [.dropped printed, .inserted (Token.surround .brace text)]
  | none => [.refused .malformedRules printed]

end DataAccess.MacroRules
