/-
This file takes the places from tokens, so that what they say can be compared.
-/

import DataAccess.Source.Token

namespace DataAccess

/-- A name wherever it stands. -/
def Name.placeless (name : Name) : Name :=
  ⟨name.text, .callSite⟩

namespace Token

mutual

/-- A token wherever it stands. -/
def placeless : Token → Token
  | .word name => .word name.placeless
  | .mark character joint _ => .mark character joint .callSite
  | .literal text _ => .literal text .callSite
  | .lifetime name => .lifetime name.placeless
  | .group delimiter _ _ inner => .group delimiter .callSite .callSite (placelessAll inner)

def placelessAll : List Token → List Token
  | [] => []
  | token :: rest => placeless token :: placelessAll rest

end

end Token

end DataAccess
