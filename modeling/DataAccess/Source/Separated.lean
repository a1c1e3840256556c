/-
This file holds lists whose entries are separated by marks.
-/

import DataAccess.Source.Code

namespace DataAccess

/-- An entry of a list, with the separator that follows it. -/
structure Separated (Entry : Type) where
  entry : Entry
  separator : Option Position
deriving DecidableEq, Repr

namespace Separated

/-- Entries are printed with their separators; one that lacks a separator gets one when another
entry follows. The formatter leaves out a separator behind the last entry. -/
def code (mark : String) : List (Separated Code) → Code
  | [] => []
  | [last] =>
      last.entry ++ (match last.separator with
        | some position => Code.leaveOut (Code.mark mark position)
        | none => [])
  | first :: rest =>
      first.entry ++ Code.mark mark (first.separator.getD .callSite) ++ code mark rest

def map {First Second : Type} (change : First → Second) (separated : Separated First) :
    Separated Second :=
  ⟨change separated.entry, separated.separator⟩

def entries {Entry : Type} (separated : List (Separated Entry)) : List Entry :=
  separated.map Separated.entry

end Separated

end DataAccess
