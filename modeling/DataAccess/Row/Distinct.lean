/-
This file says which of the values of a list a set holds: the first of each class of equal values.
-/

import DataAccess.Row.Carrier
import Mathlib.Data.Set.Card
import Mathlib.Data.Setoid.Basic

namespace DataAccess

/-- Times with an offset are equal when they tell the same moment, with the same fraction of the
second. Other values are equal when they are the same. -/
def ValueType.equality : (type : ValueType) → Setoid type.Carrier
  | .offsetDateTime =>
      Setoid.ker fun value => (value.universalSecond, value.clock.time.nanosecond)
  | .byte | .short | .int | .long | .float | .double | .bool | .string | .borrowed | .date | .time
  | .dateTime | .instant | .blob | .anyValue => ⟨Eq, eq_equivalence⟩

/-- The members are one value of each class of equal values of a list, and it is the first in the
list. So there are as many members as there are classes. -/
structure HoldsFirsts {Element : Type} (equality : Setoid Element)
    (elements members : List Element) : Prop where
  first : ∀ member ∈ members, ∃ before behind, elements = before ++ member :: behind ∧
    ∀ earlier ∈ before, ¬ equality earlier member
  single : ∀ element ∈ elements, ∃! member, member ∈ members ∧ equality member element
  distinct : members.Pairwise fun one other => ¬ equality one other
  size : members.length =
    (Set.image (Quotient.mk equality) {element | element ∈ elements}).ncard

end DataAccess
