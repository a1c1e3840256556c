/-
This file proves what is known of the types that could be resolved.
-/

import DataAccess.Proofs.Mapping.Support
import DataAccess.Row.Carrier

namespace DataAccess.Mapping

/-- A parameter is sent with the tag that the table has for its value type. -/
theorem binding?_of_resolveParameter {declared : DeclaredType} {type : ValueType} {tag : WireTag}
    (resolved : resolveParameter declared = .ok (type, tag)) : type.binding? = some tag :=
  (binds_iff.mp (resolveParameter_eq_ok_iff.mp resolved)).2

/-- Sets are declared only of types with an order. -/
def IsOrdered : ReturnShape → Prop
  | .collection .set type => type.order?.isSome = true
  | .collection .list _ => True
  | .void => True
  | .cursor => True
  | .scalar _ => True

/-- A form of types that is returned as a set holds values that can be ordered. -/
theorem isOrdered_of_returns {form : TypeForm} {shape : ReturnShape}
    (returned : form.Returns shape) : IsOrdered shape := by
  cases returned with
  | void | cursor | scalar | list => trivial
  | set _ extracted total =>
    rw [← hasTotalEquality_of_extracts extracted, Bool.not_eq_false] at total
    rw [IsOrdered, ValueType.order?_isSome_eq_hasTotalEquality]
    exact total

/-- No return type is accepted that asks for a set without an order. -/
theorem isOrdered_of_resolveReturn {output : Option DeclaredType} {returned : ReturnDescriptor}
    (resolved : resolveReturn output = .ok returned) : IsOrdered returned.shape := by
  cases output with
  | none =>
    rw [← Except.ok.inj resolved]
    trivial
  | some declared =>
    cases resolveReturn_eq_ok_iff.mp resolved with
    | propagate _ _ returned => exact isOrdered_of_returns returned
    | unchecked _ returned => exact isOrdered_of_returns returned

end DataAccess.Mapping
