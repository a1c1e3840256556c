/-
This file proves which positions a statement can be bound at, and what it holds afterwards.
-/

import DataAccess.Execution.Meaning

namespace DataAccess

namespace ValueType

/-- The binding table agrees with the forms in which values are stored. -/
theorem accepts_storage_store {type : ValueType} {tag : WireTag}
    (tabled : type.binding? = some tag) (value : type.Carrier) :
    tag.accepts (type.store value).storage = true := by
  cases type <;> simp only [binding?, reduceCtorEq, Option.some.injEq] at tabled <;>
    subst tabled <;> rfl

end ValueType

namespace Statement

/-- Half of the words of 32 bits are negative. -/
theorem half_size : UInt32.size / 2 = 2147483648 := rfl

/-- A small position is the placeholder itself. -/
theorem placeholder_of_lt {position : Nat} (small : position < UInt32.size / 2) :
    placeholder position = position :=
  Int32.toInt_ofNat_of_lt small

/-- The position behind the last one that can be reached wraps around to a negative one. -/
theorem placeholder_wrapped : placeholder (UInt32.size / 2) < 1 := by
  decide

/-- A position that can be reached takes an argument of the class that the tag accepts. -/
theorem bind_eq_ok {statement : Statement} {position : Nat} {argument : Bindable}
    {tag : WireTag} {value : Value} (stored : argument.stored = .ok value)
    (accepted : tag.accepts value.storage = true) (positive : 1 ≤ position)
    (reachable : position ≤ statement.addressable) :
    statement.bind position argument tag =
      .ok (statement.fill (position - 1) value.bound) := by
  have counted : position ≤ statement.parameterCount := by
    rw [addressable] at reachable
    omega
  have placed : placeholder position = position := by
    apply placeholder_of_lt
    rw [addressable, half_size] at reachable
    rw [half_size]
    omega
  have within : 1 ≤ (position : Int) ∧ (position : Int) ≤ statement.parameterCount := by
    omega
  simp only [bind, stored, accepted, placed, Bool.not_true, Bool.false_eq_true, if_false,
    if_pos within, Int.toNat_natCast]

/-- The position behind the last one that can be reached takes no argument. -/
theorem bind_behind_addressable {statement : Statement} {argument : Bindable} {tag : WireTag}
    {value : Value} (stored : argument.stored = .ok value)
    (accepted : tag.accepts value.storage = true) :
    statement.bind (statement.addressable + 1) argument tag =
      .error (.database .positionOutOfRange) := by
  have outside : ¬(1 ≤ placeholder (statement.addressable + 1) ∧
      placeholder (statement.addressable + 1) ≤ statement.parameterCount) := by
    rintro ⟨positive, counted⟩
    by_cases few : statement.parameterCount < UInt32.size / 2 - 1
    · have last : statement.addressable = statement.parameterCount := by
        rw [addressable]
        omega
      rw [half_size] at few
      rw [last, placeholder_of_lt (by rw [half_size]; omega)] at counted
      omega
    · have last : statement.addressable + 1 = UInt32.size / 2 := by
        rw [half_size] at few
        rw [addressable, half_size]
        omega
      have wrapped := placeholder_wrapped
      rw [last] at positive
      omega
  simp only [bind, stored, accepted, Bool.not_true, Bool.false_eq_true, if_false, if_neg outside]

/-- A filled placeholder does not change which placeholders can be addressed. -/
@[simp]
theorem addressable_fill (statement : Statement) (slot : Nat) (value : Value) :
    (statement.fill slot value).addressable = statement.addressable := by
  rw [addressable, addressable, parameterCount, parameterCount, fill, List.length_set]

/-- An argument of a type that the binding table knows is accepted under the tag of the table. -/
theorem bind_typed {statement : Statement} {position : Nat} {type : ValueType} {tag : WireTag}
    (tabled : type.binding? = some tag) (value : type.Carrier) (positive : 1 ≤ position)
    (reachable : position ≤ statement.addressable) :
    statement.bind position (.typed type value) tag =
      .ok (statement.fill (position - 1) (Bindable.typed type value).held) :=
  bind_eq_ok rfl (ValueType.accepts_storage_store tabled value) positive reachable

end Statement

namespace Meaning

/-- The tag of a parameter is the one that the binding table has for its type. -/
def Parameter.IsTabled (parameter : Parameter) : Prop :=
  parameter.type.binding? = some parameter.tag

/-- The descriptor of a parameter, which has forgotten the type. -/
def Parameter.descriptor (parameter : Parameter) : ParameterDescriptor :=
  ⟨parameter.name, parameter.tag⟩

end Meaning

namespace CompiledMethod

open Meaning

/-- The statement in which placeholders behind the first ones hold the arguments of parameters. -/
def filled (statement : Statement) (first : Nat) (parameters : List Parameter)
    (arguments : CallArguments) : Statement :=
  { statement with slots := statement.slots.take first ++
      (parameters.map (fun parameter => (arguments parameter.name.text).held) ++
        statement.slots.drop (first + parameters.length)) }

/-- Without bindings a statement is left as it is. -/
theorem filled_nil (statement : Statement) (first : Nat) (arguments : CallArguments) :
    filled statement first [] arguments = statement := by
  have slots : statement.slots.take first ++ statement.slots.drop first = statement.slots :=
    List.take_append_drop first statement.slots
  rw [filled, List.map_nil, List.nil_append, List.length_nil, Nat.add_zero, slots]

/-- The next placeholder can be filled first. -/
theorem filled_cons {statement : Statement} {first : Nat} (counted : first < statement.slots.length)
    (parameter : Parameter) (parameters : List Parameter) (arguments : CallArguments) :
    filled (statement.fill first (arguments parameter.name.text).held) (first + 1) parameters
        arguments =
      filled statement first (parameter :: parameters) arguments := by
  have before : (statement.slots.set first (arguments parameter.name.text).held).take (first + 1) =
      statement.slots.take first ++ [(arguments parameter.name.text).held] := by
    rw [List.take_add_one, List.take_set_of_le (Nat.le_refl first),
      List.getElem?_set_self counted]
    rfl
  have behind : (statement.slots.set first (arguments parameter.name.text).held).drop
      (first + 1 + parameters.length) = statement.slots.drop (first + 1 + parameters.length) :=
    List.drop_set_of_lt (by omega)
  have count : first + (parameter :: parameters).length = first + 1 + parameters.length := by
    rw [List.length_cons]
    omega
  simp only [filled, Statement.fill]
  rw [before, behind, count, List.append_assoc]
  rfl

/-- The argument of a parameter is bound to the next placeholder, if that can be reached. -/
theorem bind_next {arguments : CallArguments} {parameter : Parameter}
    (tabled : parameter.IsTabled) (suits : Suits arguments parameter) {first : Nat}
    {statement : Statement} (reachable : first ≤ statement.addressable) :
    statement.bind (first + 1) (arguments parameter.name.text) parameter.tag =
      if first + 1 ≤ statement.addressable then
        .ok (statement.fill first (arguments parameter.name.text).held)
      else .error (.database .positionOutOfRange) := by
  obtain ⟨value, argument⟩ := suits
  rw [argument]
  by_cases more : first + 1 ≤ statement.addressable
  · rw [if_pos more]
    exact Statement.bind_typed tabled value (Nat.le_add_left 1 first) more
  · have last : first = statement.addressable := by omega
    rw [if_neg more, last]
    exact Statement.bind_behind_addressable rfl (ValueType.accepts_storage_store tabled value)

/-- The arguments of parameters are bound one behind the other, as long as there are placeholders
that can be reached. -/
theorem bindAll_bindingsFrom (arguments : CallArguments) (parameters : List Parameter)
    (tabled : ∀ parameter ∈ parameters, parameter.IsTabled)
    (suits : ∀ parameter ∈ parameters, Suits arguments parameter) (first : Nat)
    (statement : Statement) (reachable : first ≤ statement.addressable) :
    bindAll (bindingsFrom (first + 1) (parameters.map Parameter.descriptor))
        (parameters.map fun parameter => arguments parameter.name.text) statement =
      if first + parameters.length ≤ statement.addressable then
        .ok (filled statement first parameters arguments)
      else .error (.database .positionOutOfRange) := by
  induction parameters generalizing first statement with
  | nil =>
    rw [filled_nil]
    exact (if_pos reachable).symm
  | cons parameter parameters hypothesis =>
    have next := bind_next (tabled parameter List.mem_cons_self)
      (suits parameter List.mem_cons_self) reachable
    have count : first + (parameter :: parameters).length = first + 1 + parameters.length := by
      rw [List.length_cons]
      omega
    simp only [List.map_cons, bindingsFrom, bindAll, Parameter.descriptor]
    rw [count, next]
    by_cases more : first + 1 ≤ statement.addressable
    · have counted : first < statement.slots.length := by
        rw [Statement.addressable, Statement.parameterCount] at more
        omega
      have goesOn := hypothesis
        (fun other member => tabled other (List.mem_cons_of_mem _ member))
        (fun other member => suits other (List.mem_cons_of_mem _ member)) (first + 1)
        (statement.fill first (arguments parameter.name.text).held)
        (by rwa [Statement.addressable_fill])
      rw [filled_cons counted, Statement.addressable_fill] at goesOn
      rw [if_pos more]
      exact goesOn
    · have beyond : ¬first + 1 + parameters.length ≤ statement.addressable := by omega
      rw [if_neg more, if_neg beyond]

end CompiledMethod

end DataAccess
