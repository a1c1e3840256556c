/-
This file proves that every placeholder holds the last argument accepted for it, however bindings
succeed and fail.
-/

import DataAccess.Execution.Placeholders
import DataAccess.Proofs.Execution.Binding
import DataAccess.Proofs.Row.ForwardReading

namespace DataAccess

namespace Assignment

/-! One assignment: it is refused for the first of three causes, or fills its placeholder. -/

section

variable {statement : Statement} {assignment : Assignment} {value : Value}

/-- A tag accepts what a value is stored as where the value suits the assignment. -/
theorem accepts_iff : assignment.tag.accepts value.storage = true ↔ assignment.Suits value := by
  rw [WireTag.accepts, Suits, Bool.or_eq_true, beq_iff_eq, beq_iff_eq]

/-- An assignment whose argument cannot be stored fails with the error of its conversion. -/
theorem serve_of_unconverted {error : DatabaseError}
    (stored : assignment.argument.stored = .error error) :
    serve statement assignment = (.error (.database error), statement) := by
  simp only [serve, Statement.tryBind, Statement.bind, stored]

/-- An assignment whose value does not suit its tag is refused with the position, the tag and the
class. -/
theorem serve_of_unsuitable (stored : assignment.argument.stored = .ok value)
    (unsuitable : ¬ assignment.Suits value) :
    serve statement assignment =
      (.error (.binding assignment.position assignment.tag value.storage), statement) := by
  have refused : assignment.tag.accepts value.storage = false :=
    Bool.eq_false_iff.mpr fun accepted => unsuitable (accepts_iff.mp accepted)
  simp only [serve, Statement.tryBind, Statement.bind, stored, refused, Bool.not_false, if_true]

/-- An assignment to a position that the statement does not have is refused by the database. -/
theorem serve_of_outside (stored : assignment.argument.stored = .ok value)
    (suits : assignment.Suits value)
    (outside : ¬ (1 ≤ assignment.target ∧ assignment.target ≤ statement.parameterCount)) :
    serve statement assignment = (.error (.database .positionOutOfRange), statement) := by
  rw [target] at outside
  simp only [serve, Statement.tryBind, Statement.bind, stored, accepts_iff.mpr suits,
    Bool.not_true, Bool.false_eq_true, if_false, if_neg outside]

/-- An assignment to a placeholder of the statement fills this placeholder. -/
theorem serve_of_inside (stored : assignment.argument.stored = .ok value)
    (suits : assignment.Suits value)
    (inside : 1 ≤ assignment.target ∧ assignment.target ≤ statement.parameterCount) :
    serve statement assignment =
      (.ok (), statement.fill (assignment.target.toNat - 1) value.bound) := by
  rw [target] at inside ⊢
  simp only [serve, Statement.tryBind, Statement.bind, stored, accepts_iff.mpr suits,
    Bool.not_true, Bool.false_eq_true, if_false, if_pos inside]

/-- The answer is the first cause to refuse the assignment, if there is one. -/
theorem isAnswered_serve (statement : Statement) (assignment : Assignment) :
    IsAnswered statement.parameterCount assignment (serve statement assignment).1 := by
  cases stored : assignment.argument.stored with
  | error error =>
    rw [serve_of_unconverted stored]
    constructor <;> simp [stored]
  | ok value =>
    by_cases suits : assignment.Suits value
    case neg =>
      rw [serve_of_unsuitable stored suits]
      constructor <;> simp +contextual [stored, suits]
    by_cases inside : 1 ≤ assignment.target ∧ assignment.target ≤ statement.parameterCount
    · rw [serve_of_inside stored suits inside]
      constructor <;> simp +contextual [stored, suits, inside]
    · rw [serve_of_outside stored suits inside]
      constructor <;> simp +contextual [stored, suits, inside]

/-- A refused assignment leaves the statement as it is. -/
theorem serve_of_refused (refused : (serve statement assignment).1 ≠ .ok ()) :
    (serve statement assignment).2 = statement := by
  rw [serve, Statement.tryBind] at refused ⊢
  cases bound : statement.bind assignment.position assignment.argument assignment.tag with
  | ok bound =>
    rw [bound] at refused
    exact absurd rfl refused
  | error error => rfl

/-- An assignment that is refused leaves the statement as it is; one that is accepted fills its
placeholder alone. -/
theorem serve_cases (statement : Statement) (assignment : Assignment) :
    ((serve statement assignment).1 ≠ .ok () ∧ (serve statement assignment).2 = statement) ∨
    ∃ value, assignment.argument.stored = .ok value ∧ 1 ≤ assignment.target ∧
      assignment.target ≤ statement.parameterCount ∧ serve statement assignment =
        (.ok (), statement.fill (assignment.target.toNat - 1) value.bound) := by
  by_cases accepted : (serve statement assignment).1 = .ok ()
  · obtain ⟨value, stored, suits, first, last⟩ :=
      (isAnswered_serve statement assignment).accepted.mp accepted
    exact .inr ⟨value, stored, first, last, serve_of_inside stored suits ⟨first, last⟩⟩
  · exact .inl ⟨accepted, serve_of_refused accepted⟩

/-- No assignment changes how many placeholders a statement has. -/
theorem parameterCount_serve (statement : Statement) (assignment : Assignment) :
    (serve statement assignment).2.parameterCount = statement.parameterCount := by
  obtain ⟨_, same⟩ | ⟨value, _, _, _, filled⟩ := serve_cases statement assignment
  · rw [same]
  · rw [filled]
    exact List.length_set

/-- A placeholder for which the assignment is not accepted holds what it held. -/
theorem slot_serve_of_other {placeholder : Nat} (positive : 1 ≤ placeholder)
    (other : (serve statement assignment).1 = .ok () → assignment.target ≠ placeholder) :
    (serve statement assignment).2.slots[placeholder - 1]? =
      statement.slots[placeholder - 1]? := by
  obtain ⟨_, same⟩ | ⟨value, _, first, _, filled⟩ := serve_cases statement assignment
  · rw [same]
  · rw [filled] at other ⊢
    have elsewhere : assignment.target ≠ placeholder := other rfl
    exact List.getElem?_set_ne (by omega)

/-- The placeholder for which the assignment is accepted holds the argument. -/
theorem slot_serve_of_accepted {placeholder : Nat}
    (accepted : (serve statement assignment).1 = .ok ())
    (meant : assignment.target = placeholder) :
    ∃ value, assignment.argument.stored = .ok value ∧
      (serve statement assignment).2.slots[placeholder - 1]? = some value.bound := by
  obtain ⟨refused, _⟩ | ⟨value, stored, first, last, filled⟩ :=
    serve_cases statement assignment
  · exact absurd accepted refused
  · refine ⟨value, stored, ?_⟩
    rw [meant] at first last
    rw [filled, meant]
    rw [Statement.parameterCount] at last
    exact List.getElem?_set_self (by omega)

end

/-! Sequences of assignments. -/

/-- A placeholder is filled by the first assignment or by one of the others. -/
theorem fills_cons {assignment : Assignment} {answer : Except ExecutionError Unit}
    {answered : Answered} {placeholder : Nat} :
    Fills (⟨assignment, answer⟩ :: answered) placeholder ↔
      (answer = .ok () ∧ assignment.target = placeholder) ∨ Fills answered placeholder := by
  constructor
  · rintro ⟨other, member, meant⟩
    obtain same | behind := List.mem_cons.mp member
    · cases same
      exact .inl ⟨rfl, meant⟩
    · exact .inr ⟨other, behind, meant⟩
  · rintro (⟨rfl, meant⟩ | ⟨other, member, meant⟩)
    · exact ⟨assignment, List.mem_cons_self, meant⟩
    · exact ⟨other, List.mem_cons_of_mem _ member, meant⟩

/-- Refused assignments fill no placeholder. -/
theorem not_fills_of_refused {answered : Answered} {placeholder : Nat}
    (refused : ∀ entry ∈ answered, entry.2 ≠ .ok ()) : ¬ Fills answered placeholder :=
  fun ⟨_, member, _⟩ => refused _ member rfl

/-- Every assignment gets an answer, and it depends on the number of placeholders alone. -/
theorem isAnswered_of_mem (statement : Statement) (assignments : List Assignment) :
    ∀ answered ∈ Run.answers serve statement assignments,
      IsAnswered statement.parameterCount answered.1 answered.2 := by
  induction assignments generalizing statement with
  | nil => exact List.forall_mem_nil _
  | cons assignment rest hypothesis =>
    refine List.forall_mem_cons.mpr ⟨isAnswered_serve statement assignment, ?_⟩
    rw [← parameterCount_serve statement assignment]
    exact hypothesis (serve statement assignment).2

/-- No run of assignments changes how many placeholders a statement has. -/
theorem parameterCount_final (statement : Statement) (assignments : List Assignment) :
    (Run.final serve statement assignments).parameterCount = statement.parameterCount := by
  induction assignments generalizing statement with
  | nil => rfl
  | cons assignment rest hypothesis =>
    exact (hypothesis _).trans (parameterCount_serve statement assignment)

/-- A placeholder for which no assignment is accepted holds what it held. -/
theorem slot_final_of_not_fills {placeholder : Nat} (positive : 1 ≤ placeholder)
    (statement : Statement) (assignments : List Assignment)
    (missing : ¬ Fills (Run.answers serve statement assignments) placeholder) :
    (Run.final serve statement assignments).slots[placeholder - 1]? =
      statement.slots[placeholder - 1]? := by
  induction assignments generalizing statement with
  | nil => rfl
  | cons assignment rest hypothesis =>
    rw [Run.answers, fills_cons, not_or] at missing
    have other : (serve statement assignment).1 = .ok () → assignment.target ≠ placeholder :=
      fun accepted meant => missing.1 ⟨accepted, meant⟩
    exact (hypothesis _ missing.2).trans (slot_serve_of_other positive other)

/-- A placeholder holds the last argument that has been accepted for it. -/
theorem slot_final_of_last {placeholder : Nat} (positive : 1 ≤ placeholder)
    {statement : Statement} {assignments : List Assignment} {before behind : Answered}
    {assignment : Assignment}
    (split : Run.answers serve statement assignments =
      before ++ ⟨assignment, .ok ()⟩ :: behind)
    (meant : assignment.target = placeholder) (last : ¬ Fills behind placeholder) :
    ∃ value, assignment.argument.stored = .ok value ∧
      (Run.final serve statement assignments).slots[placeholder - 1]? = some value.bound := by
  induction before generalizing statement assignments with
  | nil =>
    cases assignments with
    | nil => exact nomatch split
    | cons first rest =>
      obtain ⟨now, rfl⟩ := List.cons.inj split
      obtain ⟨rfl, answer⟩ := Sigma.mk.inj now
      obtain ⟨value, stored, held⟩ := slot_serve_of_accepted (eq_of_heq answer) meant
      exact ⟨value, stored, (slot_final_of_not_fills positive _ rest last).trans held⟩
  | cons earlier before hypothesis =>
    cases assignments with
    | nil => exact nomatch split
    | cons first rest => exact @hypothesis (serve statement first).2 rest (List.cons.inj split).2

end Assignment

namespace Statement

open Assignment (serve HoldsLast)

end Statement

end DataAccess
