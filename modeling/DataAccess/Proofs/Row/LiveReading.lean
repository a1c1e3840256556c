/-
This file proves that live and buffered reading agree. A cursor and a result set that stand behind
the same number of rows answer every operation alike, until the cursor comes to a step that fails.
-/

import DataAccess.Proofs.Row.Draining
import DataAccess.Proofs.Row.ForwardReading

namespace DataAccess

open ResultSource (Operation)

namespace Cursor

variable {rows : List Row} {advances : Nat}

/-- The cursor behind so many of its rows, with further steps behind the last row. -/
def behind (rows : List Row) (further : List Step) (advances : Nat) : Cursor :=
  ⟨(rows.drop advances).map Step.row ++ further, ResultSet.rowAfter rows advances⟩

/-- Before the first advance a cursor stands in front of all of its steps. -/
theorem behind_zero (rows : List Row) (further : List Step) :
    behind rows further 0 = ofSteps (rows.map Step.row ++ further) := rfl

/-- An advance within the rows succeeds and goes on by one row. -/
theorem advance_behind (further : List Step) (within : advances < rows.length) :
    (behind rows further advances).advance = (.ok true, behind rows further (advances + 1)) := by
  rw [behind, behind, ResultSet.rowAfter_succ, List.drop_eq_getElem_cons within,
    List.getElem?_eq_getElem within]
  rfl

/-- Behind its last row a cursor without further steps stays where it is. -/
theorem advance_exhausted (exhausted : rows.length ≤ advances) :
    (behind rows [] advances).advance = (.ok false, behind rows [] (advances + 1)) := by
  rw [behind, behind, ResultSet.rowAfter_succ, List.drop_eq_nil_of_le exhausted,
    List.drop_eq_nil_of_le (by omega), List.getElem?_eq_none exhausted]
  rfl

/-- Behind its last row a cursor fails as the next step does. -/
theorem advance_failing {failing : Step} {error : ExecutionError}
    (fails : failing.reached = .error error) (later : List Step) :
    ((behind rows (failing :: later) rows.length).advance).1 = .error error := by
  rw [behind, List.drop_length, List.map_nil, List.nil_append, advance_cons, fails]

end Cursor

namespace ResultSource

variable (rows : List Row) (further : List Step) (advances : Nat)

/-- What is no advance is answered from the current row, and changes nothing. -/
theorem perform_reading {First Second : Type} [ResultSource First] [ResultSource Second]
    {first : First} {second : Second} {operation : Operation}
    (reading : operation.isAdvance = false) (same : current? first = current? second) :
    (perform first operation).1 = (perform second operation).1 ∧
      (perform first operation).2 = first := by
  cases operation with
  | advance => exact nomatch reading
  | current => exact ⟨same, rfl⟩
  | get column reader =>
    refine ⟨?_, rfl⟩
    rw [perform, perform, get, get, same]

/-- A cursor that does not come to a failing step advances as a result set does. -/
theorem perform_advance (within : advances + 1 ≤ rows.length ∨ further = []) :
    perform (Cursor.behind rows further advances) .advance =
      (.ok (decide (advances + 1 ≤ rows.length)), Cursor.behind rows further (advances + 1)) := by
  by_cases left : advances + 1 ≤ rows.length
  · rw [decide_eq_true left]
    exact Cursor.advance_behind further left
  · obtain rfl : further = [] := within.resolve_left left
    rw [decide_eq_false left]
    exact Cursor.advance_exhausted (by omega)

/-- One operation: a cursor and a result set behind the same rows answer alike, and they stand
behind the same rows again. -/
theorem perform_behind (operation : Operation)
    (within : advances + (if operation.isAdvance then 1 else 0) ≤ rows.length ∨ further = []) :
    (perform (Cursor.behind rows further advances) operation).1 =
        (perform (ResultSet.behind rows advances) operation).1 ∧
      (perform (Cursor.behind rows further advances) operation).2 =
        Cursor.behind rows further (advances + if operation.isAdvance then 1 else 0) := by
  cases kind : operation.isAdvance with
  | false => exact perform_reading kind rfl
  | true =>
    obtain rfl : operation = .advance := by
      cases operation with
      | advance => rfl
      | current => exact nomatch kind
      | get column reader => exact nomatch kind
    have advanced := ResultSet.advance_behind rows advances
    rw [perform_advance rows further advances within]
    exact ⟨(congrArg (fun step => Except.ok step.1) advanced).symm, rfl⟩

/-- Any operations: a cursor answers them as a result set does, as long as there are no more
advances than rows or no steps behind the rows. -/
theorem answers_behind (operations : List Operation)
    (within : advances + operations.countP Operation.isAdvance ≤ rows.length ∨ further = []) :
    Run.answers perform (Cursor.behind rows further advances) operations =
        Run.answers perform (ResultSet.behind rows advances) operations ∧
      Run.final perform (Cursor.behind rows further advances) operations =
        Cursor.behind rows further (advances + operations.countP Operation.isAdvance) := by
  induction operations generalizing advances with
  | nil => exact ⟨rfl, rfl⟩
  | cons operation rest hypothesis =>
    rw [List.countP_cons] at within
    obtain ⟨answered, left⟩ := perform_behind rows further advances operation
      (within.imp_left (by omega))
    have kept : (perform (ResultSet.behind rows advances) operation).2 =
        ResultSet.behind rows (advances + if operation.isAdvance then 1 else 0) :=
      (ResultSet.perform_behind rows advances (.ofSource operation)).2
    obtain ⟨agreed, final⟩ := hypothesis (advances + if operation.isAdvance then 1 else 0)
      (within.imp_left (by omega))
    rw [Run.answers, Run.answers, Run.final, answered, left, kept, agreed, final, List.countP_cons]
    refine ⟨rfl, ?_⟩
    congr 1
    omega

end ResultSource

namespace ResultSet

/-- A step with a row comes to that row. -/
theorem reached_row (row : Row) : (Step.row row).reached = .ok row := rfl

/-- Steps with rows come to those rows. -/
theorem mapM_reached (rows : List Row) :
    (rows.map Step.row).mapM Step.reached = .ok rows := by
  induction rows with
  | nil => rfl
  | cons row rest hypothesis =>
    rw [List.map_cons, Except.mapM_cons_ok (reached_row row), hypothesis]
    rfl

/-- Behind some rows a failing step makes the whole fail with its error. -/
theorem mapM_reached_failing {failing : Step} {error : ExecutionError}
    (fails : failing.reached = .error error) (rows : List Row) (later : List Step) :
    (rows.map Step.row ++ failing :: later).mapM Step.reached = .error error := by
  induction rows with
  | nil => exact Except.mapM_cons_error fails later
  | cons row rest hypothesis =>
    rw [List.map_cons, List.cons_append, Except.mapM_cons_ok (reached_row row), hypothesis]
    rfl

end ResultSet

namespace Statement

open ResultSource (perform)

/-- A result set holds the rows that all steps come to. -/
theorem resultSet_eq (statement : Statement) :
    statement.resultSet =
      ((statement.outcome statement.slots).mapM Step.reached).map ResultSet.ofRows :=
  congrArg Prod.fst (ResultSet.collect_cursor (statement.outcome statement.slots) none)

/-- Live and buffered reading agree. If the statement's steps are rows, the result set has them all
before it, and the cursor answers every sequence of operations as the result set does. If a step
behind some rows fails, there is no result set but the error; the cursor leads through these rows as
a result set of them does, and fails with the error when it is advanced behind the last of them. -/
theorem live_and_buffered_agree (statement : Statement) :
    (∀ rows : List Row, statement.outcome statement.slots = rows.map Step.row →
      ∃ set, statement.resultSet = .ok set ∧ set.remaining = rows.length ∧ set.current? = none ∧
        ∀ operations : List Operation,
          Run.answers perform statement.query operations = Run.answers perform set operations) ∧
    (∀ (rows : List Row) (failing : Step) (later : List Step) (error : ExecutionError),
      statement.outcome statement.slots = rows.map Step.row ++ failing :: later →
      failing.reached = .error error →
      statement.resultSet = .error error ∧
        ∀ operations : List Operation,
          (operations.countP Operation.isAdvance ≤ rows.length →
            Run.answers perform statement.query operations =
              Run.answers perform (ResultSet.ofRows rows) operations) ∧
          (operations.countP Operation.isAdvance = rows.length →
            (perform (Run.final perform statement.query operations) .advance).1 =
              Except.error error)) := by
  constructor
  · intro rows stepped
    refine ⟨.ofRows rows, ?_, rfl, rfl, fun operations => ?_⟩
    · rw [resultSet_eq, stepped, ResultSet.mapM_reached]
      rfl
    · have agreed := (ResultSource.answers_behind rows [] 0 operations (.inr rfl)).1
      rw [Cursor.behind_zero, List.append_nil, ResultSet.behind_zero] at agreed
      rw [query, stepped, agreed]
  · intro rows failing later error stepped fails
    constructor
    · rw [resultSet_eq, stepped, ResultSet.mapM_reached_failing fails]
      rfl
    · intro operations
      have begun : statement.query = Cursor.behind rows (failing :: later) 0 := by
        rw [query, stepped, Cursor.behind_zero]
      have both := ResultSource.answers_behind rows (failing :: later) 0 operations
      rw [Nat.zero_add, ← begun, ResultSet.behind_zero] at both
      refine ⟨fun within => (both (.inl within)).1, fun reached => ?_⟩
      rw [(both (.inl (Nat.le_of_eq reached))).2, reached]
      exact Cursor.advance_failing fails later

/-- A statement without placeholders. -/
def stepping (steps : List Step) : Statement := ⟨[], fun _ => steps⟩

/-- A statement that reaches rows of different widths, and one that fails behind its first row. -/
theorem live_and_buffered_agree_of_overflow :
    (∃ set, (stepping [.row [.integer 1], .row []]).resultSet = .ok set ∧
      set.remaining = 2 ∧ set.current? = none ∧
      ∀ operations : List Operation,
        Run.answers perform (stepping [.row [.integer 1], .row []]).query operations =
          Run.answers perform set operations) ∧
    (let overflow := ExecutionError.database .integerOverflow
      let statement := stepping [.row [.integer 7], .failure overflow, .row [.null]]
      statement.resultSet = .error overflow ∧
        (perform (Run.final perform statement.query [.advance, .current]) .advance).1 =
          Except.error overflow) := by
  constructor
  · exact (live_and_buffered_agree _).1 [[.integer 1], []] rfl
  · intro overflow statement
    obtain ⟨buffered, live⟩ := (live_and_buffered_agree statement).2 [[.integer 7]]
      (.failure overflow) [.row [.null]] overflow rfl rfl
    exact ⟨buffered, (live [.advance, .current]).2 rfl⟩

end Statement

end DataAccess
