/-
This file proves what the drains make of the steps of a cursor: the rows or values of all steps, or
the failure of the first step that has none.
-/

import DataAccess.Proofs.Row.SortedSet

namespace DataAccess

open Meaning

/-- Nothing converted is nothing. -/
theorem Except.mapM_nil {Error Source Result : Type} (convert : Source → Except Error Result) :
    [].mapM convert = .ok [] :=
  List.mapM_nil

/-- A list whose head is converted is converted as its tail is, with the head in front. -/
theorem Except.mapM_cons_ok {Error Source Result : Type} {convert : Source → Except Error Result}
    {first : Source} {result : Result} (converted : convert first = .ok result)
    (rest : List Source) :
    (first :: rest).mapM convert = (rest.mapM convert).map (result :: ·) := by
  rw [List.mapM_cons, converted]
  rfl

/-- A list whose head cannot be converted fails as the head does. -/
theorem Except.mapM_cons_error {Error Source Result : Type}
    {convert : Source → Except Error Result} {first : Source} {error : Error}
    (failed : convert first = .error error) (rest : List Source) :
    (first :: rest).mapM convert = .error error := by
  rw [List.mapM_cons, failed]
  rfl

/-- Two conversions of a result are one. -/
theorem Except.map_map {Error First Second Third : Type} (result : Except Error First)
    (first : First → Second) (second : Second → Third) :
    (result.map first).map second = result.map fun value => second (first value) := by
  cases result <;> rfl

/-- Elements inserted into an empty array are the array of them. -/
theorem Collection.foldl_insert_array {Element : Type} (elements : List Element) :
    elements.foldl Collection.insert #[] = elements.toArray := by
  have pushed : elements.foldl Array.push #[] = #[] ++ elements.toArray :=
    List.foldl_push_eq_append'
  rwa [Array.empty_append] at pushed

namespace Cursor

/-- An advance reaches the row of the next step, or fails as the step does. -/
theorem advance_cons (step : Step) (rest : List Step) (current : Option Row) :
    advance ⟨step :: rest, current⟩ =
      match step.reached with
      | .ok row => (.ok true, ⟨rest, some row⟩)
      | .error error => (.error error, ⟨step.leaves rest, current⟩) := by
  cases step <;> rfl

/-- A step that reaches a row leaves all steps behind it. -/
theorem leaves_of_reached {step : Step} {row : Row} (reached : step.reached = .ok row)
    (rest : List Step) : step.leaves rest = rest := by
  cases step with
  | row values => rfl
  | unreadable error => rfl
  | failure error => exact nomatch reached

end Cursor

namespace ResultSource

section

variable {Source : Type} [ResultSource Source]

/-- The equation of `finish` without the reason why it ends. -/
theorem finish_eq (source : Source) :
    finish source =
      match advance source with
      | (.error error, after) => (.error error, after)
      | (.ok false, after) => (.ok (), after)
      | (.ok true, after) => finish after := by
  rw [finish]
  split
  next advanced => rw [advanced]
  next advanced => rw [advanced]
  next advanced => simp only [advanced]

variable {Result Container : Type} [Collection Container Result]

/-- The equation of `drain` without the reason why it ends. -/
theorem drain_eq (column : Nat) (reader : Reader Result) (container : Container)
    (source : Source) :
    drain column reader container source =
      match advance source with
      | (.error error, after) => (.error error, after)
      | (.ok false, after) => (.ok container, after)
      | (.ok true, after) =>
          match get after column reader with
          | .error error => (.error error, after)
          | .ok result => drain column reader (Collection.insert container result) after := by
  rw [drain]
  split
  next advanced => rw [advanced]
  next advanced => rw [advanced]
  next after advanced => cases answered : get after column reader <;> simp only [advanced, answered]

end

/-- The answer of an operation with the steps that are left. -/
def observed {Result : Type} (run : Except ExecutionError Result × Cursor) :
    Except ExecutionError Result × List Step :=
  (run.1, run.2.steps)

/-- A cursor as a source of rows advances as the cursor does. -/
theorem advance_cursor (cursor : Cursor) : advance cursor = cursor.advance := rfl

/-- A cursor is finished when every step reaches a row. -/
theorem finish_cursor (steps : List Step) (current : Option Row) :
    observed (finish (⟨steps, current⟩ : Cursor)) =
      ((steps.mapM Step.reached).map fun _ => (), untakenBy Step.reached steps) := by
  induction steps generalizing current with
  | nil =>
    rw [finish_eq]
    rfl
  | cons step rest hypothesis =>
    rw [finish_eq, advance_cursor, Cursor.advance_cons, untakenBy]
    cases reached : step.reached with
    | ok row =>
      rw [Except.mapM_cons_ok reached, hypothesis]
      cases rest.mapM Step.reached <;> rfl
    | error error =>
      rw [Except.mapM_cons_error reached]
      rfl

/-- Behind a step that reaches a row, the value of the step stands in the first column. -/
theorem get_cursor {type : ValueType} {step : Step} {row : Row}
    (reached : step.reached = .ok row) (rest : List Step) :
    get (⟨rest, some row⟩ : Cursor) 1 type.read = value type step := by
  rw [value, reached]
  rfl

/-- A column of a failed step fails as the step does. -/
theorem value_of_failed {type : ValueType} {step : Step} {error : ExecutionError}
    (failed : step.reached = .error error) : value type step = .error error := by
  rw [value, failed]
  rfl

/-- A drain reads the value of every step into the container. -/
theorem drain_cursor {type : ValueType} {Container : Type} [Collection Container type.Carrier]
    (steps : List Step) (container : Container) (current : Option Row) :
    observed (drain 1 type.read container (⟨steps, current⟩ : Cursor)) =
      ((steps.mapM (value type)).map fun values => values.foldl Collection.insert container,
        untakenBy (value type) steps) := by
  induction steps generalizing container current with
  | nil =>
    rw [drain_eq]
    rfl
  | cons step rest hypothesis =>
    rw [drain_eq, advance_cursor, Cursor.advance_cons, untakenBy]
    cases reached : step.reached with
    | ok row =>
      dsimp only
      rw [get_cursor reached rest]
      cases valued : value type step with
      | ok result =>
        rw [Except.mapM_cons_ok valued]
        dsimp only
        rw [hypothesis]
        cases rest.mapM (value type) <;> rfl
      | error error =>
        rw [Except.mapM_cons_error valued, Cursor.leaves_of_reached reached]
        rfl
    | error error =>
      -- The cursor fails before any column is read, and the value of the step fails alike.
      have valued : value type step = .error error := value_of_failed reached
      rw [Except.mapM_cons_error valued, valued]
      rfl

/-- The first value is that of the first step, and no further step is taken. -/
theorem first_cursor (type : ValueType) (steps : List Step) (current : Option Row) :
    observed (first (⟨steps, current⟩ : Cursor) 1 type.read) =
      match steps with
      | [] => (.error (.database .noRows), [])
      | step :: rest => (value type step, step.leaves rest) := by
  cases steps with
  | nil => rfl
  | cons step rest =>
    rw [first, advance_cursor, Cursor.advance_cons]
    cases reached : step.reached with
    | ok row =>
      dsimp only
      rw [get_cursor reached rest, Cursor.leaves_of_reached reached]
      rfl
    | error error =>
      dsimp only
      rw [value_of_failed reached]
      rfl

end ResultSource

namespace ResultSet

/-- The equation of `rowsOf` without the reason why it ends. -/
theorem rowsOf_eq (cursor : Cursor) :
    rowsOf cursor =
      match cursor.advance with
      | (.error error, after) => (.error error, after)
      | (.ok false, after) => (.ok [], after)
      | (.ok true, after) =>
          ((rowsOf after.takeCurrent.2).1.map (after.takeCurrent.1.toList ++ ·),
            (rowsOf after.takeCurrent.2).2) := by
  rw [rowsOf]
  split
  next advanced => rw [advanced]
  next advanced => rw [advanced]
  next advanced => simp only [advanced]

/-- The rows of a cursor are all that its steps come to, or the first failure among them. -/
theorem rowsOf_cursor (steps : List Step) (current : Option Row) :
    ResultSource.observed (rowsOf ⟨steps, current⟩) =
      (steps.mapM Step.reached, untakenBy Step.reached steps) := by
  induction steps generalizing current with
  | nil =>
    rw [rowsOf_eq]
    rfl
  | cons step rest hypothesis =>
    rw [rowsOf_eq, Cursor.advance_cons, untakenBy]
    cases reached : step.reached with
    | ok row =>
      obtain ⟨collected, left⟩ := Prod.mk.inj (hypothesis none)
      rw [Except.mapM_cons_ok reached]
      dsimp only [ResultSource.observed, Cursor.takeCurrent]
      rw [collected, left]
      rfl
    | error error =>
      rw [Except.mapM_cons_error reached]
      rfl

/-- A result set keeps the rows of all steps. -/
theorem collect_cursor (steps : List Step) (current : Option Row) :
    ResultSource.observed (collect ⟨steps, current⟩) =
      ((steps.mapM Step.reached).map ofRows, untakenBy Step.reached steps) := by
  obtain ⟨collected, left⟩ := Prod.mk.inj (rowsOf_cursor steps current)
  rw [← collected, ← left]
  rfl

end ResultSet

end DataAccess
