/-
This file proves that a result set leads through its rows in order: behind any operations it stands
where the number of its advances says, and it answers accordingly.
-/

import DataAccess.Row.ForwardReading

namespace DataAccess

namespace Run

variable {State : Type} {Request : Type 1} {Answer : Request → Type}
  (serve : State → (request : Request) → Answer request × State)

/-- A request is answered in the state that the requests before it left. -/
theorem answers_getElem? (state : State) (requests : List Request) (index : Nat) :
    (answers serve state requests)[index]? = requests[index]?.map fun request =>
      ⟨request, (serve (final serve state (requests.take index)) request).1⟩ := by
  induction requests generalizing state index with
  | nil => rfl
  | cons request rest hypothesis =>
    cases index with
    | zero => rfl
    | succ index => exact hypothesis (serve state request).2 index

/-- Every request is answered, in their order. -/
theorem map_fst_answers (state : State) (requests : List Request) :
    (answers serve state requests).map Sigma.fst = requests := by
  induction requests generalizing state with
  | nil => rfl
  | cons request rest hypothesis => rw [answers, List.map_cons, hypothesis]

end Run

namespace ResultSource

variable {Source : Type} [ResultSource Source] {Result : Type} {column : Nat}
  {reader : Reader Result}

/-- A column outside of a row is refused with its number and the number of columns. -/
theorem readColumn_outside {row : Row} (outside : column = 0 ∨ row.length < column) :
    readColumn row column reader = .error (.columnOutOfRange column row.length) := by
  cases column with
  | zero => rfl
  | succ index =>
    have missing : row[index]? = none := List.getElem?_eq_none (by omega)
    rw [readColumn, missing]

/-- A column whose value the reader accepts is read as the reader says. -/
theorem readColumn_of_ok {row : Row} {value : Value} {result : Result} (positive : 1 ≤ column)
    (found : row[column - 1]? = some value) (read : reader value = .ok result) :
    readColumn row column reader = .ok result := by
  obtain ⟨index, rfl⟩ : ∃ index, column = index + 1 := ⟨column - 1, by omega⟩
  rw [Nat.add_sub_cancel] at found
  simp only [readColumn, found, read]

/-- A column whose value the reader refuses fails with the reader's problem. -/
theorem readColumn_of_error {row : Row} {value : Value} {problem : FieldProblem}
    (positive : 1 ≤ column) (found : row[column - 1]? = some value)
    (read : reader value = .error problem) :
    readColumn row column reader = .error (.extraction column problem) := by
  obtain ⟨index, rfl⟩ : ∃ index, column = index + 1 := ⟨column - 1, by omega⟩
  rw [Nat.add_sub_cancel] at found
  simp only [readColumn, found, read]

/-- A column is outside of a row or holds a value of it. -/
theorem outside_or_inside (row : Row) (column : Nat) :
    (column = 0 ∨ row.length < column) ∨
      1 ≤ column ∧ column ≤ row.length ∧ ∃ value, row[column - 1]? = some value := by
  by_cases outside : column = 0 ∨ row.length < column
  · exact .inl outside
  · have inside : column - 1 < row.length := by omega
    exact .inr ⟨by omega, by omega, _, List.getElem?_eq_getElem inside⟩

/-- What is said of a read holds of a column outside of the row. -/
theorem reads_outside {row : Row} (outside : column = 0 ∨ row.length < column) :
    Reads (some row) column reader (.error (.columnOutOfRange column row.length)) := by
  have missing (positive : 1 ≤ column) : row[column - 1]? = none :=
    List.getElem?_eq_none (by omega)
  constructor
  case noRow => simp
  case outOfRange => simp [outside]
  case converted => simp +contextual [missing]
  case unconverted => simp +contextual [missing]

/-- What is said of a read holds of a column inside of the row. -/
theorem reads_inside {row : Row} {value : Value} (positive : 1 ≤ column)
    (within : column ≤ row.length) (found : row[column - 1]? = some value) :
    Reads (some row) column reader (readColumn row column reader) := by
  have inside : ¬ (column = 0 ∨ row.length < column) := by omega
  cases read : reader value with
  | ok result =>
    rw [readColumn_of_ok positive found read]
    constructor <;> simp [inside, positive, found, read]
  | error problem =>
    rw [readColumn_of_error positive found read]
    constructor <;> simp [inside, positive, found, read]

/-- Every accessor reads the current row. -/
theorem reads_get (source : Source) (column : Nat) (reader : Reader Result) :
    Reads (current? source) column reader (get source column reader) := by
  rw [get]
  cases current? source with
  | none => constructor <;> simp
  | some row =>
    dsimp only
    obtain outside | ⟨positive, within, value, found⟩ := outside_or_inside row column
    · rw [readColumn_outside outside]
      exact reads_outside outside
    · exact reads_inside positive within found

end ResultSource

namespace ResultSet

variable {rows : List Row} {advances : Nat}

/-- The result set of the rows behind so many advances. -/
def behind (rows : List Row) (advances : Nat) : ResultSet :=
  ⟨rows.drop advances, rowAfter rows advances⟩

/-- Before the first advance a result set stands in front of all of its rows. -/
theorem behind_zero (rows : List Row) : behind rows 0 = ofRows rows := rfl

/-- The current row behind an advance is the row that the advance comes to. -/
theorem rowAfter_succ (rows : List Row) (advances : Nat) :
    rowAfter rows (advances + 1) = rows[advances]? := by
  rw [rowAfter, Nat.add_sub_cancel]
  split
  next => rfl
  next outside => rw [List.getElem?_eq_none (by omega)]

/-- An advance goes on by one row, and says whether there was one. -/
theorem advance_behind (rows : List Row) (advances : Nat) :
    (behind rows advances).advance =
      (decide (advances + 1 ≤ rows.length), behind rows (advances + 1)) := by
  rw [behind, behind, rowAfter_succ]
  by_cases within : advances < rows.length
  · rw [List.drop_eq_getElem_cons within, List.getElem?_eq_getElem within,
      decide_eq_true (Nat.succ_le_of_lt within)]
    rfl
  · rw [List.drop_eq_nil_of_le (by omega), List.drop_eq_nil_of_le (by omega),
      List.getElem?_eq_none (by omega), decide_eq_false (by omega)]
    rfl

/-- The rows that remain are those that no advance has come to yet. -/
theorem remaining_behind (rows : List Row) (advances : Nat) :
    (behind rows advances).remaining = rows.length - min advances rows.length := by
  rw [remaining, behind, List.length_drop]
  omega

/-- One operation: an advance leads to the next row, and nothing else leads anywhere. -/
theorem perform_behind (rows : List Row) (advances : Nat) (operation : Operation) :
    Answers rows advances operation (perform (behind rows advances) operation).1 ∧
      (perform (behind rows advances) operation).2 =
        behind rows (advances + if operation.isAdvance then 1 else 0) := by
  cases operation with
  | ofSource operation =>
    cases operation with
    | advance =>
      have advanced := advance_behind rows advances
      constructor
      · exact congrArg (fun step => Except.ok step.1) advanced
      · exact congrArg Prod.snd advanced
    | current => exact ⟨rfl, rfl⟩
    | get column reader => exact ⟨ResultSource.reads_get (behind rows advances) column reader, rfl⟩
  | remaining => exact ⟨remaining_behind rows advances, rfl⟩

/-- Any operations: only their advances count. -/
theorem final_behind (rows : List Row) (advances : Nat) (operations : List Operation) :
    Run.final perform (behind rows advances) operations =
      behind rows (advances + operations.countP Operation.isAdvance) := by
  induction operations generalizing advances with
  | nil => rfl
  | cons operation rest hypothesis =>
    rw [Run.final, (perform_behind rows advances operation).2, hypothesis, List.countP_cons]
    congr 1
    omega

/-- A run of operations ends behind as many rows as the run has advances. -/
theorem final_ofRows (rows : List Row) (operations : List Operation) :
    Run.final perform (ofRows rows) operations =
      behind rows (operations.countP Operation.isAdvance) := by
  rw [← behind_zero, final_behind, Nat.zero_add]

/-- An operation that only reads leaves the result set as it is. -/
theorem perform_of_isAdvance_eq_false {operation : Operation}
    (reading : operation.isAdvance = false) (set : ResultSet) :
    (perform set operation).2 = set := by
  cases operation with
  | ofSource operation =>
    cases operation with
    | advance => exact nomatch reading
    | current => rfl
    | get column reader => rfl
  | remaining => rfl

/-- A result set is a forward cursor. Behind any sequence of operations its current row and the
number of its remaining rows are those of as many advances as were among them; every operation of
the sequence is answered by the advances before it; and nothing but an advance changes the state. -/
theorem forward_cursor (rows : List Row) (operations : List Operation) :
    (let set := Run.final perform (ofRows rows) operations
      let advances := operations.countP Operation.isAdvance
      set.current? = rowAfter rows advances ∧
        set.remaining = rows.length - min advances rows.length ∧
        ∀ operation : Operation, operation.isAdvance = false →
          (perform set operation).2 = set) ∧
    ∀ index operation, operations[index]? = some operation →
      ∃ answer, (Run.answers perform (ofRows rows) operations)[index]? = some ⟨operation, answer⟩ ∧
        Answers rows ((operations.take index).countP Operation.isAdvance) operation answer := by
  constructor
  · dsimp only
    rw [final_ofRows]
    exact ⟨rfl, remaining_behind rows _, fun _ reading => perform_of_isAdvance_eq_false reading _⟩
  · intro index operation asked
    refine ⟨_, ?_, (perform_behind rows _ operation).1⟩
    rw [Run.answers_getElem?, asked, final_ofRows]
    rfl

/-- The second of two rows is wider than the first, and its second column is read as a text. -/
theorem forward_cursor_of_ragged_rows :
    let rows : List Row := [[.integer 7], [.null, .text "x"]]
    let operations : List Operation :=
      [.ofSource .advance, .remaining, .ofSource .advance, .ofSource (.get 2 Reader.string)]
    operations[3]? = some (.ofSource (.get 2 Reader.string)) ∧
      ∃ answer, (Run.answers perform (ofRows rows) operations)[3]? =
          some ⟨.ofSource (.get 2 Reader.string), answer⟩ ∧
        ResultSource.Reads (some [.null, .text "x"]) 2 Reader.string answer := by
  intro rows operations
  refine ⟨rfl, ?_⟩
  obtain ⟨answer, given, reads⟩ := (forward_cursor rows operations).2 3 _ rfl
  exact ⟨answer, given, reads⟩

end ResultSet

end DataAccess
