/-
This file proves that a list of a column is whole or none, and where the drains leave a result set.
-/

import DataAccess.Proofs.Row.Draining
import DataAccess.Proofs.Row.ForwardReading
import DataAccess.Row.Listing

namespace DataAccess

section

variable {Error Source Result : Type} {convert : Source → Except Error Result}

/-- A list is converted when each of its elements is. -/
theorem Except.mapM_eq_ok_iff {elements : List Source} {results : List Result} :
    elements.mapM convert = .ok results ↔
      List.Forall₂ (fun element result => convert element = .ok result) elements results := by
  induction elements generalizing results with
  | nil =>
    rw [mapM_nil, List.forall₂_nil_left_iff, Except.ok.injEq, eq_comm]
  | cons first rest hypothesis =>
    rw [List.forall₂_cons_left_iff]
    cases converted : convert first with
    | error error =>
      rw [mapM_cons_error converted]
      simp
    | ok result =>
      rw [mapM_cons_ok converted]
      cases others : rest.mapM convert with
      | error error =>
        have never : ∀ {values}, ¬ List.Forall₂ (fun element result => convert element = .ok result)
            rest values := fun {values} all => by
          rw [← hypothesis, others] at all
          exact nomatch all
        simp [Except.map, never]
      | ok values =>
        have same : ∀ {other}, List.Forall₂ (fun element result => convert element = .ok result)
            rest other ↔ values = other := fun {other} => by
          rw [← hypothesis, others, Except.ok.injEq]
        simp [Except.map, same, eq_comm]

/-- A list is not converted because of its first element that is not. -/
theorem Except.mapM_eq_error {elements : List Source} {error : Error}
    (failed : elements.mapM convert = .error error) :
    ∃ before failing behind, elements = before ++ failing :: behind ∧
      (∀ element ∈ before, ∃ result, convert element = .ok result) ∧
      convert failing = .error error := by
  induction elements with
  | nil => exact nomatch failed
  | cons first rest hypothesis =>
    cases converted : convert first with
    | error problem =>
      rw [mapM_cons_error converted] at failed
      obtain rfl := Except.error.inj failed
      exact ⟨[], first, rest, rfl, List.forall_mem_nil _, converted⟩
    | ok result =>
      rw [mapM_cons_ok converted] at failed
      have later : rest.mapM convert = .error error := by
        cases others : rest.mapM convert with
        | error problem =>
          rw [others] at failed
          exact failed
        | ok results =>
          rw [others] at failed
          exact nomatch failed
      obtain ⟨before, failing, behind, rfl, passed, fails⟩ := hypothesis later
      refine ⟨first :: before, failing, behind, rfl, fun element member => ?_, fails⟩
      rcases List.mem_cons.mp member with rfl | among
      · exact ⟨result, converted⟩
      · exact passed element among

end

namespace ResultSource

variable {Result : Type} {column : Nat} {reader : Reader Result}

/-- A column of a row is read in one way. -/
theorem reads_iff {row : Row} {answer : Except ExecutionError Result} :
    Reads (some row) column reader answer ↔ readColumn row column reader = answer := by
  have actual : Reads (some row) column reader (readColumn row column reader) :=
    reads_get (⟨[], some row⟩ : ResultSet) column reader
  constructor
  · intro reads
    obtain outside | ⟨positive, within, value, found⟩ := outside_or_inside row column
    · rw [readColumn_outside outside]
      exact ((reads.outOfRange _).mpr ⟨row, rfl, rfl, outside⟩).symm
    · cases read : reader value with
      | ok result =>
        rw [readColumn_of_ok positive found read]
        exact ((reads.converted result).mpr ⟨row, value, rfl, positive, found, read⟩).symm
      | error problem =>
        rw [readColumn_of_error positive found read]
        exact ((reads.unconverted problem).mpr ⟨row, value, rfl, positive, found, read⟩).symm
  · rintro rfl
    exact actual

end ResultSource

namespace ResultSet

open ResultSource

variable {Result Container : Type} {column : Nat} {reader : Reader Result}

/-- The value of a row in the column. -/
def value (column : Nat) (reader : Reader Result) (row : Row) : Except ExecutionError Result :=
  readColumn row column reader

/-- A result set whose rows have been read up to the first row that has no value in the column. -/
def drained (column : Nat) (reader : Reader Result) : List Row → ResultSet
  | [] => ⟨[], none⟩
  | row :: rest =>
      match value column reader row with
      | .ok _ => drained column reader rest
      | .error _ => ⟨rest, some row⟩

/-- An advance takes the first pending row as the current one. -/
theorem advance_cons (row : Row) (rest : List Row) (current : Option Row) :
    ResultSource.advance (⟨row :: rest, current⟩ : ResultSet) = (.ok true, ⟨rest, some row⟩) :=
  rfl

/-- An advance without pending rows leaves no current row. -/
theorem advance_nil (current : Option Row) :
    ResultSource.advance (⟨[], current⟩ : ResultSet) = (.ok false, ⟨[], none⟩) :=
  rfl

/-- A column of the current row is the column of that row. -/
theorem get_current (rest : List Row) (row : Row) (column : Nat) (reader : Reader Result) :
    get (⟨rest, some row⟩ : ResultSet) column reader = value column reader row :=
  rfl

/-- A row is readable where its column has a value. -/
theorem isReadable_iff {row : Row} :
    IsReadable column reader row ↔ ∃ result, value column reader row = .ok result := by
  simp only [IsReadable, reads_iff, value]

/-- A drain inserts the values of all rows, or stops at the first row that has none. -/
theorem drain_pending [Collection Container Result] (pending : List Row) (current : Option Row)
    (container : Container) :
    drain column reader container (⟨pending, current⟩ : ResultSet) =
      ((pending.mapM (value column reader)).map fun values =>
          values.foldl Collection.insert container,
        drained column reader pending) := by
  induction pending generalizing container current with
  | nil =>
    rw [drain_eq, advance_nil]
    rfl
  | cons row rest hypothesis =>
    rw [drain_eq, advance_cons, drained]
    dsimp only
    rw [get_current]
    cases read : value column reader row with
    | error error =>
      rw [Except.mapM_cons_error read]
      rfl
    | ok result =>
      rw [Except.mapM_cons_ok read]
      dsimp only
      rw [hypothesis]
      cases rest.mapM (value column reader) <;> rfl

/-- A list holds what the pending rows hold. -/
theorem toList_eq (set : ResultSet) (column : Nat) (reader : Reader Result) :
    toList set column reader =
      ((set.pending.mapM (value column reader)).map List.toArray,
        drained column reader set.pending) := by
  rw [toList, drain_pending]
  simp only [Collection.foldl_insert_array]

/-- Where all rows have a value, none is left. -/
theorem drained_of_ok {pending : List Row} {results : List Result}
    (read : pending.mapM (value column reader) = .ok results) :
    drained column reader pending = ⟨[], none⟩ := by
  rw [Except.mapM_eq_ok_iff] at read
  induction read with
  | nil => rfl
  | cons first _ hypothesis => rw [drained, first, hypothesis]

/-- A drain stands on the first row without a value. -/
theorem drained_of_failing {before behind : List Row} {failing : Row} {error : ExecutionError}
    (passed : ∀ row ∈ before, ∃ result, value column reader row = .ok result)
    (fails : value column reader failing = .error error) :
    drained column reader (before ++ failing :: behind) = ⟨behind, some failing⟩ := by
  induction before with
  | nil => rw [List.nil_append, drained, fails]
  | cons row rest hypothesis =>
    obtain ⟨result, read⟩ := passed row List.mem_cons_self
    rw [List.cons_append, drained, read]
    exact hypothesis fun other member => passed other (List.mem_cons_of_mem row member)

/-- A list is made of the values of all rows or of none. -/
theorem lists_toList (set : ResultSet) (column : Nat) (reader : Reader Result) :
    Lists set.pending column reader (toList set column reader).1
      (toList set column reader).2 := by
  rw [toList_eq]
  cases read : set.pending.mapM (value column reader) with
  | ok results =>
    have all := Except.mapM_eq_ok_iff.mp read
    constructor
    case whole =>
      refine ⟨fun _ row member => ?_, fun _ => ⟨results.toArray, rfl⟩⟩
      obtain ⟨index, inside, rfl⟩ := List.mem_iff_getElem.mp member
      exact isReadable_iff.mpr ⟨_, all.get inside (all.length_eq ▸ inside)⟩
    case values =>
      intro values answered
      obtain rfl := Except.ok.inj answered
      rw [drained_of_ok read]
      exact ⟨all.imp fun row result found => reads_iff.mpr found, rfl, rfl, rfl⟩
    case failure => exact fun error answered => nomatch answered
  | error error =>
    obtain ⟨before, failing, behind, split, passed, fails⟩ := Except.mapM_eq_error read
    constructor
    case whole =>
      refine ⟨fun ⟨_, answered⟩ => (nomatch answered), fun all => ?_⟩
      obtain ⟨result, succeeds⟩ := isReadable_iff.mp (all failing (by simp [split]))
      rw [fails] at succeeds
      exact nomatch succeeds
    case values => exact fun values answered => nomatch answered
    case failure =>
      intro other answered
      obtain rfl := Except.error.inj answered
      rw [split, drained_of_failing passed fails]
      exact ⟨before, failing, behind, rfl, fun row member => isReadable_iff.mpr (passed row member),
        reads_iff.mpr fails, rfl, rfl, rfl⟩

/-- The first of the rows comes in front of a list of the others. -/
theorem toList_cons {row : Row} {result : Result} (read : value column reader row = .ok result)
    (rest : List Row) (current after : Option Row) :
    toList (⟨row :: rest, current⟩ : ResultSet) column reader =
      ((toList (⟨rest, after⟩ : ResultSet) column reader).1.map (#[result] ++ ·),
        (toList (⟨rest, after⟩ : ResultSet) column reader).2) := by
  rw [toList_eq, toList_eq, Except.mapM_cons_ok read, drained, read]
  dsimp only
  rw [Except.map_map, Except.map_map]
  cases rest.mapM (value column reader) with
  | error error => rfl
  | ok results => simp [Except.map]

/-- A row that is read in front of the others is the first of the list. -/
theorem toListBehind_cons {row : Row} {result : Result}
    (read : value column reader row = .ok result) (count : Nat) (rest : List Row)
    (current : Option Row) :
    toListBehind (count + 1) (⟨row :: rest, current⟩ : ResultSet) column reader =
      ((toListBehind count (⟨rest, some row⟩ : ResultSet) column reader).1.map (#[result] ++ ·),
        (toListBehind count (⟨rest, some row⟩ : ResultSet) column reader).2) := by
  rw [toListBehind, toListBehind, readRows, advance_cons]
  dsimp only
  rw [get_current, read]
  dsimp only
  cases readRows column reader count (⟨rest, some row⟩ : ResultSet) with
  | mk results left =>
    cases results with
    | error error => rfl
    | ok results =>
      have joined (others : Array Result) :
          (result :: results).toArray ++ others = #[result] ++ (results.toArray ++ others) := by
        rw [List.toArray_cons, Array.append_assoc]
      dsimp only [Except.map]
      cases toList left column reader with
      | mk others final =>
        cases others with
        | error error => rfl
        | ok others => exact congrArg (fun values => (Except.ok values, final)) (joined others)

/-- Rows that are read one by one are as good as rows that are read together. -/
theorem toListBehind_eq (count : Nat) (set : ResultSet) (column : Nat) (reader : Reader Result) :
    toListBehind count set column reader = toList set column reader := by
  induction count generalizing set with
  | zero =>
    rw [toListBehind, readRows]
    dsimp only
    cases toList set column reader with
    | mk answer left => cases answer <;> simp [Except.map]
  | succ count hypothesis =>
    obtain ⟨_ | ⟨row, rest⟩, current⟩ := set
    · simp only [toListBehind, readRows, advance_nil, toList_eq]
      rfl
    · cases read : value column reader row with
      | ok result =>
        rw [toListBehind_cons read, hypothesis, toList_cons read rest current (some row)]
      | error error =>
        rw [toListBehind, readRows, advance_cons, toList_eq, Except.mapM_cons_error read, drained]
        dsimp only
        rw [get_current, read]
        rfl

/-- A finished result set has no rows. -/
theorem finish_pending (pending : List Row) (current : Option Row) :
    finish (⟨pending, current⟩ : ResultSet) = (.ok (), ⟨[], none⟩) := by
  induction pending generalizing current with
  | nil => rw [finish_eq, advance_nil]
  | cons row rest hypothesis =>
    rw [finish_eq, advance_cons]
    exact hypothesis (some row)

/-- Lists are whole or none, wherever a result set stands and whichever column is read: the list has
a value of each pending row, or the first row without one is the answer and stays current. Rows that
were read one by one before make no difference. A single value takes one row, whatever is behind it,
and a result set is always finished. -/
theorem lists_are_whole (set : ResultSet) (column : Nat) (reader : Reader Result) :
    Lists set.pending column reader (toList set column reader).1 (toList set column reader).2 ∧
    (∀ count, toListBehind count set column reader = toList set column reader) ∧
    (∀ row rest, set.pending = row :: rest →
      Reads (some row) column reader (first set column reader).1 ∧
        (first set column reader).2 = ⟨rest, some row⟩) ∧
    (set.pending = [] → first set column reader = (.error (.database .noRows), ⟨[], none⟩)) ∧
    finish set = (.ok (), ⟨[], none⟩) := by
  refine ⟨lists_toList set column reader, fun count => toListBehind_eq count set column reader, ?_,
    ?_, finish_pending set.pending set.current?⟩
  · obtain ⟨pending, current⟩ := set
    rintro row rest rfl
    rw [first, advance_cons]
    exact ⟨reads_iff.mpr rfl, rfl⟩
  · obtain ⟨pending, current⟩ := set
    rintro rfl
    rw [first, advance_nil]

/-- The second of three rows is narrower than the others. The first row can be read alone, and the
list of the rows behind it stops at the second. -/
theorem lists_are_whole_of_narrow_row :
    let set := ofRows [[.null, .integer 7], [.integer 8], [.null, .integer 9]]
    let behind : ResultSet := ⟨[[.integer 8], [.null, .integer 9]], some [.null, .integer 7]⟩
    Reads (some [.null, .integer 7]) 2 Reader.long (first set 2 Reader.long).1 ∧
      (first set 2 Reader.long).2 = behind ∧
      (toList behind 2 Reader.long).1 = .error (.columnOutOfRange 2 1) ∧
      ∃ before failing rest, behind.pending = before ++ failing :: rest ∧
        (∀ row ∈ before, IsReadable 2 Reader.long row) ∧
        (toList behind 2 Reader.long).2.current? = some failing ∧
        (toList behind 2 Reader.long).2.remaining = rest.length := by
  intro set behind
  obtain ⟨read, taken⟩ := (lists_are_whole set 2 Reader.long).2.2.1 _ _ rfl
  have failed : (toList behind 2 Reader.long).1 = .error (.columnOutOfRange 2 1) := by
    rw [toList_eq]
    rfl
  obtain ⟨before, failing, rest, split, passed, _, current, _, remaining⟩ :=
    (lists_are_whole behind 2 Reader.long).1.failure _ failed
  exact ⟨read, taken, failed, before, failing, rest, split, passed, current, remaining⟩

end ResultSet

end DataAccess
