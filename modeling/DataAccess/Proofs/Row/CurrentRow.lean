/-
This file proves which row a cursor shows behind any operations, and when that row is stale. An
advance that fails keeps the row of the advance before it.
-/

import DataAccess.Row.CurrentRow
import DataAccess.Proofs.Row.ForwardReading

namespace DataAccess

namespace Cursor

open ResultSource (Operation perform Reads)

variable {steps : List Step} {advances : Nat} {cursor : Cursor}

/-- An advance that does not fail decides which row was reached last. -/
theorem isLastReached_succ_of_ok {found : Option Row} {row : Row}
    (came : outcomeOf steps advances = .ok found) :
    IsLastReached steps (advances + 1) row ↔ found = some row := by
  constructor
  · rintro ⟨earlier, before, reached, failing⟩
    obtain same | inside := Nat.eq_or_lt_of_le (Nat.le_of_lt_succ before)
    · rw [← same, reached] at came
      exact (Except.ok.inj came).symm
    · obtain ⟨error, failed⟩ := failing advances inside (Nat.lt_succ_self _)
      exact nomatch came.symm.trans failed
  · rintro rfl
    exact ⟨advances, Nat.lt_succ_self _, came, fun later behind within => by omega⟩

/-- An advance that fails does not change which row was reached last. -/
theorem isLastReached_succ_of_error {error : ExecutionError} {row : Row}
    (failed : outcomeOf steps advances = .error error) :
    IsLastReached steps (advances + 1) row ↔ IsLastReached steps advances row := by
  constructor
  · rintro ⟨earlier, before, reached, failing⟩
    obtain rfl | inside := Nat.eq_or_lt_of_le (Nat.le_of_lt_succ before)
    · exact nomatch reached.symm.trans failed
    · exact ⟨earlier, inside, reached, fun later behind within => failing later behind (by omega)⟩
  · rintro ⟨earlier, before, reached, failing⟩
    refine ⟨earlier, by omega, reached, fun later behind within => ?_⟩
    obtain rfl | inside := Nat.eq_or_lt_of_le (Nat.le_of_lt_succ within)
    · exact ⟨error, failed⟩
    · exact failing later behind inside

/-- A cursor behind so many advances: it comes to the outcomes that are left, and shows the row that
was reached last. -/
structure StandsBehind (steps : List Step) (advances : Nat) (cursor : Cursor) : Prop where
  left : Step.outcomes cursor.steps = (Step.outcomes steps).drop advances
  shown : ∀ row, cursor.current? = some row ↔ IsLastReached steps advances row

theorem standsBehind_ofSteps (steps : List Step) : StandsBehind steps 0 (ofSteps steps) where
  left := rfl
  shown row := by
    constructor
    · exact fun absent => nomatch absent
    · rintro ⟨earlier, before, _⟩
      exact absurd before (Nat.not_lt_zero earlier)

/-- What the next advance comes to is the first of the outcomes that are left. -/
theorem StandsBehind.outcome (stands : StandsBehind steps advances cursor) :
    outcomeOf steps advances =
      (Step.outcomes cursor.steps).head?.elim (.ok none) (Except.map some) := by
  rw [stands.left, List.head?_drop, outcomeOf]

/-- One advance: it answers whether it reaches a row, and leaves the cursor behind one more. -/
theorem StandsBehind.advance (stands : StandsBehind steps advances cursor) :
    cursor.advance.1 = (outcomeOf steps advances).map Option.isSome ∧
      StandsBehind steps (advances + 1) cursor.advance.2 := by
  have came := stands.outcome
  have left := congrArg List.tail stands.left
  rw [List.tail_drop] at left
  have shown := stands.shown
  rw [came]
  obtain ⟨_ | ⟨step, rest⟩, current⟩ := cursor
  · refine ⟨rfl, left, fun row => ?_⟩
    rw [isLastReached_succ_of_ok came]
    rfl
  · cases step with
    | row values =>
      refine ⟨rfl, left, fun row => ?_⟩
      rw [isLastReached_succ_of_ok came]
      rfl
    | unreadable error =>
      refine ⟨rfl, left, fun row => ?_⟩
      rw [isLastReached_succ_of_error came]
      exact shown row
    | failure error =>
      refine ⟨rfl, left, fun row => ?_⟩
      rw [isLastReached_succ_of_error came]
      exact shown row

/-- One operation: only an advance leads anywhere. -/
theorem StandsBehind.perform (stands : StandsBehind steps advances cursor)
    (operation : Operation) :
    StandsBehind steps (advances + if operation.isAdvance then 1 else 0)
      (perform cursor operation).2 := by
  cases operation with
  | advance => exact stands.advance.2
  | current => exact stands
  | get column reader => exact stands

/-- Any operations: only their advances count. -/
theorem StandsBehind.run (stands : StandsBehind steps advances cursor)
    (operations : List Operation) :
    StandsBehind steps (advances + operations.countP Operation.isAdvance)
      (Run.final ResultSource.perform cursor operations) := by
  induction operations generalizing cursor advances with
  | nil => exact stands
  | cons operation rest hypothesis =>
    have behind := hypothesis (stands.perform operation)
    rw [Run.final, List.countP_cons, Nat.add_comm (rest.countP _), ← Nat.add_assoc]
    exact behind

/-- The row that is shown is that of the most recent advance, unless it is stale. -/
theorem StandsBehind.current_eq_iff (stands : StandsBehind steps advances cursor) :
    cursor.current? = mostRecent? steps advances ↔ ¬ IsStale steps advances := by
  have shown := stands.shown
  cases advances with
  | zero =>
    refine iff_of_true ?_ ?_
    · rw [mostRecent?, Option.eq_none_iff_forall_ne_some]
      rintro row present
      obtain ⟨earlier, before, _⟩ := (shown row).mp present
      exact Nat.not_lt_zero earlier before
    · rintro ⟨earlier, _, _, same, _⟩
      exact Nat.succ_ne_zero earlier same.symm
  | succ advances =>
    rw [mostRecent?]
    cases came : outcomeOf steps advances with
    | ok found =>
      refine iff_of_true ?_ ?_
      · ext row
        rw [shown, isLastReached_succ_of_ok came]
        rfl
      · rintro ⟨earlier, error, _, same, failed, _⟩
        obtain rfl := Nat.succ.inj same
        cases came.symm.trans failed
    | error error =>
      have kept (row : Row) : cursor.current? = some row ↔ IsLastReached steps advances row :=
        (shown row).trans (isLastReached_succ_of_error came)
      constructor
      · rintro absent ⟨earlier, _, row, same, _, reached⟩
        obtain rfl := Nat.succ.inj same
        cases absent.symm.trans ((kept row).mpr reached)
      · intro fresh
        refine Option.eq_none_iff_forall_ne_some.mpr fun row present => fresh ?_
        exact ⟨advances, error, row, rfl, came, (kept row).mp present⟩

/-- Where the most recent advance reached no row, there is none to read, unless one is stale. -/
theorem StandsBehind.get_eq_noRow_iff (stands : StandsBehind steps advances cursor)
    (unreached : mostRecent? steps advances = none) {Result : Type} (column : Nat)
    (reader : Reader Result) :
    ResultSource.get cursor column reader = .error .noRow ↔ ¬ IsStale steps advances := by
  rw [← stands.current_eq_iff, unreached]
  exact (ResultSource.reads_get cursor column reader).noRow

/-- A cursor shows the row of the last advance that did not fail, if that advance reached a row. So
the row is that of the most recent advance, and there is none and nothing to read where that advance
reached no row, exactly if the row is not stale: if the advance did not fail behind one that had
reached a row. -/
theorem shows_last_reached_row (steps : List Step) (operations : List Operation) :
    let cursor := Run.final perform (ofSteps steps) operations
    let advances := operations.countP Operation.isAdvance
    (∀ row, cursor.current? = some row ↔ IsLastReached steps advances row) ∧
      (cursor.current? = mostRecent? steps advances ↔ ¬ IsStale steps advances) ∧
      (mostRecent? steps advances = none → ∀ {Result : Type} (column : Nat)
        (reader : Reader Result),
          ResultSource.get cursor column reader = .error .noRow ↔ ¬ IsStale steps advances) ∧
      cursor.advance.1 = (outcomeOf steps advances).map Option.isSome := by
  intro cursor advances
  have stands : StandsBehind steps advances cursor := by
    have run := (standsBehind_ofSteps steps).run operations
    rwa [Nat.zero_add] at run
  exact ⟨stands.shown, stands.current_eq_iff,
    fun unreached _ column reader => stands.get_eq_noRow_iff unreached column reader,
    stands.advance.1⟩

/-- A row that cannot be copied, or the end of a failing execution, leaves the row before it to be
read, also when it is followed by another failure. -/
theorem shows_last_reached_row_of_overflow :
    let overflow := ExecutionError.database .integerOverflow
    let steps : List Step :=
      [.row [.integer 7], .unreadable (.malformedText 1 1), .failure overflow]
    let operations : List Operation := [.advance, .get 1 Reader.long, .advance, .advance]
    let cursor := Run.final perform (ofSteps steps) operations
    mostRecent? steps 3 = none ∧ IsStale steps 3 ∧ cursor.current? = some [.integer 7] ∧
      ResultSource.get cursor 1 Reader.long ≠ .error .noRow := by
  intro overflow steps operations cursor
  have shows := shows_last_reached_row steps operations
  have reached : IsLastReached steps 3 [.integer 7] := (shows.1 _).mp rfl
  have stale : IsStale steps 3 := by
    refine ⟨2, overflow, [.integer 7], rfl, rfl, ?_⟩
    exact (isLastReached_succ_of_error rfl).mp reached
  exact ⟨rfl, stale, rfl, fun absent => (shows.2.2.1 rfl 1 Reader.long).mp absent stale⟩

end Cursor

end DataAccess
