/-
This file shows that each part of a written date or time is scanned as the part that was written.
A number is scanned up to its width or to the first character behind it that is no digit.
-/

import DataAccess.Calendar.DateTime
import DataAccess.Calendar.Scan
import DataAccess.Proofs.Text.Decimal

namespace DataAccess.Scan

open Text.Decimal

/-- What follows a number does not continue it. -/
def EndsNumber (rest : List Char) : Prop :=
  ∀ character ∈ rest.head?, character.isDigit = false

/-- A number ends where the text does. -/
theorem endsNumber_nil : EndsNumber [] := by
  simp [EndsNumber]

/-- A number ends in front of a character that is no digit. -/
theorem endsNumber_cons {character : Char} (rest : List Char)
    (noDigit : character.isDigit = false) : EndsNumber (character :: rest) := by
  simpa [EndsNumber] using noDigit

/-- A scan goes on with what the scan before it left. -/
theorem bind_apply {First Second : Type} {scan : Scan First} {next : First → Scan Second}
    {text rest : List Char} {part : First} (scanned : scan text = .ok (part, rest)) :
    (scan >>= next) text = next part rest := by
  change (scan text >>= fun found => next found.1 found.2) = next part rest
  rw [scanned]
  rfl

/-- A scan that leaves nothing is complete. -/
theorem complete_eq_ok {Part : Type} {scan : Scan Part} {text : List Char} {part : Part}
    (scanned : scan text = .ok (part, [])) : complete scan text = .ok part := by
  rw [complete, scanned]

/-- An expected character is read. -/
theorem literal_apply (expected : Char) (rest : List Char) :
    literal expected (expected :: rest) = .ok ((), rest) := by
  simp [literal]

/-- There is nothing blank in front of a character that is not white space. -/
theorem blanks_apply {text : List Char}
    (solid : ∀ character ∈ text.head?, Text.isWhitespace character = false) :
    blanks text = .ok ((), text) := by
  cases text with
  | nil => rfl
  | cons first rest =>
      have visible := solid first (by simp)
      simp [blanks, visible]

/-- No digit is white space. -/
theorem isWhitespace_of_isDigit {character : Char} (digit : character.isDigit = true) :
    Text.isWhitespace character = false := by
  simp only [Char.isDigit, Bool.and_eq_true, decide_eq_true_eq, ge_iff_le, UInt32.le_iff_toNat_le]
    at digit
  simp only [Text.isWhitespace, Bool.or_eq_false_iff, Bool.and_eq_false_iff, beq_eq_false_iff_ne,
    decide_eq_false_iff_not, Char.toNat]
  have lower : 48 ≤ character.val.toNat := digit.1
  have upper : character.val.toNat ≤ 57 := digit.2
  omega

/-- What stands behind digits is left over when it does not continue them. -/
theorem takeWhile_isDigit_append {digits rest : List Char}
    (allDigits : ∀ character ∈ digits, character.isDigit = true) (ends : EndsNumber rest) :
    (digits ++ rest).takeWhile Char.isDigit = digits := by
  rw [List.takeWhile_append_of_pos allDigits]
  cases rest with
  | nil => simp
  | cons first others =>
      have noDigit := ends first (by simp)
      simp [noDigit]

/-- A number is scanned when it has its full width or nothing continues it. -/
theorem numeral_apply {most : Nat} {digits rest : List Char} (present : digits ≠ [])
    (allDigits : ∀ character ∈ digits, character.isDigit = true)
    (short : digits.length ≤ most) (ends : digits.length = most ∨ EndsNumber rest) :
    numeral most (digits ++ rest) = .ok (valueOf digits, rest) := by
  have found : ((digits ++ rest).take most).takeWhile Char.isDigit = digits := by
    rw [List.take_append, List.take_of_length_le short]
    apply takeWhile_isDigit_append allDigits
    rcases ends with full | ends
    · rw [full, Nat.sub_self, List.take_zero]
      exact endsNumber_nil
    · intro character member
      refine ends character ?_
      rw [List.head?_take] at member
      split at member
      · simp at member
      · exact member
  obtain ⟨first, others, same⟩ := List.exists_cons_of_ne_nil present
  rw [same, List.cons_append, numeral, ← List.cons_append, ← same]
  simp only [found, List.isEmpty_iff, present, if_false, List.drop_left]

/-- A written number is scanned as itself. -/
theorem numeral_padded {most : Nat} {rest : List Char} (width value : Nat)
    (short : (padded width value).length ≤ most)
    (ends : (padded width value).length = most ∨ EndsNumber rest) :
    numeral most (padded width value ++ rest) = .ok (value, rest) := by
  have scanned := numeral_apply (padded_ne_nil width value)
    (fun _ member => isDigit_of_mem_padded member) short ends
  rwa [valueOf_padded] at scanned

/-- The first character of a written number. -/
theorem solid_padded_append (width number : Nat) (rest : List Char) :
    ∀ character ∈ (padded width number ++ rest).head?, Text.isWhitespace character = false := by
  intro character member
  obtain ⟨first, others, same⟩ := List.exists_cons_of_ne_nil (padded_ne_nil width number)
  rw [same, List.cons_append, List.head?_cons, Option.mem_some_iff] at member
  have among : character ∈ padded width number := by
    rw [same, ← member]
    exact List.mem_cons_self
  exact isWhitespace_of_isDigit (isDigit_of_mem_padded among)

/-- A value inside of its bounds is passed on. -/
theorem within_apply {least greatest value : Nat} (rest : List Char)
    (inside : least ≤ value ∧ value ≤ greatest) :
    within least greatest value rest = .ok (value, rest) := by
  rw [within, if_pos inside]
  rfl

/-- A part of two digits is scanned whatever follows it. -/
theorem part_apply {least greatest value : Nat} (rest : List Char) (fits : value < 100)
    (inside : least ≤ value ∧ value ≤ greatest) :
    part least greatest (padded 2 value ++ rest) = .ok (value, rest) := by
  have width : (padded 2 value).length = 2 := length_padded (by decide) fits
  have scanned : numeral 2 (padded 2 value ++ rest) = .ok (value, rest) :=
    numeral_padded 2 value (Nat.le_of_eq width) (.inl width)
  rw [part, bind_apply (blanks_apply (solid_padded_append 2 value rest)), bind_apply scanned]
  exact within_apply rest inside

/-- A year behind its sign is scanned when it fits the limit. -/
theorem longYear_apply (limit : Nat) (sign : Int) (value : Nat) {rest : List Char}
    (fits : value ≤ limit) (ends : EndsNumber rest) :
    longYear limit sign (padded 4 value ++ rest) = .ok (sign * value, rest) := by
  have short : (padded 4 value).length ≤ (padded 4 value ++ rest).length := by
    rw [List.length_append]
    exact Nat.le_add_right _ _
  have scanned := numeral_padded 4 value short (.inr ends)
  simp only [longYear, scanned, if_pos fits]

/-- A number without a sign is scanned as a year of four digits. -/
theorem year_apply_unsigned (value : Nat) (rest : List Char) (fits : value < 10000) :
    year (padded 4 value ++ rest) = .ok ((value : Int), rest) := by
  have width : (padded 4 value).length = 4 := length_padded (by decide) fits
  have scanned : numeral 4 (padded 4 value ++ rest) = .ok (value, rest) :=
    numeral_padded 4 value (Nat.le_of_eq width) (.inl width)
  rw [year, bind_apply (blanks_apply (solid_padded_append 4 value rest))]
  obtain ⟨first, others, same⟩ := List.exists_cons_of_ne_nil (padded_ne_nil 4 value)
  have among : first ∈ padded 4 value := by
    rw [same]
    exact List.mem_cons_self
  have digit : first.isDigit = true := isDigit_of_mem_padded among
  have minus : first ≠ '-' := by
    rintro rfl
    exact absurd digit (by decide)
  have plus : first ≠ '+' := by
    rintro rfl
    exact absurd digit (by decide)
  have present : (get : Scan (List Char)) (padded 4 value ++ rest) =
      .ok (padded 4 value ++ rest, padded 4 value ++ rest) := rfl
  rw [bind_apply present]
  -- The first digit is no sign, so the year has at most four digits.
  refine (congrFun (?_ : _ = (do return Int.ofNat (← numeral 4) : Scan Int)) _).trans ?_
  · rw [same, List.cons_append]
    split
    · next opening => exact absurd (List.cons.inj opening).1 minus
    · next opening => exact absurd (List.cons.inj opening).1 plus
    · rfl
  · rw [bind_apply scanned]
    rfl

/-- Every written year of the calendar is scanned as itself. -/
theorem year_apply {year : Int} {rest : List Char} (least : Date.firstYear ≤ year)
    (greatest : year ≤ Date.lastYear) (ends : EndsNumber rest) :
    Scan.year (Date.writtenYear year ++ rest) = .ok (year, rest) := by
  have lower : -262143 ≤ year := least
  have upper : year ≤ 262142 := greatest
  rw [Date.writtenYear]
  split
  · next short =>
      have scanned := year_apply_unsigned year.toNat rest (by omega)
      rw [Int.toNat_of_nonneg short.1] at scanned
      exact scanned
  · next long =>
      split
      · next negative =>
          have scanned := longYear_apply (UInt32.size / 2) (-1) year.natAbs
            (by simp only [UInt32.size]; omega) ends
          have same : -1 * (year.natAbs : Int) = year := by omega
          rw [same] at scanned
          exact scanned
      · next positive =>
          have scanned := longYear_apply (UInt32.size / 2 - 1) 1 year.natAbs
            (by simp only [UInt32.size]; omega) ends
          have same : 1 * (year.natAbs : Int) = year := by omega
          rw [same] at scanned
          exact scanned

/-- The digits of a fraction are scanned as nanoseconds. -/
theorem fraction_apply_digits (width value : Nat) {nanosecond : Nat} {rest : List Char}
    (wide : 0 < width) (short : width ≤ 9) (fits : value < Nat.pow 10 width)
    (scaled : value * Nat.pow 10 (9 - width) = nanosecond) (ends : EndsNumber rest) :
    fraction ('.' :: (padded width value ++ rest)) = .ok (nanosecond, rest) := by
  have length : (padded width value).length = width := length_padded wide fits
  have scanned := numeral_padded width value (length ▸ short) (.inr ends)
  have stays : rest.dropWhile Char.isDigit = rest := by
    cases rest with
    | nil => rfl
    | cons first others =>
        have noDigit := ends first (by simp)
        simp [noDigit]
  have count : (padded width value ++ rest).length - rest.length = width := by
    rw [List.length_append, length, Nat.add_sub_cancel]
  simp only [fraction, scanned, count, stays, scaled]

/-- A written fraction is scanned as the nanoseconds it was written for. -/
theorem fraction_apply {nanosecond : Nat} {rest : List Char}
    (fits : nanosecond < Time.nanosecondsPerSecond) (ends : EndsNumber rest)
    (noPoint : rest.head? ≠ some '.') :
    fraction (Time.writtenFraction nanosecond ++ rest) = .ok (nanosecond, rest) := by
  have below : nanosecond < 1000000000 := fits
  rw [Time.writtenFraction]
  split
  · next zero =>
      rw [zero, List.nil_append]
      cases rest with
      | nil => rfl
      | cons first others =>
          have noMark : first ≠ '.' := fun same => noPoint (by rw [same, List.head?_cons])
          simp [fraction, noMark]
  · split
    · next milli =>
        have within : nanosecond / 1000000 < 1000 := by omega
        have scaled : nanosecond / 1000000 * 1000000 = nanosecond := by omega
        exact fraction_apply_digits 3 _ (by decide) (by decide) within scaled ends
    · split
      · next micro =>
          have within : nanosecond / 1000 < 1000000 := by omega
          have scaled : nanosecond / 1000 * 1000 = nanosecond := by omega
          exact fraction_apply_digits 6 _ (by decide) (by decide) within scaled ends
      · exact fraction_apply_digits 9 _ (by decide) (by decide) below (Nat.mul_one _) ends

end DataAccess.Scan
