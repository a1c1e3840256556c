/-
This file shows what the written form of a time with an offset is read as. The seconds of an offset
are not written, so that only whole minutes come back.
-/

import DataAccess.Proofs.Calendar.Reading

namespace DataAccess

namespace OffsetDateTime

/-- The offset that is written for an offset: the nearest whole minutes, away from zero when there
are two. -/
def roundedOffset (offset : Int) : Int :=
  let minutes : Int := ((offset.natAbs + 30) / 60 : Nat)
  if offset < 0 then -(60 * minutes) else 60 * minutes

/-- The rounded offset is one of whole minutes, and no offset is moved by more than half a
minute. -/
theorem roundedOffset_nearest (offset : Int) :
    60 ∣ roundedOffset offset ∧ (roundedOffset offset - offset).natAbs ≤ 30 := by
  simp only [roundedOffset]
  split <;> omega

/-- Only an offset of whole minutes is rounded to itself. -/
theorem roundedOffset_eq_iff {offset : Int} : roundedOffset offset = offset ↔ 60 ∣ offset := by
  simp only [roundedOffset]
  split <;> omega

end OffsetDateTime

namespace Scan

open Text.Decimal

/-- A number of a fixed width is scanned whatever follows it. -/
theorem fixed_apply {width value : Nat} (rest : List Char) (wide : 0 < width)
    (fits : value < Nat.pow 10 width) :
    fixed width (padded width value ++ rest) = .ok (value, rest) := by
  have length : (padded width value).length = width := length_padded wide fits
  have front : (padded width value ++ rest).take width = padded width value :=
    List.take_left' length
  have digits : (padded width value).all Char.isDigit = true :=
    List.all_eq_true.mpr fun _ member => isDigit_of_mem_padded member
  simp only [fixed, front, length, Nat.lt_irrefl, if_false, digits, if_true, valueOf_padded,
    List.drop_left' length]

/-- A number of two digits is scanned whatever follows it. -/
theorem pair_apply {value : Nat} (rest : List Char) (fits : value < 100) :
    pair (padded 2 value ++ rest) = .ok (value, rest) := by
  have length : (padded 2 value).length = 2 := length_padded (by decide) fits
  obtain ⟨first, others, front⟩ := List.exists_cons_of_ne_nil (padded_ne_nil 2 value)
  obtain ⟨second, rfl⟩ := List.length_eq_one_iff.mp (Nat.succ.inj (front ▸ length))
  have same : padded 2 value = [first, second] := front
  have firstDigit : first.isDigit = true := isDigit_of_mem_padded (same ▸ List.mem_cons_self)
  have secondDigit : second.isDigit = true :=
    isDigit_of_mem_padded (same ▸ List.mem_cons_of_mem _ List.mem_cons_self)
  have meant : valueOf [first, second] = value := by rw [← same, valueOf_padded]
  simp [same, pair, firstDigit, secondDigit, meant]

/-- The sign in front of an offset. -/
def writtenSign (offset : Int) : Char :=
  if offset < 0 then '-' else '+'

/-- The written sign of an offset is read as that sign. -/
theorem sign_apply (offset : Int) (rest : List Char) :
    sign (writtenSign offset :: rest) = .ok (if offset < 0 then -1 else 1, rest) := by
  unfold writtenSign
  split <;> simp [sign]

/-- The colon in front of the minutes is read in every style. -/
theorem separator_apply {style : OffsetStyle} {value : Nat} (rest : List Char) :
    style.separator (':' :: (padded 2 value ++ rest)) = .ok ((), padded 2 value ++ rest) := by
  obtain ⟨first, others, same⟩ := List.exists_cons_of_ne_nil (padded_ne_nil 2 value)
  have digit : first.isDigit = true := isDigit_of_mem_padded (same ▸ List.mem_cons_self)
  have solid := isWhitespace_of_isDigit digit
  have noColon : first ≠ ':' := by
    rintro rfl
    exact absurd digit (by decide)
  cases style <;> simp [OffsetStyle.separator, literal, same, solid, noColon]

/-- Written minutes are read as those in every style. -/
theorem minutes_apply {style : OffsetStyle} {value : Nat} (fits : value < 60) :
    style.minutes (padded 2 value) = .ok (value, []) := by
  have scanned := pair_apply [] (Nat.lt_trans fits (by decide))
  rw [List.append_nil] at scanned
  have present : (padded 2 value).isEmpty = false := by
    rw [List.isEmpty_eq_false_iff]
    exact padded_ne_nil 2 value
  have kept : (get : Scan (List Char)) (padded 2 value) =
      .ok (padded 2 value, padded 2 value) := rfl
  have inside : 0 ≤ value ∧ value ≤ 59 := by omega
  have ranged : (do within 0 59 (← pair) : Scan Nat) (padded 2 value) = .ok (value, []) := by
    rw [bind_apply scanned]
    exact within_apply [] inside
  unfold OffsetStyle.minutes
  cases style with
  | colon => exact ranged
  | spaced => exact ranged
  | permissive =>
    rw [bind_apply kept, present]
    exact ranged

/-- A written offset is scanned as the whole minutes next to it. -/
theorem numericOffset_apply (style : OffsetStyle) {offset : Int} (near : offset.natAbs < 86400) :
    numericOffset style (OffsetDateTime.writtenOffset offset) =
      .ok (OffsetDateTime.roundedOffset offset, []) := by
  have hours : (offset.natAbs + 30) / 60 / 60 < 100 := by omega
  have minutes : (offset.natAbs + 30) / 60 % 60 < 60 := by omega
  have written : OffsetDateTime.writtenOffset offset = writtenSign offset ::
      (padded 2 ((offset.natAbs + 30) / 60 / 60) ++
        ':' :: (padded 2 ((offset.natAbs + 30) / 60 % 60) ++ [])) := by
    simp [OffsetDateTime.writtenOffset, writtenSign]
  rw [written, numericOffset, bind_apply (sign_apply offset _), bind_apply (pair_apply _ hours),
    bind_apply (separator_apply []), List.append_nil, bind_apply (minutes_apply minutes)]
  have whole : (if offset < 0 then -1 else 1) *
      ((((offset.natAbs + 30) / 60 / 60 : Nat) : Int) * 3600 +
        (((offset.natAbs + 30) / 60 % 60 : Nat) : Int) * 60) =
      OffsetDateTime.roundedOffset offset := by
    simp only [OffsetDateTime.roundedOffset]
    split <;> omega
  exact congrArg (fun found => Except.ok (found, [])) whole

/-- A sign is no letter, so a written offset is always scanned as a number. -/
theorem offset_apply (style : OffsetStyle) {offset : Int} (near : offset.natAbs < 86400) :
    Scan.offset style (OffsetDateTime.writtenOffset offset) =
      .ok (OffsetDateTime.roundedOffset offset, []) := by
  have scanned := numericOffset_apply style near
  have kept : (get : Scan (List Char)) (OffsetDateTime.writtenOffset offset) =
      .ok (OffsetDateTime.writtenOffset offset, OffsetDateTime.writtenOffset offset) := rfl
  rw [Scan.offset, bind_apply kept]
  unfold OffsetDateTime.writtenOffset at scanned ⊢
  dsimp only [List.cons_append] at scanned ⊢
  split <;> simp_all

/-- A written offset begins with its sign. -/
theorem head?_writtenOffset (offset : Int) :
    (OffsetDateTime.writtenOffset offset).head? = some (writtenSign offset) := rfl

/-- No digit follows where an offset is written. -/
theorem endsNumber_writtenOffset (offset : Int) :
    EndsNumber (OffsetDateTime.writtenOffset offset) := by
  apply endsNumber_cons
  split <;> rfl

/-- No point follows where an offset is written. -/
theorem noPoint_writtenOffset (offset : Int) :
    (OffsetDateTime.writtenOffset offset).head? ≠ some '.' := by
  rw [head?_writtenOffset, writtenSign]
  split <;> decide

/-- No white space follows where an offset is written. -/
theorem solid_writtenOffset (offset : Int) :
    ∀ character ∈ (OffsetDateTime.writtenOffset offset).head?,
      Text.isWhitespace character = false := by
  rw [head?_writtenOffset, writtenSign]
  split <;> simp [Text.isWhitespace]

/-- The loose form takes every written time with an offset. -/
theorem offsetParts_apply (style : OffsetStyle) (clock : DateTime) {offset : Int}
    (near : offset.natAbs < 86400) :
    offsetParts false style (clock.written ++ OffsetDateTime.writtenOffset offset) =
      .ok ((DateParts.ofDate clock.date, TimeParts.ofTime clock.time,
        OffsetDateTime.roundedOffset offset), []) := by
  rw [offsetParts, bind_apply (dateTimeParts_apply clock (endsNumber_writtenOffset offset)
    (noPoint_writtenOffset offset))]
  dsimp only
  rw [bind_apply (blanks_apply (solid_writtenOffset offset)), bind_apply (offset_apply style near)]
  rfl

/-- A failed scan is not gone on with. -/
theorem bind_error {First Second : Type} {scan : Scan First} {next : First → Scan Second}
    {text : List Char} {problem : DateProblem} (failed : scan text = .error problem) :
    (scan >>= next) text = .error problem := by
  change (scan text >>= fun found => next found.1 found.2) = _
  rw [failed]
  rfl

/-- A number of a fixed width does not begin with anything else. -/
theorem fixed_error {width : Nat} {first : Char} {rest : List Char} (wide : 0 < width)
    (noDigit : first.isDigit = false) (long : width ≤ rest.length + 1) :
    fixed width (first :: rest) = .error .invalid := by
  obtain ⟨count, rfl⟩ := Nat.exists_eq_succ_of_ne_zero (Nat.ne_of_gt wide)
  have length : ¬ ((first :: rest).take (count + 1)).length < count + 1 := by
    rw [List.length_take, List.length_cons]
    omega
  simp only [fixed, if_neg length]
  simp [noDigit]

/-- The strict form does not take a year that is written with a sign. -/
theorem exchangeParts_error {clock : DateTime} (rest : List Char)
    (long : ¬ (0 ≤ clock.date.year ∧ clock.date.year < 10000)) :
    exchangeParts (clock.written ++ rest) = .error .invalid := by
  have digits : 4 ≤ (padded 4 clock.date.year.natAbs).length := by
    simp only [padded, List.length_append, List.length_replicate]
    omega
  have failed : fixed 4 (clock.written ++ rest) = .error .invalid := by
    simp only [DateTime.written, Date.written, Date.writtenYear, if_neg long, List.append_assoc,
      List.cons_append]
    apply fixed_error (by decide)
    · split <;> rfl
    · rw [List.length_append]
      omega
  rw [exchangeParts, bind_error failed]

/-- The strict form takes a year of four digits and an offset that is no full day. -/
theorem exchangeParts_apply (clock : DateTime) {offset : Int}
    (short : 0 ≤ clock.date.year ∧ clock.date.year < 10000) (near : offset.natAbs < 86400) :
    exchangeParts (clock.written ++ OffsetDateTime.writtenOffset offset) =
      if (OffsetDateTime.roundedOffset offset).natAbs ≤ 86340 then
        .ok ((DateParts.ofDate clock.date, TimeParts.ofTime clock.time,
          OffsetDateTime.roundedOffset offset), [])
      else .error .outOfRange := by
  obtain ⟨_, _, _, months, _⟩ := clock.date.valid
  obtain ⟨hours, minutes, _⟩ := clock.time.valid
  have days := day_le clock.date
  have seconds := writtenSecond_le clock.time
  have below : clock.time.nanosecond % Time.nanosecondsPerSecond < Time.nanosecondsPerSecond :=
    Nat.mod_lt _ (by decide)
  have year : clock.date.year.toNat < Nat.pow 10 4 := by
    change _ < 10000
    omega
  have hundred : Nat.pow 10 2 = 100 := rfl
  have kept (text : List Char) : (get : Scan (List Char)) text = .ok (text, text) := rfl
  have left (text rest : List Char) : (set rest : Scan PUnit) text = .ok ((), rest) := rfl
  simp only [DateTime.written, Date.written, Date.writtenYear, if_pos short, Time.written,
    List.append_assoc, List.cons_append]
  rw [exchangeParts, bind_apply (fixed_apply _ (by decide) year), bind_apply (literal_apply '-' _),
    bind_apply (fixed_apply _ (by decide) (by omega)), bind_apply (literal_apply '-' _),
    bind_apply (fixed_apply _ (by decide) (by omega)), bind_apply (kept _)]
  dsimp only
  rw [if_pos (by decide), bind_apply (left _ _), bind_apply (fixed_apply _ (by decide) (by omega)),
    bind_apply (literal_apply ':' _), bind_apply (fixed_apply _ (by decide) (by omega)),
    bind_apply (literal_apply ':' _), bind_apply (fixed_apply _ (by decide) (by omega)),
    bind_apply (within_apply _ ⟨Nat.zero_le _, seconds⟩),
    bind_apply (fraction_apply below (endsNumber_writtenOffset offset)
      (noPoint_writtenOffset offset)),
    bind_apply (offset_apply .colon near), Int.toNat_of_nonneg short.1]
  split <;> rfl

end Scan

open Scan

namespace OffsetDateTime

/-- Every offset is shorter than a day. -/
theorem natAbs_offset_lt (value : OffsetDateTime) : value.offset.natAbs < 86400 := by
  obtain ⟨behind, ahead, _⟩ := value.valid
  simp only [secondsPerDay] at behind ahead
  omega

/-- A text that cannot be scanned cannot be read. -/
theorem readIn_eq_error {scan : Scan (DateParts × TimeParts × Int)} {text : List Char}
    {problem : DateProblem} (failed : scan text = .error problem) :
    readIn scan (String.ofList text) = .error problem := by
  rw [readIn, String.toList_ofList, complete, failed]
  rfl

/-- What a written value is read as, whichever form takes it. -/
def reread (value : OffsetDateTime) : Except DateProblem OffsetDateTime :=
  offsetDateTime (DateParts.ofDate value.clock.date) (TimeParts.ofTime value.clock.time)
    (roundedOffset value.offset)

/-- What is written of a date with an offset is read as the date with the rounded offset. -/
theorem readIn_offsetParts (value : OffsetDateTime) :
    readIn (offsetParts false .spaced) (String.ofList value.written) = value.reread := by
  apply readIn_eq_offsetDateTime
  rw [String.toList_ofList]
  exact complete_eq_ok (offsetParts_apply .spaced value.clock value.natAbs_offset_lt)

/-- The strict form takes a written value or refuses it; it does not take it for another one. -/
theorem readIn_exchangeParts (value : OffsetDateTime) :
    readIn exchangeParts (String.ofList value.written) = value.reread ∨
      ∃ problem, readIn exchangeParts (String.ofList value.written) = .error problem := by
  by_cases short : 0 ≤ value.clock.date.year ∧ value.clock.date.year < 10000
  · have scanned := exchangeParts_apply value.clock short value.natAbs_offset_lt
    by_cases within : (roundedOffset value.offset).natAbs ≤ 86340
    · rw [if_pos within] at scanned
      apply Or.inl
      apply readIn_eq_offsetDateTime
      rw [String.toList_ofList]
      exact complete_eq_ok scanned
    · rw [if_neg within] at scanned
      exact .inr ⟨_, readIn_eq_error scanned⟩
  · exact .inr ⟨_, readIn_eq_error (exchangeParts_error _ short)⟩

/-- Every written value is read from its parts. -/
theorem read_written (value : OffsetDateTime) :
    read (String.ofList value.written) = value.reread := by
  rw [read]
  -- Where the strict form refuses a value, the loose one is asked and takes it from its parts.
  rcases value.readIn_exchangeParts with strict | ⟨problem, failed⟩
  · rw [strict, value.readIn_offsetParts]
    cases value.reread <;> rfl
  · rw [failed, value.readIn_offsetParts]

/-- A value is read back with its own clock, if the rounded offset is one that the clock can
have. -/
theorem reread_eq_ok_iff {value answer : OffsetDateTime} :
    value.reread = .ok answer ↔
      ofParts? value.clock (roundedOffset value.offset) = some answer := by
  rw [reread, offsetDateTime, dateTime_ofParts]
  simp only [bind, Except.bind]
  split
  next =>
    split
    next found built => simp [built, pure, Except.pure]
    next refused => simp [refused, throw, throwThe, MonadExceptOf.throw]
  next full =>
    have invalid : ¬ IsValid value.clock (roundedOffset value.offset) := by
      rintro ⟨behind, ahead, _⟩
      simp only [secondsPerDay] at behind ahead
      omega
    simp [ofParts?, invalid, throw, throwThe, MonadExceptOf.throw]

/-- Two values tell the same moment when their universal seconds and their fractions are equal. -/
theorem compare_eq_eq_iff {first second : OffsetDateTime} :
    compare first second = .eq ↔ first.universalSecond = second.universalSecond ∧
      first.clock.time.nanosecond = second.clock.time.nanosecond := by
  change compareLex (compareOn universalSecond)
    (compareOn fun value => value.clock.time.nanosecond) first second = .eq ↔ _
  simp only [compareLex_eq_eq, compareOn, Std.compare_eq_iff_eq]

/-- An answer has the clock of the value and its offset as far as that is written. -/
theorem eq_of_reread {value answer : OffsetDateTime} (read : value.reread = .ok answer) :
    answer.clock = value.clock ∧ answer.offset = roundedOffset value.offset := by
  rw [reread_eq_ok_iff, ofParts?] at read
  split at read
  next =>
    rw [← Option.some.inj read]
    exact ⟨rfl, rfl⟩
  next => contradiction

/-- An answer tells the moment that was bound exactly if no seconds of the offset were lost. -/
theorem compare_reread_iff {value answer : OffsetDateTime} (read : value.reread = .ok answer) :
    compare answer value = .eq ↔ 60 ∣ value.offset := by
  obtain ⟨clock, offset⟩ := eq_of_reread read
  rw [compare_eq_eq_iff, ← roundedOffset_eq_iff, universalSecond, universalSecond, clock, offset]
  omega

/-- Nothing is lost of an offset of whole minutes. -/
theorem reread_of_dvd {value : OffsetDateTime} (whole : 60 ∣ value.offset) :
    value.reread = .ok value := by
  rw [reread_eq_ok_iff, roundedOffset_eq_iff.mpr whole, ofParts?, dif_pos value.valid]

end OffsetDateTime

end DataAccess
