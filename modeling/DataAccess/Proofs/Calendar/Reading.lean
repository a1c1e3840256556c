/-
This file shows that the written form of a date, a time, a date with a time and an instant is read
as the same value. It holds for all years of the calendar, all fractions and leap seconds.
-/

import DataAccess.Calendar.Reading
import DataAccess.Proofs.Calendar.Scan

namespace DataAccess

/-- The parts of a time make up that time. -/
theorem Time.ofParts?_self (time : Time) :
    Time.ofParts? time.hour time.minute time.second time.nanosecond = some time := by
  rw [Time.ofParts?, dif_pos time.valid]

namespace Scan

open Text.Decimal

/-- The parts of a date, as they are written. -/
def DateParts.ofDate (date : Date) : DateParts :=
  ⟨date.year, date.month, date.day⟩

/-- The parts of a date make up that date. -/
theorem DateParts.date_ofDate (date : Date) : (DateParts.ofDate date).date = .ok date := by
  rw [DateParts.date, DateParts.ofDate, Date.ofParts?, dif_pos date.valid]

/-- The parts of a time, as they are written: a leap second is the second 60. -/
def TimeParts.ofTime (time : Time) : TimeParts :=
  ⟨time.hour, time.minute, time.second + time.nanosecond / Time.nanosecondsPerSecond,
    time.nanosecond % Time.nanosecondsPerSecond⟩

/-- The second 60 is the second 59 with a thousand million nanoseconds more. -/
theorem TimeParts.time_eq_ok {parts : TimeParts} {time : Time}
    (leap : parts.second = 60 → Time.ofParts? parts.hour parts.minute 59
      (parts.nanosecond + Time.nanosecondsPerSecond) = some time)
    (plain : parts.second ≠ 60 →
      Time.ofParts? parts.hour parts.minute parts.second parts.nanosecond = some time) :
    parts.time = .ok time := by
  by_cases last : parts.second = 60
  · simp only [TimeParts.time, if_pos last, leap last]
  · simp only [TimeParts.time, if_neg last, plain last]

/-- The parts of a time of day make up that time. -/
theorem TimeParts.time_ofTime (time : Time) : (TimeParts.ofTime time).time = .ok time := by
  obtain ⟨-, -, seconds, twice, leap⟩ := time.valid
  have same := Time.ofParts?_self time
  simp only [Time.nanosecondsPerSecond] at twice leap
  apply TimeParts.time_eq_ok
  · intro last
    simp only [TimeParts.ofTime, Time.nanosecondsPerSecond] at last ⊢
    have whole : time.nanosecond % 1000000000 + 1000000000 = time.nanosecond := by omega
    have second : time.second = 59 := leap (by omega)
    rw [whole, ← second]
    exact same
  · intro early
    simp only [TimeParts.ofTime, Time.nanosecondsPerSecond] at early ⊢
    have short : time.nanosecond < 1000000000 := by
      rcases Nat.lt_or_ge time.nanosecond 1000000000 with short | long
      · exact short
      · have second := leap long
        omega
    rw [Nat.mod_eq_of_lt short, Nat.div_eq_of_lt short, Nat.add_zero]
    exact same

/-- No month has more than 31 days. -/
theorem day_le (date : Date) : date.day ≤ 31 := by
  obtain ⟨-, -, -, -, -, lastDay⟩ := date.valid
  refine Nat.le_trans lastDay ?_
  unfold Date.daysInMonth
  split
  · split <;> decide
  · split <;> decide

/-- A written date is read as its parts. -/
theorem dateParts_apply (date : Date) (rest : List Char) :
    dateParts (date.written ++ rest) = .ok (DateParts.ofDate date, rest) := by
  obtain ⟨least, greatest, firstMonth, lastMonth, firstDay, -⟩ := date.valid
  have days := day_le date
  simp only [Date.written, List.append_assoc, List.cons_append]
  rw [dateParts, bind_apply (year_apply least greatest (endsNumber_cons _ rfl)),
    bind_apply (literal_apply '-' _),
    bind_apply (part_apply _ (by omega) ⟨firstMonth, lastMonth⟩),
    bind_apply (literal_apply '-' _), bind_apply (part_apply _ (by omega) ⟨firstDay, days⟩)]
  rfl

/-- A written hour and minute are read as those. -/
theorem minuteParts_apply (time : Time) (rest : List Char) :
    minuteParts (padded 2 time.hour ++ ':' :: (padded 2 time.minute ++ rest)) =
      .ok (⟨time.hour, time.minute, 0, 0⟩, rest) := by
  obtain ⟨hours, minutes, -⟩ := time.valid
  rw [minuteParts, bind_apply (part_apply _ (by omega) (by omega)),
    bind_apply (literal_apply ':' _), bind_apply (part_apply _ (by omega) (by omega))]
  rfl

/-- The written second is at most 60. -/
theorem writtenSecond_le (time : Time) :
    time.second + time.nanosecond / Time.nanosecondsPerSecond ≤ 60 := by
  obtain ⟨-, -, seconds, twice, -⟩ := time.valid
  simp only [Time.nanosecondsPerSecond] at twice ⊢
  omega

/-- The part of a time in front of its fraction is scanned whatever follows it. -/
theorem secondParts_apply (time : Time) (rest : List Char) :
    secondParts (padded 2 time.hour ++ ':' :: (padded 2 time.minute ++
      ':' :: (padded 2 (time.second + time.nanosecond / Time.nanosecondsPerSecond) ++ rest))) =
      .ok (⟨time.hour, time.minute,
        time.second + time.nanosecond / Time.nanosecondsPerSecond, 0⟩, rest) := by
  have bound := writtenSecond_le time
  rw [secondParts, bind_apply (minuteParts_apply time _), bind_apply (literal_apply ':' _),
    bind_apply (part_apply _ (by omega) ⟨Nat.zero_le _, bound⟩)]
  rfl

/-- A written time is read as its parts. -/
theorem timeParts_apply (time : Time) {rest : List Char} (ends : EndsNumber rest)
    (noPoint : rest.head? ≠ some '.') :
    timeParts (time.written ++ rest) = .ok (TimeParts.ofTime time, rest) := by
  have below : time.nanosecond % Time.nanosecondsPerSecond < Time.nanosecondsPerSecond :=
    Nat.mod_lt _ (by decide)
  simp only [Time.written, List.append_assoc, List.cons_append]
  rw [timeParts, bind_apply (secondParts_apply time _),
    bind_apply (fraction_apply below ends noPoint)]
  rfl

/-- The character that begins at a place stands in the text. -/
theorem mem_of_characterAt? {count : Nat} {text : List Char} {character : Char}
    (found : characterAt? count text = some character) : character ∈ text := by
  induction text generalizing count with
  | nil => cases count <;> simp [characterAt?] at found
  | cons first rest hypothesis =>
      cases count with
      | zero =>
          simp only [characterAt?, List.head?_cons, Option.some.injEq] at found
          simp [found]
      | succ count =>
          rw [characterAt?] at found
          split at found
          · exact List.mem_cons_of_mem _ (hypothesis found)
          · simp at found

/-- No written number holds a letter. -/
theorem letter_not_mem_padded (width number : Nat) : 'T' ∉ padded width number := by
  intro member
  exact absurd (isDigit_of_mem_padded member) (by decide)

/-- A written date holds no letter `T`. -/
theorem letter_not_mem_date (date : Date) : 'T' ∉ date.written := by
  unfold Date.written Date.writtenYear
  split <;> simp [letter_not_mem_padded]
  split <;> decide

/-- A written time holds no letter `T`. -/
theorem letter_not_mem_time (time : Time) : 'T' ∉ time.written := by
  have fraction : 'T' ∉ Time.writtenFraction (time.nanosecond % Time.nanosecondsPerSecond) := by
    unfold Time.writtenFraction
    split
    · simp
    · split
      · simp [letter_not_mem_padded]
      · split <;> simp [letter_not_mem_padded]
  simp [Time.written, letter_not_mem_padded, fraction]

/-- A text without the letter has a blank between its date and its time. -/
theorem hasLetter_eq_false {text : List Char} (absent : 'T' ∉ text) :
    hasLetter (String.ofList text) = false := by
  rw [hasLetter, String.toList_ofList, beq_eq_false_iff_ne]
  exact fun found => absent (mem_of_characterAt? found)

/-- A date and a time with a blank between them are scanned as both. -/
theorem dateTimeParts_apply (value : DateTime) {rest : List Char} (ends : EndsNumber rest)
    (noPoint : rest.head? ≠ some '.') :
    dateTimeParts false (value.written ++ rest) =
      .ok ((DateParts.ofDate value.date, TimeParts.ofTime value.time), rest) := by
  have joined : joint false (' ' :: (value.time.written ++ rest)) =
      .ok ((), value.time.written ++ rest) := by
    change blanks (value.time.written ++ rest) = _
    apply blanks_apply
    simp only [Time.written, List.append_assoc]
    exact solid_padded_append 2 value.time.hour _
  simp only [DateTime.written, List.append_assoc, List.cons_append]
  rw [dateTimeParts, bind_apply (dateParts_apply value.date _), bind_apply joined,
    bind_apply (timeParts_apply value.time ends noPoint)]
  rfl

/-- The parts of a date with a time make up that date and time. -/
theorem dateTime_ofParts (value : DateTime) :
    dateTime (DateParts.ofDate value.date) (TimeParts.ofTime value.time) = .ok value := by
  rw [dateTime, DateParts.date_ofDate, TimeParts.time_ofTime]
  rfl

end Scan

open Scan

/-- Every written date is read as itself. -/
theorem Date.read_written (date : Date) : Date.read (String.ofList date.written) = .ok date := by
  have scanned := dateParts_apply date []
  rw [List.append_nil] at scanned
  rw [Date.read, String.toList_ofList, complete_eq_ok scanned]
  exact DateParts.date_ofDate date

/-- A text has at least as many bytes as characters. -/
theorem length_le_utf8ByteSize (text : List Char) :
    text.length ≤ (String.ofList text).utf8ByteSize := by
  induction text with
  | nil => exact Nat.zero_le _
  | cons first rest hypothesis =>
      rw [String.ofList_cons, String.utf8ByteSize_append, String.utf8ByteSize_singleton,
        List.length_cons]
      have positive := first.utf8Size_pos
      omega

/-- A time is written in eight characters and its fraction. -/
theorem Time.length_written (time : Time) :
    time.written.length =
      8 + (writtenFraction (time.nanosecond % nanosecondsPerSecond)).length := by
  obtain ⟨hours, minutes, -⟩ := time.valid
  have seconds := writtenSecond_le time
  have hundred : Nat.pow 10 2 = 100 := rfl
  simp only [written, List.length_append, List.length_cons]
  rw [Text.Decimal.length_padded (by decide) (by omega),
    Text.Decimal.length_padded (by decide) (by omega),
    Text.Decimal.length_padded (by decide) (by omega)]

/-- Only the fraction zero is not written. -/
theorem Time.eq_zero_of_writtenFraction_eq_nil {nanosecond : Nat}
    (bare : writtenFraction nanosecond = []) : nanosecond = 0 := by
  unfold writtenFraction at bare
  split at bare
  · assumption
  · split at bare
    · simp at bare
    · split at bare <;> simp at bare

/-- Every written time is read as itself. Only a time without a fraction is as long as the form
that has none. -/
theorem Time.read_written (time : Time) : Time.read (String.ofList time.written) = .ok time := by
  have scanned := timeParts_apply time endsNumber_nil (by simp)
  rw [List.append_nil] at scanned
  have bytes := length_le_utf8ByteSize time.written
  have length := time.length_written
  rw [Time.read]
  have longer : (String.ofList time.written).utf8ByteSize ≠ 5 := by omega
  rw [if_neg longer, String.toList_ofList]
  split
  · next eight =>
      have bare : writtenFraction (time.nanosecond % nanosecondsPerSecond) = [] := by
        rw [← List.length_eq_zero_iff]
        omega
      have zero := eq_zero_of_writtenFraction_eq_nil bare
      have whole := secondParts_apply time []
      rw [List.append_nil] at whole
      have same : time.written = Text.Decimal.padded 2 time.hour ++
          ':' :: (Text.Decimal.padded 2 time.minute ++
            ':' :: Text.Decimal.padded 2
              (time.second + time.nanosecond / nanosecondsPerSecond)) := by
        simp only [written, bare, List.append_assoc, List.cons_append, List.append_nil]
      rw [same, complete_eq_ok whole]
      have parts := TimeParts.time_ofTime time
      rw [TimeParts.ofTime, zero] at parts
      exact parts
  · rw [complete_eq_ok scanned]
    exact TimeParts.time_ofTime time

/-- A written date with a time holds no letter `T`. -/
theorem DateTime.letter_not_mem_written (value : DateTime) : 'T' ∉ value.written := by
  simp [written, letter_not_mem_date, letter_not_mem_time]

/-- Every written date with a time is read as itself. -/
theorem DateTime.read_written (value : DateTime) :
    DateTime.read (String.ofList value.written) = .ok value := by
  have scanned := dateTimeParts_apply value endsNumber_nil (by simp)
  rw [List.append_nil] at scanned
  rw [DateTime.read, hasLetter_eq_false value.letter_not_mem_written, String.toList_ofList,
    complete_eq_ok scanned]
  exact dateTime_ofParts value

/-- A second of a day lies before the day's end. -/
theorem Time.secondOfDay_lt (time : Time) : (time.secondOfDay : Int) < secondsPerDay := by
  obtain ⟨hours, minutes, seconds, -⟩ := time.valid
  simp only [secondOfDay, secondsPerDay]
  omega

/-- Without an offset the date in universal time is the date. -/
theorem DateTime.universalDate?_zero (value : DateTime) :
    value.universalDate? 0 = some value.date := by
  have late := value.time.secondOfDay_lt
  have early : ¬ (value.time.secondOfDay : Int) < 0 := by omega
  simp only [universalDate?, Int.sub_zero, if_neg early, if_pos late]

/-- Universal time is told as it is on a clock without an offset. -/
theorem DateTime.universalTime?_zero (value : DateTime) :
    value.universalTime? 0 = some value.time := by
  obtain ⟨hours, minutes, seconds, -⟩ := value.time.valid
  have late := value.time.secondOfDay_lt
  have second : (((value.time.secondOfDay : Int) - 0) % secondsPerDay).toNat =
      value.time.secondOfDay := by
    rw [Int.sub_zero, Int.emod_eq_of_lt (by omega) late, Int.toNat_natCast]
  have hour : value.time.secondOfDay / 3600 = value.time.hour := by
    simp only [Time.secondOfDay]
    omega
  have minute : value.time.secondOfDay / 60 % 60 = value.time.minute := by
    simp only [Time.secondOfDay]
    omega
  have rest : value.time.secondOfDay % 60 = value.time.second := by
    simp only [Time.secondOfDay]
    omega
  simp only [universalTime?, second, hour, minute, rest, Time.ofParts?_self]

/-- Every date with a time is one without an offset. -/
theorem OffsetDateTime.isValid_zero (clock : DateTime) : IsValid clock 0 :=
  ⟨by decide, by decide, by rw [clock.universalDate?_zero]; rfl⟩

/-- A clock without an offset tells the instant that it shows. -/
theorem OffsetDateTime.instant?_zero (clock : DateTime) :
    instant? ⟨clock, 0, isValid_zero clock⟩ = some ⟨clock⟩ := by
  simp only [instant?, clock.universalDate?_zero, clock.universalTime?_zero]
  rfl

/-- A clock with an offset is read when the offset is shorter than a day. -/
theorem Scan.offsetDateTime_eq_ok {date : DateParts} {time : TimeParts} {offset : Int}
    {clock : DateTime} {value : OffsetDateTime} (joined : dateTime date time = .ok clock)
    (near : offset.natAbs < 86400) (built : OffsetDateTime.ofParts? clock offset = some value) :
    offsetDateTime date time offset = .ok value := by
  rw [offsetDateTime, joined]
  simp only [bind, Except.bind, if_pos near, built]
  rfl

/-- A text whose parts are scanned is read as what they make up. -/
theorem OffsetDateTime.readIn_eq_offsetDateTime
    {scan : Scan (DateParts × TimeParts × Int)} {text : String} {date : DateParts}
    {time : TimeParts} {offset : Int}
    (scanned : complete scan text.toList = .ok (date, time, offset)) :
    readIn scan text = offsetDateTime date time offset := by
  rw [readIn, scanned]
  rfl

/-- A date with a time and no offset is made up of those. -/
theorem OffsetDateTime.ofParts?_zero (clock : DateTime) :
    ofParts? clock 0 = some ⟨clock, 0, isValid_zero clock⟩ := by
  rw [ofParts?, dif_pos (isValid_zero clock)]

/-- The offset of universal time, as it is written. -/
def universalZone : List Char := ['+', '0', '0', ':', '0', '0']

/-- The written universal zone is read as no offset. -/
theorem Scan.offset_universalZone : offset .permissive universalZone = .ok (0, []) := rfl

/-- A date with a time and the offset of universal time are scanned as all three. -/
theorem Scan.offsetParts_apply_universal (value : DateTime) :
    offsetParts false .permissive (value.written ++ universalZone) =
      .ok ((DateParts.ofDate value.date, TimeParts.ofTime value.time, 0), []) := by
  have solid : ∀ character ∈ universalZone.head?, Text.isWhitespace character = false := by
    simp [universalZone, Text.isWhitespace]
  have ends : EndsNumber universalZone := endsNumber_cons _ rfl
  rw [offsetParts, bind_apply (dateTimeParts_apply value ends (by simp [universalZone]))]
  dsimp only
  rw [bind_apply (blanks_apply solid), bind_apply offset_universalZone]
  rfl

/-- The text of universal time is read with an offset of zero. -/
theorem OffsetDateTime.readIn_universal (value : DateTime) :
    readIn (offsetParts false .permissive) (String.ofList (value.written ++ universalZone)) =
      .ok ⟨value, 0, isValid_zero value⟩ := by
  have whole := complete_eq_ok (offsetParts_apply_universal value)
  rw [← String.toList_ofList (l := value.written ++ universalZone)] at whole
  rw [readIn_eq_offsetDateTime whole]
  exact offsetDateTime_eq_ok (dateTime_ofParts value) (by decide) (ofParts?_zero value)

/-- A text that is read as a date with an offset is read as its moment. -/
theorem Instant.read_eq_ok {text : String} {value : OffsetDateTime} {instant : Instant}
    (found : OffsetDateTime.readIn (offsetParts (hasLetter text) .permissive) text = .ok value)
    (told : value.instant? = some instant) : Instant.read text = .ok instant := by
  simp only [Instant.read, found, Except.toOption, Option.bind_some, told]

/-- Every written instant is read as itself: its offset is zero. -/
theorem Instant.read_written (instant : Instant) :
    Instant.read (String.ofList instant.written) = .ok instant := by
  have absent : 'T' ∉ instant.universal.written ++ universalZone := by
    simp [instant.universal.letter_not_mem_written, universalZone]
  have found := OffsetDateTime.readIn_universal instant.universal
  rw [← hasLetter_eq_false absent] at found
  exact Instant.read_eq_ok found (OffsetDateTime.instant?_zero instant.universal)

end DataAccess
