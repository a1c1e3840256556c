/-
This file reads dates and times from their texts. Which form a text must have is chosen by its
length in bytes or by what stands behind the date.
-/

import DataAccess.Calendar.DateTime
import DataAccess.Calendar.Scan

namespace DataAccess

namespace Scan

structure DateParts where
  year : Int
  month : Nat
  day : Nat

structure TimeParts where
  hour : Nat
  minute : Nat
  second : Nat
  nanosecond : Nat

def DateParts.date (parts : DateParts) : Except DateProblem Date :=
  match Date.ofParts? parts.year parts.month parts.day with
  | some date => .ok date
  | none => .error .outOfRange

/-- The second 60 is a leap second. -/
def TimeParts.time (parts : TimeParts) : Except DateProblem Time :=
  let found :=
    if parts.second = 60 then
      Time.ofParts? parts.hour parts.minute 59 (parts.nanosecond + Time.nanosecondsPerSecond)
    else Time.ofParts? parts.hour parts.minute parts.second parts.nanosecond
  match found with
  | some time => .ok time
  | none => .error .outOfRange

def dateTime (date : DateParts) (time : TimeParts) : Except DateProblem DateTime := do
  return ⟨← date.date, ← time.time⟩

/-- A year, a month and a day with hyphens between them. -/
def dateParts : Scan DateParts := do
  let year ← year
  literal '-'
  let month ← part 1 12
  literal '-'
  let day ← part 1 31
  return ⟨year, month, day⟩

def minuteParts : Scan TimeParts := do
  let hour ← part 0 23
  literal ':'
  let minute ← part 0 59
  return ⟨hour, minute, 0, 0⟩

def secondParts : Scan TimeParts := do
  let parts ← minuteParts
  literal ':'
  let second ← part 0 60
  return { parts with second := second }

def timeParts : Scan TimeParts := do
  let parts ← secondParts
  let nanosecond ← fraction
  return { parts with nanosecond := nanosecond }

/-- What stands between a date and a time. -/
def joint (isLetter : Bool) : Scan Unit :=
  if isLetter then literal 'T' else blanks

def dateTimeParts (isLetter : Bool) : Scan (DateParts × TimeParts) := do
  let date ← dateParts
  joint isLetter
  return (date, ← timeParts)

/-- The strict form that is used between machines: every field has its full width. -/
def exchangeParts : Scan (DateParts × TimeParts × Int) := do
  let year ← fixed 4
  literal '-'
  let month ← fixed 2
  literal '-'
  let day ← fixed 2
  let separator ← get
  match separator with
  | [] => throw .tooShort
  | first :: rest =>
      if first == 'T' || first == 't' || first == ' ' then set rest else throw .invalid
  let hour ← fixed 2
  literal ':'
  let minute ← fixed 2
  literal ':'
  let second ← within 0 60 (← fixed 2)
  let nanosecond ← fraction
  let seconds ← offset .colon
  if seconds.natAbs ≤ 86340 then
    return (⟨year, month, day⟩, ⟨hour, minute, second, nanosecond⟩, seconds)
  throw .outOfRange

def offsetParts (isLetter : Bool) (style : OffsetStyle) :
    Scan (DateParts × TimeParts × Int) := do
  let (date, time) ← dateTimeParts isLetter
  blanks
  return (date, time, ← offset style)

def offsetDateTime (date : DateParts) (time : TimeParts) (offset : Int) :
    Except DateProblem OffsetDateTime := do
  let clock ← dateTime date time
  if offset.natAbs < 86400 then
    match OffsetDateTime.ofParts? clock offset with
    | some value => return value
    | none => throw .impossible
  throw .outOfRange

/-- The character that begins so many bytes behind the start of a text. -/
def characterAt? : Nat → List Char → Option Char
  | 0, text => text.head?
  | _ + 1, [] => none
  | count + 1, first :: rest =>
      if first.utf8Size ≤ count + 1 then characterAt? (count + 1 - first.utf8Size) rest
      else none

/-- A letter joins date and time if it stands where a year of four digits puts it. -/
def hasLetter (text : String) : Bool :=
  characterAt? 10 text.toList == some 'T'

end Scan

open Scan

def Date.read (text : String) : Except DateProblem Date := do
  let parts ← complete dateParts text.toList
  parts.date

def Time.read (text : String) : Except DateProblem Time := do
  let scan :=
    if text.utf8ByteSize = 5 then minuteParts
    else if text.utf8ByteSize = 8 then secondParts
    else timeParts
  let parts ← complete scan text.toList
  parts.time

def DateTime.read (text : String) : Except DateProblem DateTime := do
  let (date, time) ← complete (dateTimeParts (hasLetter text)) text.toList
  dateTime date time

namespace OffsetDateTime

def readIn (scan : Scan (DateParts × TimeParts × Int)) (text : String) :
    Except DateProblem OffsetDateTime := do
  let (date, time, offset) ← complete scan text.toList
  offsetDateTime date time offset

/-- The strict form comes first; the problem of the loose one is the one that is told. -/
def read (text : String) : Except DateProblem OffsetDateTime :=
  match readIn exchangeParts text with
  | .ok value => .ok value
  | .error _ => readIn (offsetParts false .spaced) text

end OffsetDateTime

/-- A text without an offset tells universal time. -/
def Instant.read (text : String) : Except DateProblem Instant :=
  let withOffset := OffsetDateTime.readIn (offsetParts (hasLetter text) .permissive) text
  match withOffset.toOption.bind OffsetDateTime.instant? with
  | some instant => .ok instant
  | none => (DateTime.read text).map Instant.mk

end DataAccess
