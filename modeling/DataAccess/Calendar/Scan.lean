/-
This file scans the parts of written dates and times. Numbers may have white space in front of
them, and a part that is out of range is refused before anything behind it is looked at.
-/

import DataAccess.Text.Decimal
import DataAccess.Text.Whitespace

namespace DataAccess

/-- Why a text is no date or time. -/
inductive DateProblem where
  | invalid
  | tooShort
  | trailing
  | outOfRange
  | impossible
deriving DecidableEq, Repr

def DateProblem.message : DateProblem → String
  | .invalid => "input contains invalid characters"
  | .tooShort => "premature end of input"
  | .trailing => "trailing input"
  | .outOfRange => "input is out of range"
  | .impossible => "no possible date and time matching input"

/-- A scan takes a part off the front of a text. -/
abbrev Scan (Part : Type) : Type :=
  StateT (List Char) (Except DateProblem) Part

namespace Scan

/-- Scans a whole text. -/
def complete {Part : Type} (scan : Scan Part) (text : List Char) : Except DateProblem Part :=
  match scan text with
  | .error problem => .error problem
  | .ok (part, []) => .ok part
  | .ok (_, _ :: _) => .error .trailing

def literal (expected : Char) : Scan Unit := fun text =>
  match text with
  | [] => .error .tooShort
  | first :: rest => if first == expected then .ok ((), rest) else .error .invalid

def blanks : Scan Unit := fun text =>
  .ok ((), text.dropWhile Text.isWhitespace)

/-- A number of at least one digit and at most so many. -/
def numeral (most : Nat) : Scan Nat := fun text =>
  match text with
  | [] => .error .tooShort
  | _ :: _ =>
      let digits := (text.take most).takeWhile Char.isDigit
      if digits.isEmpty then .error .invalid
      else .ok (Text.Decimal.valueOf digits, text.drop digits.length)

/-- A number of exactly so many digits. -/
def fixed (width : Nat) : Scan Nat := fun text =>
  let digits := text.take width
  if digits.length < width then .error .tooShort
  else if digits.all Char.isDigit then .ok (Text.Decimal.valueOf digits, text.drop width)
  else .error .invalid

def within (least greatest value : Nat) : Scan Nat :=
  if least ≤ value ∧ value ≤ greatest then return value else throw .outOfRange

/-- A part of one or two digits. -/
def part (least greatest : Nat) : Scan Nat := do
  blanks
  within least greatest (← numeral 2)

def longYear (limit : Nat) (sign : Int) : Scan Int := fun text =>
  match numeral text.length text with
  | .error problem => .error problem
  | .ok (value, rest) =>
      if value ≤ limit then .ok (sign * value, rest) else .error .outOfRange

/-- A year behind a sign has any number of digits that fits a word of 32 bits; one without a sign
has at most four. -/
def year : Scan Int := do
  blanks
  match ← get with
  | '-' :: rest =>
      set rest
      longYear (UInt32.size / 2) (-1)
  | '+' :: rest =>
      set rest
      longYear (UInt32.size / 2 - 1) 1
  | _ => return Int.ofNat (← numeral 4)

/-- The nanoseconds of a fraction, which may be missing; digits behind the ninth do not count. -/
def fraction : Scan Nat := fun text =>
  match text with
  | '.' :: rest =>
      match numeral 9 rest with
      | .error problem => .error problem
      | .ok (value, after) =>
          let missing := 9 - (rest.length - after.length)
          .ok (value * Nat.pow 10 missing, after.dropWhile Char.isDigit)
  | _ => .ok (0, text)

/-- Two digits; a last character counts as too short only when it is a single byte. -/
def pair : Scan Nat := fun text =>
  match text with
  | [] => .error .tooShort
  | [last] => if last.utf8Size = 1 then .error .tooShort else .error .invalid
  | first :: second :: rest =>
      if first.isDigit && second.isDigit then
        .ok (Text.Decimal.valueOf [first, second], rest)
      else .error .invalid

/-- The sign of an offset; the minus sign of typography is one too. -/
def sign : Scan Int := fun text =>
  match text with
  | [] => .error .tooShort
  | first :: rest =>
      if first == '+' then .ok (1, rest)
      else if first == '-' || first == '\u2212' then .ok (-1, rest)
      else .error .invalid

/-- What may stand between the hours and the minutes of an offset. -/
inductive OffsetStyle where
  | colon
  | spaced
  | permissive
deriving DecidableEq, Repr

namespace OffsetStyle

/-- The letter Z can stand for an offset of zero, except in the spaced style. -/
def admitsLetter : OffsetStyle → Bool
  | .colon | .permissive => true
  | .spaced => false

def separator : OffsetStyle → Scan Unit
  | .colon => literal ':'
  | .spaced | .permissive => fun text =>
      .ok ((), text.dropWhile fun character => character == ':' || Text.isWhitespace character)

/-- Minutes can be missing at the end of a permissive offset. -/
def minutes (style : OffsetStyle) : Scan Nat := do
  if style == .permissive && (← get).isEmpty then return 0
  within 0 59 (← pair)

end OffsetStyle

def numericOffset (style : OffsetStyle) : Scan Int := do
  let sign ← sign
  let hours ← pair
  style.separator
  let minutes ← style.minutes
  return sign * (hours * 3600 + minutes * 60)

/-- An offset in seconds. -/
def offset (style : OffsetStyle) : Scan Int := do
  match ← get with
  | first :: rest =>
      if style.admitsLetter && (first == 'Z' || first == 'z') then
        set rest
        return 0
      numericOffset style
  | [] => numericOffset style

end Scan

end DataAccess
