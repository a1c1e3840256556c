/-
This file proves that a text between quotes is read as the text that was written.
-/

import DataAccess.Source.Literal
import DataAccess.Text.Quoted

namespace DataAccess.Text.Quoted

/-- The number that hexadecimal digits write. -/
def hexadecimalNumber (digits : List Char) : Nat :=
  digits.foldl (fun value digit => value * 16 + Lexeme.hexadecimalValue digit) 0

/-- The digit of a number below sixteen is hexadecimal and has that value. -/
theorem digit_hexadecimal (digit : Fin 16) :
    Lexeme.isHexadecimal digit.val.digitChar = true ∧
      Lexeme.hexadecimalValue digit.val.digitChar = digit.val := by
  revert digit
  decide

/-- The hexadecimal digits of a number have its value. -/
theorem hexadecimalNumber_toDigits (number : Nat) :
    hexadecimalNumber (Nat.toDigits 16 number) = number := by
  induction number using Nat.strongRecOn with
  | ind number hypothesis =>
    rw [Nat.toDigits_eq_if (by decide)]
    split
    next small =>
      have digit := (digit_hexadecimal ⟨number, small⟩).2
      simpa [hexadecimalNumber] using digit
    next large =>
      have front := hypothesis (number / 16) (by omega)
      have digit : Lexeme.hexadecimalValue (number % 16).digitChar = number % 16 :=
        (digit_hexadecimal ⟨number % 16, Nat.mod_lt _ (by decide)⟩).2
      rw [hexadecimalNumber] at front
      rw [hexadecimalNumber, List.foldl_append, front, List.foldl_cons, List.foldl_nil, digit]
      omega

/-- A number is written with the digits of numbers below the base. -/
theorem exists_digit_of_mem_toDigits {number : Nat} {character : Char}
    (member : character ∈ Nat.toDigits 16 number) :
    ∃ digit : Fin 16, character = digit.val.digitChar := by
  induction number using Nat.strongRecOn with
  | ind number hypothesis =>
    rw [Nat.toDigits_eq_if (by decide)] at member
    split at member
    next small => exact ⟨⟨number, small⟩, List.mem_singleton.mp member⟩
    next large =>
      rcases List.mem_append.mp member with front | last
      · exact hypothesis (number / 16) (by omega) front
      · exact ⟨⟨number % 16, Nat.mod_lt _ (by decide)⟩, List.mem_singleton.mp last⟩

/-- The hexadecimal digits of a number are hexadecimal digits. -/
theorem isHexadecimal_of_mem_toDigits {number : Nat} {character : Char}
    (member : character ∈ Nat.toDigits 16 number) : Lexeme.isHexadecimal character = true := by
  obtain ⟨digit, rfl⟩ := exists_digit_of_mem_toDigits member
  exact (digit_hexadecimal digit).1

/-- Digits behind others are read as long as there are at most six of them. -/
theorem unicodeDigits_append (digits rest : List Char) (count value : Nat)
    (numeric : ∀ digit ∈ digits, Lexeme.isHexadecimal digit = true)
    (short : count + digits.length ≤ 6) :
    Lexeme.unicodeDigits count value (digits ++ rest) =
      Lexeme.unicodeDigits (count + digits.length)
        (digits.foldl (fun value digit => value * 16 + Lexeme.hexadecimalValue digit) value)
        rest := by
  induction digits generalizing count value with
  | nil => rfl
  | cons digit digits hypothesis =>
    rw [List.length_cons] at short
    have room : (count == 6) = false := by
      rw [beq_eq_false_iff_ne]
      omega
    rw [List.cons_append, Lexeme.unicodeDigits, if_pos (numeric digit List.mem_cons_self), room,
      if_neg Bool.false_ne_true,
      hypothesis (count + 1) _ (fun other member => numeric other (List.mem_cons_of_mem _ member))
        (by omega), List.foldl_cons, List.length_cons]
    congr 1
    omega

/-- The number of a character is read as the character. -/
theorem unicodeDigits_hexadecimal (character : Char) (rest : List Char) :
    Lexeme.unicodeDigits 0 0 ((hexadecimal character.toNat).toList ++ '}' :: rest) =
      some (character, rest) := by
  have valid : character.toNat < 0xd800 ∨ 0xdfff < character.toNat ∧ character.toNat < 0x110000 :=
    character.valid
  have short : (Nat.toDigits 16 character.toNat).length ≤ 6 :=
    (Nat.length_toDigits_le_iff (by decide) (by decide)).mpr (by omega)
  have positive : (Nat.toDigits 16 character.toNat).length ≠ 0 := by
    have present : 0 < (Nat.toDigits 16 character.toNat).length := Nat.length_toDigits_pos
    omega
  have number := hexadecimalNumber_toDigits character.toNat
  rw [hexadecimalNumber] at number
  rw [hexadecimal, String.toList_ofList, unicodeDigits_append _ _ 0 0
    (fun _ member => isHexadecimal_of_mem_toDigits member) (by omega), number, Nat.zero_add,
    Lexeme.unicodeDigits]
  have brace : Lexeme.isHexadecimal '}' = false := by decide
  have counted : ((Nat.toDigits 16 character.toNat).length != 0) = true := bne_iff_ne.mpr positive
  have scalar : (decide (character.toNat < 0xd800) ||
      decide (0xdfff < character.toNat) && decide (character.toNat < 0x110000)) = true := by
    simpa using valid
  rw [brace, counted]
  simp only [scalar]
  rw [Char.ofNat_toNat]
  rfl

/-- What is written for a character between quotes, before the characters that follow it. -/
def written (character : Char) (rest : List Char) : String :=
  if character == '\x00' then
    match rest with
    | next :: _ => if '0' ≤ next && next ≤ '7' then "\\x00" else "\\0"
    | [] => "\\0"
  else escape character

/-- The body of a literal is written character by character. -/
theorem literalBody_cons (character : Char) (rest : List Char) :
    literalBody (character :: rest) = written character rest ++ literalBody rest := rfl

open StringLiteral (quotedValue)

/-- A character that is neither a quote, a backslash nor a carriage return stands for itself. -/
theorem quotedValue_plain {character : Char} (fuel : Nat) (tail : List Char)
    (quote : character ≠ '"') (backslash : character ≠ '\\') (ending : character ≠ '\r') :
    quotedValue (fuel + 1) (character :: tail) = character :: quotedValue fuel tail := by
  rw [quotedValue]
  · exact quote
  · exact fun _ same _ => ending same
  · exact fun _ same _ => backslash same
  · exact fun _ same _ => backslash same
  · exact backslash

/-- An escaped number is read as the character of the number. -/
theorem quotedValue_unicode (fuel : Nat) (digits : List Char) :
    quotedValue (fuel + 1) ('\\' :: 'u' :: '{' :: digits) =
      match Lexeme.unicodeDigits 0 0 digits with
      | some (found, rest) => found :: quotedValue fuel rest
      | none => [] := rfl

/-- A character that is written by its number is read as the character. -/
theorem quotedValue_number (character : Char) (fuel : Nat) (tail : List Char) :
    quotedValue (fuel + 1)
        (("\\u\x7b" ++ hexadecimal character.toNat ++ "\x7d").toList ++ tail) =
      character :: quotedValue fuel tail := by
  have spelled : ("\\u\x7b" ++ hexadecimal character.toNat ++ "\x7d").toList ++ tail =
      '\\' :: 'u' :: '{' :: ((hexadecimal character.toNat).toList ++ '}' :: tail) := by
    rw [String.toList_append, String.toList_append, List.append_assoc, List.append_assoc]
    rfl
  rw [spelled, quotedValue_unicode, unicodeDigits_hexadecimal]

/-- An escaped character is read as that character. -/
theorem quotedValue_escape (character : Char) (fuel : Nat) (tail : List Char) :
    quotedValue (fuel + 1) ((escape character).toList ++ tail) =
      character :: quotedValue fuel tail := by
  by_cases tab : character = '\t'
  · rw [tab]
    rfl
  by_cases ending : character = '\r'
  · rw [ending]
    rfl
  by_cases line : character = '\n'
  · rw [line]
    rfl
  by_cases quote : character = '"'
  · rw [quote]
    rfl
  by_cases backslash : character = '\\'
  · rw [backslash]
    rfl
  simp only [escape, beq_iff_eq, tab, ending, line, quote, backslash, if_false]
  split
  · exact quotedValue_number character fuel tail
  · have single : character.toString.toList = [character] := by simp
    rw [single, List.singleton_append]
    exact quotedValue_plain fuel tail quote backslash ending

/-- An escaped character is read as the character. -/
theorem quotedValue_written (character : Char) (rest tail : List Char) (fuel : Nat) :
    quotedValue (fuel + 1) ((written character rest).toList ++ tail) =
      character :: quotedValue fuel tail := by
  unfold written
  split
  next null =>
    rw [eq_of_beq null]
    split
    next => split <;> rfl
    next => rfl
  next => exact quotedValue_escape character fuel tail

/-- The body of a literal is read as the characters it was written for. -/
theorem quotedValue_literalBody (characters : List Char) (fuel : Nat)
    (enough : characters.length < fuel) :
    quotedValue fuel ((literalBody characters).toList ++ ['"']) = characters := by
  induction characters generalizing fuel with
  | nil =>
    obtain ⟨fuel, rfl⟩ : ∃ previous, fuel = previous + 1 := ⟨fuel - 1, by simp at enough; omega⟩
    rfl
  | cons character rest hypothesis =>
    obtain ⟨fuel, rfl⟩ : ∃ previous, fuel = previous + 1 := ⟨fuel - 1, by simp at enough; omega⟩
    rw [literalBody_cons, String.toList_append, List.append_assoc, quotedValue_written,
      hypothesis fuel (by simpa using enough)]

/-- Every character is written with at least one. -/
theorem length_le_literalBody (characters : List Char) :
    characters.length ≤ (literalBody characters).toList.length := by
  induction characters with
  | nil => exact Nat.zero_le _
  | cons character rest hypothesis =>
    have present : (written character rest).toList ≠ [] := by
      intro absent
      have read := quotedValue_written character rest [] 0
      rw [absent] at read
      exact nomatch read
    have positive := List.length_pos_iff.mpr present
    rw [literalBody_cons, String.toList_append, List.length_append, List.length_cons]
    omega

/-- A quoted text is the literal of the text. -/
theorem value_literal (text : String) (position : Position) :
    StringLiteral.value ⟨literal text, position⟩ = text := by
  have opened : (literal text).toList = '"' :: ((literalBody text.toList).toList ++ ['"']) := by
    rw [literal, String.toList_append, String.toList_append]
    rfl
  have long := length_le_literalBody text.toList
  rw [StringLiteral.value]
  simp only [opened]
  rw [quotedValue_literalBody _ _ (by rw [List.length_append, List.length_singleton]; omega),
    String.ofList_toList]

end DataAccess.Text.Quoted
