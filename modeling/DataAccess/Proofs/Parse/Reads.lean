/-
This file proves what the elementary parsers read of printed code, whatever stands behind it.
-/

import DataAccess.Compile.Template
import DataAccess.Parse.Parser

namespace DataAccess

namespace Parser

/-- The parser reads exactly the tokens and answers the result. -/
def Reads {Result : Type} (parser : Parser Result) (tokens : List Token) (result : Result) :
    Prop :=
  ∀ (stream : Stream) (rest : List Token), stream.tokens = tokens ++ rest →
    parser stream = .ok (result, { stream with tokens := rest })

/-- The parser reads the tokens when nothing stands behind them. -/
def ReadsAll {Result : Type} (parser : Parser Result) (tokens : List Token) (result : Result) :
    Prop :=
  ∀ stream : Stream, stream.tokens = tokens →
    parser stream = .ok (result, { stream with tokens := [] })

/-- Tokens that are read to the end leave nothing to complain about. -/
theorem ReadsAll.runWithin {Result : Type} {parser : Parser Result} {tokens : List Token}
    {result : Result} (reads : ReadsAll parser tokens result) (ending : Position) :
    Parser.runWithin ending parser tokens = .ok result := by
  simp only [Parser.runWithin, reads ⟨tokens, ending, none, none⟩ rfl]
  rfl

/-- A group is read when its inside is read, and what the inside leaves over is told. -/
theorem group_of_ok {Result : Type} {delimiter : Delimiter} {inside : Parser Result}
    {stream finished : Stream} {opening closing : Position} {inner rest : List Token}
    {value : Result} (standing : stream.tokens = .group delimiter opening closing inner :: rest)
    (within : inside ⟨inner, closing, some delimiter, stream.leftover⟩ = .ok (value, finished)) :
    group delimiter inside stream = .ok (⟨opening, closing, value⟩,
      { stream with tokens := rest, leftover := finished.leftover.or finished.rest? }) := by
  simp only [group, standing, if_true, within]

/-- A group whose inside fails fails with it. -/
theorem group_of_error {Result : Type} {delimiter : Delimiter} {inside : Parser Result}
    {stream : Stream} {opening closing : Position} {inner rest : List Token} {error : SyntaxError}
    (standing : stream.tokens = .group delimiter opening closing inner :: rest)
    (fails : inside ⟨inner, closing, some delimiter, stream.leftover⟩ = .error error) :
    group delimiter inside stream = .error error := by
  simp only [group, standing, if_true, fails]

/-- A group is read when its inside is read to the end. -/
theorem ReadsAll.group {Result : Type} {inside : Parser Result} {inner : List Token}
    {result : Result} (reads : ReadsAll inside inner result) (delimiter : Delimiter)
    (opening closing : Position) :
    Reads (Parser.group delimiter inside) [.group delimiter opening closing inner]
      ⟨opening, closing, result⟩ := by
  intro stream rest found
  rw [group_of_ok found (reads _ rfl)]
  cases stream.leftover <;> rfl

namespace Reads

variable {First Second : Type}

/-- What is read in front of everything is read in front of nothing. -/
theorem all {parser : Parser First} {tokens : List Token} {result : First}
    (reads : Reads parser tokens result) : ReadsAll parser tokens result := by
  intro stream found
  exact reads stream [] (by rw [found, List.append_nil])

/-- A result without reading reads nothing. -/
theorem pure (result : First) : Reads (Pure.pure result : Parser First) [] result := by
  intro stream rest found
  rw [List.nil_append] at found
  rw [← found]
  rfl

/-- What one parser reads and what the next one reads stand one after the other. -/
theorem bind {parser : Parser First} {next : First → Parser Second} {tokens more : List Token}
    {result : First} {final : Second} (reads : Reads parser tokens result)
    (goesOn : Reads (next result) more final) : Reads (parser >>= next) (tokens ++ more) final := by
  intro stream rest found
  rw [List.append_assoc] at found
  change (parser stream >>= fun pair => next pair.1 pair.2) = _
  rw [reads stream _ found]
  exact goesOn _ rest rfl

/-- Two parsers in a row read two pieces of code in a row. -/
theorem append {parser : Parser First} {next : First → Parser Second} {code more : Code}
    {result : First} {final : Second} (reads : Reads parser code.tokens result)
    (goesOn : Reads (next result) more.tokens final) :
    Reads (parser >>= next) (code ++ more).tokens final := by
  rw [Code.tokens_append]
  exact reads.bind goesOn

/-- What is made of a result does not matter to what is read. -/
theorem map {parser : Parser First} {tokens : List Token} {result : First}
    (reads : Reads parser tokens result) (convert : First → Second) :
    Reads (parser >>= fun found => Pure.pure (convert found)) tokens (convert result) := by
  have both : Reads (parser >>= fun found => Pure.pure (convert found)) (tokens ++ [])
      (convert result) := reads.bind (pure (convert result))
  rwa [List.append_nil] at both

/-- An attempt reads what its parser reads. -/
theorem attempt {parser : Parser First} {tokens : List Token} {result : First}
    (reads : Reads parser tokens result) :
    Reads (Parser.attempt parser) tokens (some result) := by
  intro stream rest found
  simp only [Parser.attempt, reads stream rest found]

/-- A test that holds of what stands next selects the first parser. -/
theorem ite_of_peek {test : List Token → Bool} {first second : Parser First}
    {tokens : List Token} {result : First}
    (holds : ∀ rest, test (tokens ++ rest) = true) (reads : Reads first tokens result) :
    Reads (do if ← peek test then first else second) tokens result := by
  intro stream rest found
  have tested : test stream.tokens = true := by
    rw [found]
    exact holds rest
  change (if test stream.tokens = true then first else second) stream = _
  rw [if_pos tested]
  exact reads stream rest found

/-- A look ahead that fails chooses the second parser. -/
theorem ite_of_not_peek {test : List Token → Bool} {first second : Parser First}
    {tokens : List Token} {result : First}
    (fails : ∀ rest, test (tokens ++ rest) = false) (reads : Reads second tokens result) :
    Reads (do if ← peek test then first else second) tokens result := by
  intro stream rest found
  have tested : test stream.tokens = false := by
    rw [found]
    exact fails rest
  change (if test stream.tokens = true then first else second) stream = _
  rw [tested, if_neg Bool.false_ne_true]
  exact reads stream rest found

end Reads

/-- The characters of an operator are taken from the tokens that print it. -/
theorem marksFrom_operatorOf (position : Position) (rest : List Token) (first : Char)
    (others : List Char) :
    marksFrom (first :: others) (Token.operatorOf position (first :: others) ++ rest) =
      some rest := by
  induction others generalizing first with
  | nil => simp [Token.operatorOf, marksFrom]
  | cons second others hypothesis =>
    have goesOn := hypothesis second
    simp only [Token.operatorOf, List.cons_append, marksFrom, beq_self_eq_true, Bool.and_self,
      if_true]
    exact goesOn

/-- A mark is read by its characters, and it stands where the tokens began. -/
theorem mark_apply (spelling : String) (stream : Stream) :
    mark spelling stream =
      (match marksFrom spelling.toList stream.tokens with
        | some rest => (do take rest; return stream.position : Parser Position)
        | none => failAt (.missingMark spelling) stream.position) stream := rfl

/-- A mark is read where it is printed. -/
theorem reads_operator (spelling : String) (written : spelling ≠ "") (position : Position) :
    Reads (mark spelling) (Token.operator spelling position) position := by
  intro stream rest found
  obtain ⟨first, others, characters⟩ : ∃ first others, spelling.toList = first :: others := by
    cases characters : spelling.toList with
    | nil => exact absurd (String.toList_eq_nil_iff.mp characters) written
    | cons first others => exact ⟨first, others, rfl⟩
  have placed : stream.position = position := by
    rw [Stream.position, found, Token.operator, characters]
    cases others <;> rfl
  have taken : marksFrom spelling.toList stream.tokens = some rest := by
    rw [found, Token.operator, characters, marksFrom_operatorOf]
  rw [mark_apply, taken, ← placed]
  rfl

/-- A mark of a single character is read whether or not it is joint to what stands behind it. -/
theorem reads_single {spelling : String} {character : Char}
    (single : spelling.toList = [character]) (joint : Bool) (position : Position) :
    Reads (mark spelling) [.mark character joint position] position := by
  intro stream rest found
  have taken : marksFrom spelling.toList stream.tokens = some rest := by
    rw [found, single]
    exact if_pos (beq_self_eq_true character)
  have placed : stream.position = position := by
    rw [Stream.position, found]
    rfl
  rw [mark_apply, taken, ← placed]
  rfl

/-- A keyword is read by the word that spells it. -/
theorem keyword_apply (spelling : String) (stream : Stream) :
    keyword spelling stream =
      (match stream.tokens with
        | .word name :: rest =>
            if name.text == spelling then (do take rest; return name.position : Parser Position)
            else failExpected [.token spelling]
        | _ => failExpected [.token spelling]) stream := rfl

/-- A keyword is read where it stands. -/
theorem reads_keyword (spelling : String) (position : Position) :
    Reads (keyword spelling) [Token.keyword spelling position] position := by
  intro stream rest found
  rw [keyword_apply, found]
  simp only [Token.keyword, List.cons_append, List.nil_append, beq_self_eq_true, if_true]
  rfl

/-- A word is read as it stands. -/
theorem reads_anyWord (name : Name) : Reads anyWord [.word name] name := by
  intro stream rest found
  cases stream
  cases found
  rfl

/-- An identifier is read unless it is reserved. -/
theorem reads_identifier {name : Name} (free : Text.Identifier.isReserved name.text = false) :
    Reads identifier [.word name] name := by
  intro stream rest found
  have read : identifier stream = (if Text.Identifier.isReserved name.text then
      failAt (.reservedWord name.text) name.position
    else (do take rest; return name : Parser Name)) stream := by
    cases stream
    cases found
    rfl
  rw [read, free]
  rfl

/-- A string literal is read by its token alone. -/
theorem stringLiteral_apply (stream : Stream) :
    stringLiteral stream =
      (match stream.tokens with
        | token :: rest =>
            (match StringLiteral.ofToken? token with
              | some literal => (do take rest; return literal : Parser StringLiteral)
              | none => failExpected [.stringLiteral])
        | [] => failExpected [.stringLiteral]) stream := rfl

/-- A string literal is read as its value. -/
theorem reads_stringLiteral {token : Token} {literal : StringLiteral}
    (spelled : StringLiteral.ofToken? token = some literal) :
    Reads stringLiteral [token] literal := by
  intro stream rest found
  rw [stringLiteral_apply, found]
  simp only [List.cons_append, List.nil_append, spelled]
  rfl

/-- A step that fails leaves an attempt with nothing. -/
theorem attempt_eq_none {Result : Type} {parser : Parser Result} {stream : Stream}
    {error : SyntaxError} (fails : parser stream = .error error) :
    attempt parser stream = .ok (none, stream) := by
  simp only [attempt, fails]

section Repetition

variable {Entry Result : Type} {step : Parser (Option Result)} {code : Entry → List Token}
  {value : Entry → Result}

/-- A repeated step goes on with one result more or ends with those that it has. -/
theorem repeatFrom_succ (step : Parser (Option Result)) (fuel : Nat) (found : List Result)
    (stream : Stream) :
    repeatFrom step (fuel + 1) found stream =
      (step stream >>= fun pair => (match pair.1 with
        | some result => repeatFrom step fuel (result :: found)
        | none => return found.reverse) pair.2) := rfl

/-- A repeated step reads entry after entry as long as it has fuel for them. -/
theorem repeatFrom_apply (reads : ∀ entry, Reads step (code entry) (some (value entry)))
    {after : List Token} (entries : List Entry) :
    ∀ (stream : Stream) (fuel : Nat) (found : List Result),
      stream.tokens = entries.flatMap code ++ after → entries.length < fuel →
      step { stream with tokens := after } = .ok (none, { stream with tokens := after }) →
      repeatFrom step fuel found stream =
        .ok (found.reverse ++ entries.map value, { stream with tokens := after }) := by
  -- The fuel only has to exceed the number of entries, so the induction is on them.
  induction entries with
  | nil =>
    intro stream fuel found standing enough stops
    obtain ⟨fuel, rfl⟩ : ∃ previous, fuel = previous + 1 := ⟨fuel - 1, by simp at enough; omega⟩
    have same : { stream with tokens := after } = stream := by
      rw [List.flatMap_nil, List.nil_append] at standing
      rw [← standing]
    rw [same] at stops ⊢
    rw [repeatFrom_succ, stops, List.map_nil, List.append_nil]
    rfl
  | cons entry entries hypothesis =>
    intro stream fuel found standing enough stops
    obtain ⟨fuel, rfl⟩ : ∃ previous, fuel = previous + 1 := ⟨fuel - 1, by simp at enough; omega⟩
    rw [List.flatMap_cons, List.append_assoc] at standing
    rw [repeatFrom_succ, reads entry stream _ standing]
    have goesOn := hypothesis { stream with tokens := entries.flatMap code ++ after } fuel
      (value entry :: found) rfl (by simpa using enough) stops
    rw [List.reverse_cons, List.append_assoc] at goesOn
    exact goesOn

/-- A repeated step reads entries up to where it finds none. -/
theorem repeatStep_apply (reads : ∀ entry, Reads step (code entry) (some (value entry)))
    (written : ∀ entry, code entry ≠ []) {after : List Token} (entries : List Entry)
    (stream : Stream) (standing : stream.tokens = entries.flatMap code ++ after)
    (stops : step { stream with tokens := after } = .ok (none, { stream with tokens := after })) :
    repeatStep step stream = .ok (entries.map value, { stream with tokens := after }) := by
  have enough : entries.length < stream.tokens.length + 1 := by
    have counted : entries.length ≤ (entries.flatMap code).length := by
      clear standing
      induction entries with
      | nil => simp
      | cons entry entries hypothesis =>
        have positive := List.length_pos_iff.mpr (written entry)
        rw [List.flatMap_cons, List.length_append, List.length_cons]
        omega
    rw [standing, List.length_append]
    omega
  exact repeatFrom_apply reads entries stream _ [] standing enough stops

end Repetition

end Parser

namespace Template

open DataAccess.Parser

/-- A word of a template is one token. -/
@[simp]
theorem tokens_word (spelling : String) :
    Code.tokens (word spelling) = [Token.keyword spelling .callSite] := rfl

/-- A mark of a template is an operator. -/
@[simp]
theorem tokens_mark (spelling : String) :
    Code.tokens (mark spelling) = Token.operator spelling .callSite :=
  Code.tokens_ofTokens _

/-- A name in a template is one token. -/
@[simp]
theorem tokens_named (name : Name) : Code.tokens (named name) = [.word name] := rfl

/-- A literal in a template is one token. -/
@[simp]
theorem tokens_spelled (literal : String) :
    Code.tokens (spelled literal) = [.literal literal .callSite] := rfl

/-- A text in a template is one token. -/
@[simp]
theorem tokens_text (value : String) :
    Code.tokens (text value) = [.literal (Text.Quoted.literal value) .callSite] := rfl

/-- A lifetime in a template is one token. -/
@[simp]
theorem tokens_lifetime (spelling : String) :
    Code.tokens (lifetime spelling) = [.lifetime ⟨spelling, .callSite⟩] := rfl

/-- Parentheses in a template are one group. -/
@[simp]
theorem tokens_parentheses (inner : Code) :
    Code.tokens (parentheses inner) = [.group .parenthesis .callSite .callSite inner.tokens] := rfl

/-- Braces in a template are one group. -/
@[simp]
theorem tokens_braces (inner : Code) :
    Code.tokens (braces inner) = [.group .brace .callSite .callSite inner.tokens] := rfl

/-- Brackets in a template are one group. -/
@[simp]
theorem tokens_brackets (inner : Code) :
    Code.tokens (brackets inner) = [.group .bracket .callSite .callSite inner.tokens] := rfl

/-- A word of a template is read as a keyword. -/
theorem reads_word (spelling : String) :
    Reads (Parser.keyword spelling) (Code.tokens (word spelling)) .callSite :=
  reads_keyword spelling .callSite

/-- A mark of a template is read as the mark. -/
theorem reads_mark (spelling : String) (written : spelling ≠ "") :
    Reads (Parser.mark spelling) (Code.tokens (mark spelling)) .callSite := by
  rw [tokens_mark]
  exact reads_operator spelling written .callSite

/-- A name in a template is read as the name. -/
theorem reads_named (name : Name) : Reads anyWord (Code.tokens (named name)) name :=
  reads_anyWord name

/-- Parentheses in a template are read with their inside. -/
theorem reads_parentheses {Result : Type} {inside : Parser Result} {inner : Code}
    {result : Result} (reads : Reads inside inner.tokens result) :
    Reads (Parser.group .parenthesis inside) (Code.tokens (parentheses inner))
      ⟨.callSite, .callSite, result⟩ :=
  reads.all.group .parenthesis .callSite .callSite

/-- Braces in a template are read with their inside. -/
theorem reads_braces {Result : Type} {inside : Parser Result} {inner : Code}
    {result : Result} (reads : Reads inside inner.tokens result) :
    Reads (Parser.group .brace inside) (Code.tokens (braces inner))
      ⟨.callSite, .callSite, result⟩ :=
  reads.all.group .brace .callSite .callSite

/-- Brackets in a template are read with their inside. -/
theorem reads_brackets {Result : Type} {inside : Parser Result} {inner : Code}
    {result : Result} (reads : Reads inside inner.tokens result) :
    Reads (Parser.group .bracket inside) (Code.tokens (brackets inner))
      ⟨.callSite, .callSite, result⟩ :=
  reads.all.group .bracket .callSite .callSite

end Template

end DataAccess
