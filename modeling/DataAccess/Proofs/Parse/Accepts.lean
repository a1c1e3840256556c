/-
This file proves where parsers succeed: what they read of given tokens and what they leave, whatever
their result is apart from a property of it.
-/

import DataAccess.Parse.Grammar
import DataAccess.Proofs.Parse.Reads

namespace DataAccess

namespace Parser

/-- The parser reads the standing tokens up to a rest, and its result has a property. -/
def Accepts {Result : Type} (parser : Parser Result) (standing rest : List Token)
    (holds : Result → Prop) : Prop :=
  ∀ stream : Stream, ∃ result,
    parser { stream with tokens := standing } = .ok (result, { stream with tokens := rest }) ∧
      holds result

/-- Two parsers in a row go on where the first one has read. -/
theorem bind_of_ok {First Second : Type} {first : Parser First} {second : First → Parser Second}
    {stream rest : Stream} {found : First} (read : first stream = .ok (found, rest)) :
    (first >>= second) stream = second found rest := by
  change (first stream >>= fun pair => second pair.1 pair.2) = _
  rw [read]
  rfl

/-- Two parsers in a row fail where the first one fails. -/
theorem bind_of_error {First Second : Type} {first : Parser First} {second : First → Parser Second}
    {stream : Stream} {error : SyntaxError} (fails : first stream = .error error) :
    (first >>= second) stream = .error error := by
  change (first stream >>= fun pair => second pair.1 pair.2) = _
  rw [fails]
  rfl

namespace Accepts

variable {First Second : Type} {parser other : Parser First} {next : First → Parser Second}
  {standing middle rest : List Token} {holds : First → Prop} {final : Second → Prop}

/-- What is read of every stream is accepted. -/
theorem of_eq {result : First}
    (read : ∀ stream : Stream, parser { stream with tokens := standing } =
      .ok (result, { stream with tokens := rest })) :
    Accepts parser standing rest fun found => found = result :=
  fun stream => ⟨result, read stream, rfl⟩

/-- What reads exactly some tokens accepts them in front of everything. -/
theorem of_reads {tokens : List Token} {result : First} (reads : Reads parser tokens result)
    (rest : List Token) : Accepts parser (tokens ++ rest) rest fun found => found = result :=
  of_eq fun _ => reads _ rest rfl

/-- A result with a property has every weaker one. -/
theorem imp {weaker : First → Prop} (accepts : Accepts parser standing rest holds)
    (weakens : ∀ found, holds found → weaker found) : Accepts parser standing rest weaker := by
  intro stream
  obtain ⟨result, read, held⟩ := accepts stream
  exact ⟨result, read, weakens result held⟩

/-- What is accepted is read of some stream. -/
theorem witnessed (accepts : Accepts parser standing rest holds) :
    Accepts parser standing rest fun found => holds found ∧ ∃ stream finished : Stream,
      parser stream = .ok (found, finished) ∧ stream.tokens = standing ∧
        finished.tokens = rest := by
  intro stream
  obtain ⟨result, read, held⟩ := accepts stream
  exact ⟨result, read, held, _, _, read, rfl, rfl⟩

/-- The property of a result can be forgotten. -/
theorem any (accepts : Accepts parser standing rest holds) :
    Accepts parser standing rest fun _ => True :=
  accepts.imp fun _ _ => trivial

/-- A result without reading leaves the tokens as they are. -/
theorem pure {result : First} (held : holds result) :
    Accepts (Pure.pure result) standing standing holds :=
  fun _ => ⟨result, rfl, held⟩

/-- Two parsers in a row accept what one leaves to the other. -/
theorem bind (starts : Accepts parser standing middle holds)
    (goesOn : ∀ found, holds found → Accepts (next found) middle rest final) :
    Accepts (parser >>= next) standing rest final := by
  intro stream
  obtain ⟨found, read, held⟩ := starts stream
  obtain ⟨result, further, answered⟩ := goesOn found held stream
  refine ⟨result, ?_, answered⟩
  change (parser { stream with tokens := standing } >>= fun pair => next pair.1 pair.2) = _
  rw [read]
  exact further

/-- Looking at the tokens leaves them as they are. -/
theorem look {next : List Token → Parser First}
    (accepts : Accepts (next standing) standing rest holds) :
    Accepts (tokens >>= next) standing rest holds :=
  accepts

/-- Looking at the stream leaves it as it is. -/
theorem lookAt {next : Stream → Parser First}
    (accepts : ∀ stream, Accepts (next stream) standing rest holds) :
    Accepts (get >>= next) standing rest holds :=
  fun stream => accepts _ stream

/-- A stream that is set back is read as if nothing had been looked at. -/
theorem setBack {next : Stream → Parser First}
    (same : ∀ stream : Stream, next { stream with tokens := standing }
      { stream with tokens := standing } = parser { stream with tokens := standing })
    (accepts : Accepts parser standing rest holds) :
    Accepts (get >>= next) standing rest holds := by
  intro stream
  obtain ⟨result, read, held⟩ := accepts stream
  exact ⟨result, (same stream).trans read, held⟩

/-- Where the tokens stand does not matter to whether they are read. -/
theorem positioned {next : Position → Parser First}
    (accepts : ∀ position, Accepts (next position) standing rest holds) :
    Accepts (position >>= next) standing rest holds :=
  fun stream => accepts _ stream

/-- What a parser answers does not matter to the next one. -/
theorem skip (starts : Accepts parser standing middle fun _ => True)
    (goesOn : ∀ found, Accepts (next found) middle rest final) :
    Accepts (parser >>= next) standing rest final :=
  starts.bind fun found _ => goesOn found

/-- What is made of a result has a property that follows from that of the result. -/
theorem map {convert : First → Second} (starts : Accepts parser standing rest holds)
    (answered : ∀ found, holds found → final (convert found)) :
    Accepts (parser >>= fun found => Pure.pure (convert found)) standing rest final :=
  starts.bind fun found held => pure (answered found held)

/-- What is made of a result by a map has a property that follows from that of the result. -/
theorem mapped {convert : First → Second} (accepts : Accepts parser standing rest holds)
    (answered : ∀ found, holds found → final (convert found)) :
    Accepts (convert <$> parser) standing rest final := by
  intro stream
  obtain ⟨found, read, held⟩ := accepts stream
  refine ⟨convert found, ?_, answered found held⟩
  change (parser { stream with tokens := standing } >>= fun pair =>
    Pure.pure (convert pair.1, pair.2)) = _
  rw [read]
  rfl

/-- A group is accepted when its inside is accepted to the end. -/
theorem group {delimiter : Delimiter} {opening closing : Position} {inner : List Token}
    {inside : Parser First} (within : Accepts inside inner [] holds) :
    Accepts (Parser.group delimiter inside) (.group delimiter opening closing inner :: rest) rest
      fun enclosed => holds enclosed.value := by
  intro stream
  obtain ⟨result, read, held⟩ := within ⟨[], closing, some delimiter, stream.leftover⟩
  refine ⟨⟨opening, closing, result⟩, ?_, held⟩
  have enclosed : Parser.group delimiter inside { stream with
      tokens := .group delimiter opening closing inner :: rest } = _ := group_of_ok rfl read
  rw [enclosed]
  cases stream.leftover <;> rfl

/-- Looking ahead answers the test of the tokens. -/
theorem peeked {test : List Token → Bool} {next : Bool → Parser First}
    (accepts : Accepts (next (test standing)) standing rest holds) :
    Accepts (peek test >>= next) standing rest holds :=
  accepts

/-- An attempt accepts what its parser accepts. -/
theorem attempt (accepts : Accepts parser standing rest holds) :
    Accepts (Parser.attempt parser) standing rest fun found =>
      ∃ result, found = some result ∧ holds result := by
  intro stream
  obtain ⟨result, read, held⟩ := accepts stream
  exact ⟨some result, by simp only [Parser.attempt, read], result, rfl, held⟩

/-- A condition that holds chooses the first parser. -/
theorem ite_true {condition : Bool} (tested : condition = true)
    (accepts : Accepts parser standing rest holds) :
    Accepts (if condition then parser else other) standing rest holds := by
  rwa [if_pos tested]

/-- A condition that fails chooses the second parser. -/
theorem ite_false {condition : Bool} (tested : condition = false)
    (accepts : Accepts other standing rest holds) :
    Accepts (if condition then parser else other) standing rest holds := by
  rwa [tested, if_neg Bool.false_ne_true]

/-- A test that holds of what stands next selects the first parser. -/
theorem peek_true {test : List Token → Bool} (tested : test standing = true)
    (accepts : Accepts parser standing rest holds) :
    Accepts (do if ← peek test then parser else other) standing rest holds :=
  ite_true tested accepts

/-- A look ahead that fails chooses the second parser. -/
theorem peek_false {test : List Token → Bool} (tested : test standing = false)
    (accepts : Accepts other standing rest holds) :
    Accepts (do if ← peek test then parser else other) standing rest holds := by
  change Accepts (if test standing then parser else other) standing rest holds
  exact ite_false tested accepts

/-- A test that fails settles a condition of which it is a part. -/
theorem guarded {test : List Token → Bool} {guard : Bool} (tested : test standing = false)
    (accepts : Accepts other standing rest holds) :
    Accepts (do if guard && (← peek test) then parser else other) standing rest holds := by
  change Accepts (if guard && test standing then parser else other) standing rest holds
  exact ite_false (by rw [tested, Bool.and_false]) accepts

/-- What is accepted to the end is read as a whole. -/
theorem run (accepts : Accepts parser standing [] holds) :
    ∃ result, Parser.run parser standing = .ok result ∧ holds result := by
  obtain ⟨result, read, held⟩ := accepts ⟨[], .callSite, none, none⟩
  refine ⟨result, ?_, held⟩
  rw [Parser.run, runWithin]
  rw [show (⟨standing, .callSite, none, none⟩ : Stream) =
    { (⟨[], .callSite, none, none⟩ : Stream) with tokens := standing } from rfl, read]
  rfl

end Accepts

section Elementary

variable {standing rest : List Token} {spelling : String} {position : Position}

/-- A mark accepts its operator. -/
theorem accepts_mark (spelling : String) (written : spelling ≠ "") :
    Accepts (mark spelling) (Token.operator spelling position ++ rest) rest fun _ => True :=
  (Accepts.of_reads (reads_operator spelling written position) rest).any

/-- A mark that is kept as code accepts its operator. -/
theorem accepts_markCode (spelling : String) (written : spelling ≠ "") :
    Accepts (markCode spelling) (Token.operator spelling position ++ rest) rest fun _ => True :=
  (accepts_mark spelling written).map fun _ _ => trivial

/-- A keyword accepts the word that spells it. -/
theorem accepts_keyword (spelling : String) :
    Accepts (keyword spelling) (Token.keyword spelling position :: rest) rest fun _ => True :=
  (Accepts.of_reads (reads_keyword spelling position) rest).any

/-- A keyword that is kept as code accepts the word that spells it. -/
theorem accepts_keywordCode (spelling : String) :
    Accepts (keywordCode spelling) (Token.keyword spelling position :: rest) rest fun _ => True :=
  (accepts_keyword spelling).map fun _ _ => trivial

/-- A mark that can be absent is not read where it is absent. -/
theorem accepts_mark?_of_absent (absent : Peek.mark spelling standing = false) :
    Accepts (mark? spelling) standing standing fun found => found = none :=
  .peek_false absent (.pure rfl)

/-- A mark that is kept as code and can be absent is not read where it is absent. -/
theorem accepts_markCode?_of_absent (absent : Peek.mark spelling standing = false) :
    Accepts (markCode? spelling) standing standing fun code => code = [] :=
  .peek_false absent (.pure rfl)

/-- A keyword that can be absent is not read where it is absent. -/
theorem accepts_keyword?_of_absent (absent : Peek.word spelling standing = false) :
    Accepts (keyword? spelling) standing standing fun found => found = none :=
  .peek_false absent (.pure rfl)

/-- A keyword that is kept as code and can be absent is not read where it is absent. -/
theorem accepts_keywordCode?_of_absent (absent : Peek.word spelling standing = false) :
    Accepts (keywordCode? spelling) standing standing fun code => code = [] :=
  .peek_false absent (.pure rfl)

end Elementary

/-- A step is repeated: it reads something as long as it can, and then finds nothing at the rest. -/
inductive Repeats {Result : Type} (step : Parser (Option Result)) (rest : List Token) :
    List Token → (List Result → Prop) → Prop
  | done {holds : List Result → Prop} (stops : Accepts step rest rest fun found => found = none)
      (held : holds []) : Repeats step rest rest holds
  | next {standing middle : List Token} {condition : Result → Prop} {holds : List Result → Prop}
      (reads : Accepts step standing middle fun found =>
        ∃ result, found = some result ∧ condition result)
      (shorter : middle.length < standing.length)
      (goesOn : ∀ result, condition result →
        Repeats step rest middle fun results => holds (result :: results)) :
      Repeats step rest standing holds

namespace Repeats

variable {Result : Type} {step : Parser (Option Result)} {standing rest : List Token}
  {holds : List Result → Prop}

/-- Results with a property have every weaker one. -/
theorem imp {weaker : List Result → Prop} (repeats : Repeats step rest standing holds)
    (weakens : ∀ results, holds results → weaker results) :
    Repeats step rest standing weaker := by
  induction repeats generalizing weaker with
  | done stops held => exact .done stops (weakens _ held)
  | next reads shorter goesOn hypothesis =>
    exact .next reads shorter fun result held =>
      hypothesis result held fun results => weakens (result :: results)

/-- A repeated step accepts its rounds if it has more fuel than there are tokens. -/
theorem repeatFrom (repeats : Repeats step rest standing holds) {fuel : Nat}
    (enough : standing.length < fuel) (found : List Result) :
    Accepts (Parser.repeatFrom step fuel found) standing rest fun results =>
      ∃ more, results = found.reverse ++ more ∧ holds more := by
  induction repeats generalizing fuel found with
  | done stops held =>
    obtain ⟨fuel, rfl⟩ : ∃ previous, fuel = previous + 1 := ⟨fuel - 1, by omega⟩
    refine stops.bind ?_
    rintro _ rfl
    exact .pure ⟨[], (List.append_nil _).symm, held⟩
  | next reads shorter goesOn hypothesis =>
    obtain ⟨fuel, rfl⟩ : ∃ previous, fuel = previous + 1 := ⟨fuel - 1, by omega⟩
    refine reads.bind ?_
    rintro _ ⟨result, rfl, held⟩
    refine (hypothesis result held (by omega) (result :: found)).imp ?_
    rintro _ ⟨more, rfl, answered⟩
    exact ⟨result :: more, by simp, answered⟩

/-- Each step but the last reads a token, so that the tokens are fuel enough. -/
theorem accepts (repeats : Repeats step rest standing holds) :
    Accepts (repeatStep step) standing rest holds := by
  refine Accepts.imp (repeats.repeatFrom (Nat.lt_succ_self _) []) ?_
  rintro _ ⟨more, rfl, held⟩
  exact held

end Repeats

/-- Entries with a comma between each two, of which each is read up to the comma behind it. -/
inductive Listed {Result : Type} (entry : Parser Result) : List Token → Prop
  | nil : Listed entry []
  | last {standing : List Token} (reads : Accepts entry standing [] fun _ => True) :
      Listed entry standing
  | next {standing behind : List Token} {position : Position}
      (reads : Accepts entry standing (.mark ',' false position :: behind) fun _ => True)
      (shorter : behind.length < standing.length) (goesOn : Listed entry behind) :
      Listed entry standing

namespace Listed

variable {Result : Type} {entry : Parser Result} {standing : List Token}

/-- The entries of a list are accepted if there is more fuel than tokens. -/
theorem listFrom (listed : Listed entry standing) {fuel : Nat} (enough : standing.length < fuel)
    (found : List (Separated Result)) :
    Accepts (Parser.listFrom List.isEmpty "," (fun rest => !rest.isEmpty) entry fuel found)
      standing [] fun _ => True := by
  induction listed generalizing fuel found with
  | nil =>
    obtain ⟨fuel, rfl⟩ : ∃ previous, fuel = previous + 1 := ⟨fuel - 1, by omega⟩
    exact fun _ => ⟨_, rfl, trivial⟩
  | @last standing reads =>
    obtain ⟨fuel, rfl⟩ : ∃ previous, fuel = previous + 1 := ⟨fuel - 1, by omega⟩
    cases standing with
    | nil => exact fun _ => ⟨_, rfl, trivial⟩
    | cons first more =>
      exact .peek_false rfl (reads.bind fun _ _ _ => ⟨_, rfl, trivial⟩)
  | @next standing behind position reads shorter goesOn hypothesis =>
    obtain ⟨fuel, rfl⟩ : ∃ previous, fuel = previous + 1 := ⟨fuel - 1, by omega⟩
    cases standing with
    | nil => exact absurd shorter (Nat.not_lt_zero _)
    | cons first more =>
      exact .peek_false rfl (reads.bind fun result _ =>
        hypothesis (by omega) (⟨result, some position⟩ :: found))

/-- A list that ends with its group is accepted. -/
theorem accepts (listed : Listed entry standing) :
    Accepts (terminated entry) standing [] fun _ => True :=
  listed.listFrom (Nat.lt_succ_self _) []

end Listed

end Parser

end DataAccess
