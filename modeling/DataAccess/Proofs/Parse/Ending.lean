/-
This file compares what is read in front of the semicolon that ends a declared method with what is
read in front of a body: parsers that neither of the two can mislead read the same.
-/

import DataAccess.Proofs.Parse.Accepts
import DataAccess.Proofs.Parse.Forward

namespace DataAccess

namespace Parser

/-- The two ends of a method: a semicolon, or a body between braces, with the same behind it. -/
structure Ending where
  joint : Bool
  position : Position
  opening : Position
  closing : Position
  inner : List Token
  behind : List Token

namespace Ending

/-- The tokens from the semicolon on. -/
def declared (ending : Ending) : List Token :=
  .mark ';' ending.joint ending.position :: ending.behind

/-- The tokens from the body on. -/
def implemented (ending : Ending) : List Token :=
  .group .brace ending.opening ending.closing ending.inner :: ending.behind

/-- Both ends are one token, so that the tokens in front of them are followed by equally many. -/
theorem length_append_declared (ending : Ending) (front : List Token) :
    (front ++ ending.declared).length = (front ++ ending.implemented).length := by
  simp only [List.length_append, declared, implemented, List.length_cons]

end Ending

/-- A test does not tell the two ends apart, whatever stands in front of them. -/
class TestsFront (test : List Token → Bool) : Prop where
  agrees : ∀ (ending : Ending) (front : List Token),
    test (front ++ ending.declared) = test (front ++ ending.implemented)

/-- What the first parser reads of a front before the semicolon, the second one reads of it before
the body. -/
def Agree {Result : Type} (ending : Ending) (front : List Token) (first second : Parser Result) :
    Prop :=
  ∀ (stream finished : Stream) (left : List Token) (result : Result),
    stream.tokens = front ++ ending.declared → first stream = .ok (result, finished) →
    finished.tokens = left ++ ending.declared →
    second { stream with tokens := front ++ ending.implemented } =
      .ok (result, { finished with tokens := left ++ ending.implemented })

/-- Reading moves forward, and what is read before the semicolon is also read before the body. -/
class ReadsFront {Result : Type} (parser : Parser Result) : Prop where
  forward : Forward parser
  agrees : ∀ ending front, Agree ending front parser parser

/-- Nothing is read where the semicolon stands. -/
def Stops {Result : Type} (parser : Parser Result) : Prop :=
  ∀ (ending : Ending) (stream : Stream), stream.tokens = ending.declared →
    ∃ error, parser stream = .error error

/-- What is taken would also be taken in front of anything else. -/
def Takes {Result : Type} (parser : Parser Result) : Prop :=
  ∀ tokens, Answers tokens parser fun result rest =>
    ∃ taken, tokens = taken ++ rest ∧ Reads parser taken result

namespace TestsFront

variable {first second test : List Token → Bool}

/-- A test of the first token that fails at both ends. -/
theorem of_head (here : ∀ ending : Ending, test ending.declared = test ending.implemented)
    (further : ∀ token front rest, test (token :: (front ++ rest)) = test (token :: front)) :
    TestsFront test where
  agrees ending front := by
    cases front with
    | nil => exact here ending
    | cons token front =>
      rw [List.cons_append, List.cons_append, further, further]

/-- A test that looks at nothing tells nothing apart. -/
instance (found : Bool) : TestsFront fun _ => found where
  agrees _ _ := rfl

/-- A test that asks for two things is made of two that tell nothing apart. -/
instance [one : TestsFront first] [other : TestsFront second] :
    TestsFront fun tokens => first tokens && second tokens where
  agrees ending front := by rw [one.agrees, other.agrees]

/-- A test that asks for one of two things is made of two that tell nothing apart. -/
instance [one : TestsFront first] [other : TestsFront second] :
    TestsFront fun tokens => first tokens || second tokens where
  agrees ending front := by rw [one.agrees, other.agrees]

/-- A test for the absence of something tells as little apart as the one for its presence. -/
instance [tests : TestsFront test] : TestsFront fun tokens => !test tokens where
  agrees ending front := by rw [tests.agrees]

/-- Both ends are one token, so that what is dropped reaches equally far. -/
instance [tests : TestsFront test] (count : Nat) :
    TestsFront fun tokens => test (tokens.drop count) where
  agrees ending front := by
    by_cases within : count ≤ front.length
    · rw [List.drop_append_of_le_length within, List.drop_append_of_le_length within,
        tests.agrees]
    · obtain ⟨more, rfl⟩ : ∃ more, count = front.length + (more + 1) :=
        ⟨count - front.length - 1, by omega⟩
      rw [List.drop_length_add_append, List.drop_length_add_append]
      rfl

/-- Neither end is empty. -/
instance : TestsFront List.isEmpty := of_head (fun _ => rfl) fun _ _ _ => rfl

/-- Neither end begins with a word. -/
instance (spelling : String) : TestsFront (Peek.word spelling) :=
  of_head (fun _ => rfl) fun token _ _ => by cases token <;> rfl

/-- Neither end is a word, whichever it be. -/
instance : TestsFront Peek.anyWord :=
  of_head (fun _ => rfl) fun token _ _ => by cases token <;> rfl

/-- Neither end is an identifier. -/
instance : TestsFront Peek.identifier :=
  of_head (fun _ => rfl) fun token _ _ => by cases token <;> rfl

/-- Neither end is a lifetime. -/
instance : TestsFront Peek.lifetime :=
  of_head (fun _ => rfl) fun token _ _ => by cases token <;> rfl

/-- Neither end is a string literal. -/
instance : TestsFront Peek.stringLiteral :=
  of_head (fun _ => rfl) fun token _ _ => by cases token <;> rfl

/-- Neither end is a group in parentheses. -/
instance : TestsFront (Peek.group .parenthesis) :=
  of_head (fun _ => rfl) fun token _ _ => by cases token <;> rfl

/-- Neither end is a group in brackets. -/
instance : TestsFront (Peek.group .bracket) :=
  of_head (fun _ => rfl) fun token _ _ => by cases token <;> rfl

/-- Neither end is one of several words. -/
instance (spellings : List String) : TestsFront (Peek.anyOf spellings) where
  agrees ending front := by
    have same : ∀ spelling, Peek.word spelling (front ++ ending.declared) =
        Peek.word spelling (front ++ ending.implemented) := fun _ => agrees ending front
    simp only [Peek.anyOf, same]

/-- A literal is told by two tokens, of which the second one can only be a number. -/
instance : TestsFront Peek.literal where
  agrees ending front := by
    match front with
    | [] => rfl
    | [token] =>
      cases token with
      | mark character =>
        by_cases sign : character = '-' <;>
          simp [Peek.literal, sign, Ending.declared, Ending.implemented]
      | _ => rfl
    | first :: second :: more =>
      have further (rest : List Token) :
          Peek.literal (first :: second :: rest) = Peek.literal [first, second] := by
        cases first with
        | mark character =>
          by_cases sign : character = '-'
          · subst sign
            cases second <;> rfl
          · simp [Peek.literal, sign]
        | _ => rfl
      simp only [List.cons_append, further]

/-- A mark without a semicolon ends in front of both. -/
theorem marks {characters : List Char} (absent : ';' ∉ characters) :
    TestsFront (Peek.marks characters) where
  agrees ending front := by
    induction characters generalizing front with
    | nil => rfl
    | cons first others hypothesis =>
      rw [List.mem_cons, not_or] at absent
      cases front with
      | nil =>
        have differs : (first == ';') = false := beq_eq_false_iff_ne.mpr (Ne.symm absent.1)
        cases others <;> simp [Peek.marks, Ending.declared, Ending.implemented, differs]
      | cons token front =>
        cases token with
        | mark found joint =>
          cases others with
          | nil => rfl
          | cons second more =>
            simp only [List.cons_append, Peek.marks]
            rw [hypothesis absent.2]
        | _ => cases others <;> rfl

/-- A mark is tested alike if no semicolon is part of it. -/
theorem mark {spelling : String} (absent : ';' ∉ spelling.toList) :
    TestsFront (Peek.mark spelling) :=
  marks absent

end TestsFront

namespace Takes

/-- The characters of a mark are taken from as many tokens, and so they are in front of anything
else. -/
theorem marksFrom {characters : List Char} {tokens rest : List Token}
    (found : Parser.marksFrom characters tokens = some rest) : ∃ token taken,
      tokens = token :: taken ++ rest ∧
        ∀ more, Parser.marksFrom characters (token :: taken ++ more) = some more := by
  induction characters generalizing tokens with
  | nil => exact nomatch found
  | cons first others hypothesis =>
    obtain ⟨_, _, _, _, rfl, _⟩ := Answers.marksFrom_suffix found
    cases others with
    | nil =>
      obtain ⟨spelled, same⟩ := Option.ite_none_right_eq_some.mp found
      cases same
      exact ⟨_, [], rfl, fun more => if_pos spelled⟩
    | cons second others =>
      obtain ⟨spelled, goesOn⟩ := Option.ite_none_right_eq_some.mp found
      obtain ⟨token, taken, rfl, again⟩ := hypothesis goesOn
      exact ⟨_, token :: taken, rfl, fun more => (if_pos spelled).trans (again more)⟩

/-- A mark is taken with the place of its first character. -/
theorem mark {spelling : String} : Takes (Parser.mark spelling) := by
  intro tokens
  apply Answers.lookAt
  intro stream stands
  split
  next rest taken =>
    obtain ⟨token, taken, same, again⟩ := marksFrom taken
    refine .take ⟨token :: taken, stands ▸ same, fun other rest standing => ?_⟩
    rw [mark_apply, standing, again]
    have placed : other.position = stream.position := by
      rw [Stream.position, Stream.position, standing, same]
      rfl
    rw [← placed]
    rfl
  next => exact .failAt

/-- A keyword takes the one token that spells it. -/
theorem keyword {spelling : String} : Takes (Parser.keyword spelling) :=
  fun _ => Answers.keyword.imp fun _ _ same => ⟨[_], same, reads_keyword _ _⟩

/-- A word takes one token. -/
theorem anyWord : Takes Parser.anyWord :=
  fun _ => Answers.anyWord.imp fun _ _ same => ⟨[_], same, reads_anyWord _⟩

/-- An identifier takes one token, which is no reserved word. -/
theorem identifier : Takes Parser.identifier := by
  refine fun _ => Answers.identifier.imp fun name rest found => ⟨[_], found.1, ?_⟩
  rintro ⟨_, _, _, _⟩ rest rfl
  exact congrFun (if_neg (Bool.not_eq_true _ ▸ found.2)) _

/-- A lifetime takes one token. -/
theorem lifetime : Takes Parser.lifetime := by
  refine fun _ => Answers.lifetime.imp fun name rest found => ⟨[_], found, ?_⟩
  rintro ⟨_, _, _, _⟩ _ rfl
  rfl

/-- A string literal takes one token. -/
theorem stringLiteral : Takes Parser.stringLiteral := by
  refine fun _ => Answers.stringLiteral.imp fun literal rest => ?_
  rintro ⟨token, same, found⟩
  refine ⟨[token], same, fun stream rest standing => ?_⟩
  rw [stringLiteral_apply, standing]
  simp only [List.singleton_append, found]
  rfl

/-- A literal takes one token, or two if it begins with a sign. -/
theorem literal : Takes Parser.literal := by
  intro standing
  unfold Parser.literal
  apply Answers.look
  split
  next =>
    refine .take ⟨[_], rfl, ?_⟩
    rintro ⟨_, _, _, _⟩ rest rfl
    rfl
  next =>
    split
    next truth =>
      refine .take ⟨[_], rfl, ?_⟩
      rintro ⟨_, _, _, _⟩ rest rfl
      exact congrFun (if_pos truth) _
    next => exact .failExpected
  next =>
    split
    next number =>
      refine .take ⟨[_, _], rfl, ?_⟩
      rintro ⟨_, _, _, _⟩ rest rfl
      exact congrFun (if_pos number) _
    next => exact .failExpected
  next => exact .failExpected

/-- A group takes one token, with everything inside. -/
theorem anyGroup : Takes Parser.anyGroup := by
  intro standing
  apply Answers.look
  split
  next =>
    refine .take ⟨[_], rfl, ?_⟩
    rintro ⟨_, _, _, _⟩ _ rfl
    rfl
  next => exact .failExpected

end Takes

section Instances

variable {First Second : Type} {first second : Parser First} {next other : First → Parser Second}
  {ending : Ending} {front : List Token}

namespace Agree

/-- Two parsers that fail before the semicolon agree. -/
theorem of_error (fails : ∀ stream, ∃ error, first stream = .error error) :
    Agree ending front first second := by
  intro stream _ _ _ _ done _
  obtain ⟨error, failed⟩ := fails stream
  rw [failed] at done
  exact nomatch done

/-- What takes no token answers the same. -/
theorem pure {result : First} : Agree ending front (Pure.pure result) (Pure.pure result) := by
  intro stream finished left value standing done ends
  cases done
  obtain rfl := List.append_cancel_right (standing.symm.trans ends)
  rfl

/-- The semicolon stands behind what the first parser has read, as the second one moves forward. -/
theorem bind (starts : Agree ending front first second) (moves : ∀ found, Forward (next found))
    (goesOn : ∀ found front, Agree ending front (next found) (other found)) :
    Agree ending front (first >>= next) (second >>= other) := by
  intro stream finished left result standing done ends
  obtain ⟨found, middle, before, behind⟩ := bind_eq_ok done
  obtain ⟨passed, stands⟩ := (moves found).suffix _ _ _ _ rfl behind
  rw [ends, ← List.append_assoc] at stands
  rw [bind_of_ok (starts _ _ _ _ standing before stands.symm)]
  exact goesOn found _ _ _ _ _ stands.symm behind ends

/-- A condition that both parsers share chooses two that agree. -/
theorem ifElse {condition : Prop} [Decidable condition] {third fourth : Parser First}
    (one : Agree ending front first second) (another : Agree ending front third fourth) :
    Agree ending front (if condition then first else third)
      (if condition then second else fourth) := by
  split <;> assumption

/-- What the first parser sees of the tokens ends in a semicolon, what the second one sees in a
body. -/
theorem look {next other : List Token → Parser First}
    (agree : Agree ending front (next (front ++ ending.declared))
      (other (front ++ ending.implemented))) :
    Agree ending front (tokens >>= next) (tokens >>= other) := by
  intro stream finished left result standing done ends
  obtain ⟨_, _, before, behind⟩ := bind_eq_ok done
  cases before
  rw [standing] at behind
  exact agree _ _ _ _ standing behind ends

/-- What stands next is the same in front of both ends, unless the front is empty. -/
theorem positioned {next other : Position → Parser First}
    (agree : ∀ place, Agree ending front (next place) (other place))
    (there : ∀ one another, Agree ending [] (next one) (other another)) :
    Agree ending front (position >>= next) (position >>= other) := by
  intro stream finished left result standing done ends
  cases front with
  | nil => exact there _ _ stream finished left result standing done ends
  | cons token front =>
    have placed : stream.position = token.position := by
      rw [Stream.position, standing]
      rfl
    refine agree token.position stream finished left result standing ?_ ends
    rw [← placed]
    exact done

/-- What has been passed over is counted from where the reading began. -/
theorem since {start : List Token} :
    Agree ending front (Parser.since (start ++ ending.declared))
      (Parser.since (start ++ ending.implemented)) := by
  have passed (tail : List Token) :
      (start ++ tail).take ((start ++ tail).length - (front ++ tail).length) =
        start.take (start.length - front.length) := by
    rw [List.length_append, List.length_append, Nat.add_sub_add_right,
      List.take_append_of_le_length (Nat.sub_le _ _)]
  apply look
  rw [passed, passed]
  exact pure

end Agree

namespace Stops

/-- Where the first parser reads nothing there is nothing to agree on. -/
theorem agree (stops : Stops first) : Agree ending [] first second := by
  intro stream finished left result standing done ends
  obtain ⟨error, failed⟩ := stops ending stream standing
  exact nomatch failed.symm.trans done

/-- Nothing is read by two parsers in a row where the first one reads nothing. -/
theorem bind (stops : Stops first) : Stops (first >>= next) := by
  intro ending stream standing
  obtain ⟨error, failed⟩ := stops ending stream standing
  refine ⟨error, ?_⟩
  change (first stream >>= fun pair => next pair.1 pair.2) = _
  rw [failed]
  rfl

/-- A result that is converted has to be there first. -/
theorem map {convert : First → Second} (stops : Stops first) : Stops (convert <$> first) := by
  have both : Stops (first >>= fun found => Pure.pure (convert found)) := stops.bind
  exact both

/-- A semicolon is no keyword. -/
theorem keyword (spelling : String) : Stops (keyword spelling) := by
  rintro ending ⟨_, _, _, _⟩ rfl
  exact ⟨_, rfl⟩

end Stops

namespace ReadsFront

/-- What takes its tokens in front of anything takes them in front of both ends. -/
theorem of_takes [forward : Forward first] (takes : Takes first) : ReadsFront first where
  forward := forward
  agrees ending front := by
    intro stream finished left result standing done ends
    obtain ⟨taken, same, reads⟩ := takes _ _ _ _ standing done
    -- What was taken ends in front of the semicolon, as that is a part of what is left.
    rw [ends, ← List.append_assoc] at same
    obtain rfl := List.append_cancel_right same
    have again := reads stream finished.tokens (by rw [standing, ends, List.append_assoc])
    rw [done] at again
    obtain ⟨_, kept⟩ := Prod.mk.inj (Except.ok.inj again)
    rw [kept]
    exact reads _ _ (List.append_assoc ..)

/-- What takes no token reads alike. -/
instance (result : First) : ReadsFront (pure result : Parser First) where
  forward := inferInstance
  agrees _ _ := .pure

/-- Two parsers in a row read alike if each of them does. -/
instance [starts : ReadsFront first] [goesOn : ∀ found, ReadsFront (next found)] :
    ReadsFront (first >>= next) where
  forward := starts.forward.andThen fun found => (goesOn found).forward
  agrees ending front := (starts.agrees ending front).bind (fun found => (goesOn found).forward)
    fun found middle => (goesOn found).agrees ending middle

/-- Two parsers in a row read alike, for proofs that name the parsers. -/
theorem andThen (starts : ReadsFront first) (goesOn : ∀ found, ReadsFront (next found)) :
    ReadsFront (first >>= next) :=
  inferInstance

/-- A condition on what has been read chooses between two parsers that read alike. -/
theorem ifElse {condition : Prop} [Decidable condition] (one : ReadsFront first)
    (another : ReadsFront second) : ReadsFront (if condition then first else second) := by
  split <;> assumption

/-- What is made of a result does not matter to how it is read. -/
instance [ReadsFront first] (convert : First → Second) : ReadsFront (convert <$> first) :=
  inferInstanceAs (ReadsFront (first >>= fun found => pure (convert found)))

/-- A condition on what has been read chooses alike. -/
instance {condition : Prop} [Decidable condition] [one : ReadsFront first]
    [another : ReadsFront second] : ReadsFront (if condition then first else second) :=
  ifElse one another

/-- What fails does so in front of both ends. -/
instance (problem : SyntaxProblem) (position : Position) :
    ReadsFront (failAt problem position : Parser First) where
  forward := inferInstance
  agrees _ _ := .of_error fun _ => ⟨_, rfl⟩

/-- What fails as unexpected does so in front of both ends. -/
instance (choices : List Expectation) : ReadsFront (failExpected choices : Parser First) where
  forward := inferInstance
  agrees _ _ := .of_error fun _ => ⟨_, rfl⟩

/-- Looking ahead answers the same where the test tells nothing apart. -/
instance (test : List Token → Bool) [tests : TestsFront test] : ReadsFront (peek test) where
  forward := inferInstance
  agrees ending front := by
    intro stream finished left found standing done ends
    cases done
    obtain rfl := List.append_cancel_right (standing.symm.trans ends)
    rw [standing, tests.agrees]
    rfl

/-- A mark is read alike. -/
instance (spelling : String) : ReadsFront (mark spelling) := of_takes .mark

/-- A keyword is read alike. -/
instance (spelling : String) : ReadsFront (keyword spelling) := of_takes .keyword

/-- A word is read alike. -/
instance : ReadsFront anyWord := of_takes .anyWord

/-- An identifier is read alike. -/
instance : ReadsFront identifier := of_takes .identifier

/-- A lifetime is read alike. -/
instance : ReadsFront lifetime := of_takes .lifetime

/-- A string literal is read alike. -/
instance : ReadsFront stringLiteral := of_takes .stringLiteral

/-- A literal is read alike. -/
instance : ReadsFront literal := of_takes .literal

/-- A group is read alike, whatever its delimiters. -/
instance : ReadsFront anyGroup := of_takes .anyGroup

/-- A group stands in front of the end, and its inside is read by itself. -/
instance (delimiter : Delimiter) (inside : Parser First) :
    ReadsFront (group delimiter inside) where
  forward := inferInstance
  agrees ending front := by
    intro stream finished left enclosed standing done ends
    obtain ⟨inner, within, same, read, kept⟩ := group_eq_ok done
    rw [standing, ends, ← List.cons_append] at same
    obtain rfl := List.append_cancel_right same
    rw [kept]
    exact group_of_ok rfl read

/-- Both ends are as long as each other, so that they leave as much fuel. -/
theorem measured {next : List Token → Parser First}
    (reads : ∀ standing, ReadsFront (next standing))
    (alike : ∀ one other : List Token, one.length = other.length → next one = next other) :
    ReadsFront (tokens >>= next) where
  forward := .look fun standing => (reads standing).forward.suffix standing
  agrees ending front := .look (by
    rw [alike _ _ (ending.length_append_declared front)]
    exact (reads _).agrees ending front)

/-- What is chosen by the tokens that stand next is chosen alike. -/
instance {test : List Token → Bool} {next : List Token → Parser First} [tests : TestsFront test]
    [one : ReadsFront first] [others : ReadsFront (tokens >>= next)] :
    ReadsFront (tokens >>= fun standing => if test standing then first else next standing) where
  forward := .look fun standing => by
    split
    · exact one.forward.suffix standing
    · intro stream rest result stands done
      subst stands
      exact others.forward.suffix _ stream rest result rfl done
  agrees ending front := .look (by
    rw [tests.agrees]
    split
    · exact one.agrees ending front
    · intro stream finished left result standing done ends
      rw [← standing] at done
      exact others.agrees ending front stream finished left result standing done ends)

/-- Tokens that are looked at without need change nothing. -/
instance [reads : ReadsFront first] : ReadsFront (tokens >>= fun _ => first) where
  forward := .look fun standing => reads.forward.suffix standing
  agrees ending front := .look (reads.agrees ending front)

/-- A repeated step is read alike, by induction on how often it may still be taken. -/
instance {step : Parser (Option First)} [ReadsFront step] (fuel : Nat) (found : List First) :
    ReadsFront (repeatFrom step fuel found) := by
  induction fuel generalizing found with
  | zero =>
    unfold repeatFrom
    infer_instance
  | succ fuel hypothesis =>
    unfold repeatFrom
    exact andThen inferInstance fun
      | some _ => hypothesis _
      | none => inferInstance

/-- A repeated step is taken equally often, since both ends leave equally many tokens. -/
instance {step : Parser (Option First)} [ReadsFront step] : ReadsFront (repeatStep step) :=
  measured (fun _ => inferInstance) fun _ _ same => by rw [same]

/-- The entries of a list are read alike, by induction on how many may still follow. -/
instance (stops goesOn : List Token → Bool) (separator : String) [TestsFront stops]
    [TestsFront goesOn] [ReadsFront first] (fuel : Nat) (found : List (Separated First)) :
    ReadsFront (listFrom stops separator goesOn first fuel found) := by
  induction fuel generalizing found with
  | zero =>
    unfold listFrom
    infer_instance
  | succ fuel hypothesis =>
    unfold listFrom
    infer_instance

/-- A list up to its end is read alike if the end is told alike. -/
instance (stops : List Token → Bool) (separator : String) [TestsFront stops] [ReadsFront first] :
    ReadsFront (listUntil stops separator first) :=
  measured (fun _ => inferInstance) fun _ _ same => by rw [same]

/-- A list that goes on behind separators is read alike if these are told alike. -/
instance (stops : List Token → Bool) (separator : String) [TestsFront stops]
    [TestsFront (Peek.mark separator)] [ReadsFront first] :
    ReadsFront (listWhile stops separator first) :=
  measured (fun _ => inferInstance) fun _ _ same => by rw [same]

/-- A mark that can be absent is read alike if it is told alike. -/
instance (spelling : String) [TestsFront (Peek.mark spelling)] : ReadsFront (mark? spelling) := by
  unfold mark?
  infer_instance

/-- A keyword that can be absent is read alike. -/
instance (spelling : String) : ReadsFront (keyword? spelling) := by
  unfold keyword?
  infer_instance

/-- A lifetime that can be absent is read alike. -/
instance : ReadsFront lifetime? := by
  unfold lifetime?
  infer_instance

/-- A mark that is kept as code is read alike. -/
instance (spelling : String) : ReadsFront (markCode spelling) := by
  unfold markCode
  infer_instance

/-- A mark that is kept as code and can be absent is read alike if it is told alike. -/
instance (spelling : String) [TestsFront (Peek.mark spelling)] :
    ReadsFront (markCode? spelling) := by
  unfold markCode?
  infer_instance

/-- A keyword that is kept as code is read alike. -/
instance (spelling : String) : ReadsFront (keywordCode spelling) := by
  unfold keywordCode
  infer_instance

/-- A keyword that is kept as code and can be absent is read alike. -/
instance (spelling : String) : ReadsFront (keywordCode? spelling) := by
  unfold keywordCode?
  infer_instance

/-- An identifier that is kept as code is read alike. -/
instance : ReadsFront identifierCode := by
  unfold identifierCode
  infer_instance

/-- A word that is kept as code is read alike. -/
instance : ReadsFront anyWordCode := by
  unfold anyWordCode
  infer_instance

/-- A lifetime that is kept as code is read alike. -/
instance : ReadsFront lifetimeCode := by
  unfold lifetimeCode
  infer_instance

/-- A literal that is kept as code is read alike. -/
instance : ReadsFront literalCode := by
  unfold literalCode
  refine andThen inferInstance fun found => ?_
  split <;> infer_instance

/-- A group that is kept as code is read alike. -/
instance (delimiter : Delimiter) (inside : Parser Code) :
    ReadsFront (groupCode delimiter inside) := by
  unfold groupCode
  infer_instance

/-- The place of what stands next differs only at the ends themselves, where nothing is read. -/
theorem positioned {next : Position → Parser First} (reads : ∀ place, ReadsFront (next place))
    (stops : ∀ place, Stops (next place)) : ReadsFront (position >>= next) where
  forward := .andThen inferInstance fun place => (reads place).forward
  agrees ending front :=
    .positioned (fun place => (reads place).agrees ending front) fun place _ => (stops place).agree

/-- Tokens that are looked at again further behind are the same up to the end. -/
theorem recalled {next : List Token → Parser First} (moves : ∀ start, Forward (next start))
    (agrees : ∀ (ending : Ending) (start : List Token),
      Agree ending start (next (start ++ ending.declared)) (next (start ++ ending.implemented))) :
    ReadsFront (tokens >>= next) where
  forward := .look fun standing => (moves standing).suffix standing
  agrees ending start := .look (agrees ending start)

/-- A test may mistake a body for something that begins here where nothing else can be read. -/
theorem orElse {test : List Token → Bool} (one : ReadsFront first) (another : ReadsFront second)
    (stops : Stops second) (fails : ∀ ending : Ending, test ending.declared = false)
    (within : ∀ (ending : Ending) (token : Token) (front : List Token),
      test (token :: front ++ ending.declared) = test (token :: front ++ ending.implemented)) :
    ReadsFront (do if ← peek test then first else second) where
  forward := .andThen inferInstance fun _ => .ifElse one.forward another.forward
  agrees ending front := by
    intro stream finished left result standing done ends
    change (if test stream.tokens = true then first else second) stream = _ at done
    cases front with
    -- With nothing in front of the semicolon only the second parser is left, and it fails.
    | nil =>
      rw [standing, List.nil_append, fails, if_neg Bool.false_ne_true] at done
      obtain ⟨error, failed⟩ := stops ending stream standing
      exact nomatch failed.symm.trans done
    | cons token front =>
      rw [standing, within] at done
      change (if test (token :: front ++ ending.implemented) = true then first else second) _ = _
      split at done
      · rw [if_pos ‹_›]
        exact one.agrees ending _ stream finished left result standing done ends
      · rw [if_neg ‹_›]
        exact another.agrees ending _ stream finished left result standing done ends

end ReadsFront

end Instances

end Parser

end DataAccess
