/-
This file proves of the elementary parsers what they answer, and of them and whatever is put
together from them that reading moves forward: what is left stood at the end of what was there.
-/

import DataAccess.Parse.Grammar

namespace DataAccess

namespace Parser

/-- Whatever the parser answers of the tokens satisfies a condition together with what it leaves. -/
def Answers {Result : Type} (tokens : List Token) (parser : Parser Result)
    (condition : Result → List Token → Prop) : Prop :=
  ∀ (stream rest : Stream) (result : Result), stream.tokens = tokens →
    parser stream = .ok (result, rest) → condition result rest.tokens

/-- Reading moves forward: what is left stood at the end of what was there. -/
class Forward {Result : Type} (parser : Parser Result) : Prop where
  suffix : ∀ tokens, Answers tokens parser fun _ rest => rest <:+ tokens

/-- Reading stays behind a limit, also where the stream is set back to one behind it. -/
class StaysBehind {Result : Type} (limit : List Token) (parser : Parser Result) : Prop where
  suffix : ∀ tokens, tokens <:+ limit → Answers tokens parser fun _ rest => rest <:+ limit

/-- Two parsers in a row run on the same stream one after the other. -/
theorem bind_eq_ok {First Second : Type} {first : Parser First} {second : First → Parser Second}
    {stream rest : Stream} {result : Second}
    (done : (first >>= second) stream = .ok (result, rest)) :
    ∃ found middle, first stream = .ok (found, middle) ∧
      second found middle = .ok (result, rest) := by
  change (first stream >>= fun pair => second pair.1 pair.2) = _ at done
  cases found : first stream with
  | error error =>
    rw [found] at done
    exact nomatch done
  | ok pair =>
    rw [found] at done
    exact ⟨pair.1, pair.2, rfl, done⟩

/-- A group that is read stands next, and its inside is read by itself. -/
theorem group_eq_ok {Result : Type} {delimiter : Delimiter} {inside : Parser Result}
    {stream rest : Stream} {enclosed : Enclosed Result}
    (done : group delimiter inside stream = .ok (enclosed, rest)) : ∃ inner finished,
      stream.tokens =
        .group delimiter enclosed.opening enclosed.closing inner :: rest.tokens ∧
      inside ⟨inner, enclosed.closing, some delimiter, stream.leftover⟩ =
        .ok (enclosed.value, finished) ∧
      rest = { stream with
        tokens := rest.tokens, leftover := finished.leftover.or finished.rest? } := by
  unfold group at done
  split at done
  next found opening closing inner others same =>
    split at done
    next delimited =>
      split at done
      next value finished within =>
        cases done
        exact ⟨inner, finished, by rw [same, delimited], within, rfl⟩
      next => exact nomatch done
    next => exact nomatch done
  next => exact nomatch done

namespace Answers

variable {First Second : Type} {standing : List Token} {first : Parser First}
  {second : First → Parser Second} {condition : First → List Token → Prop}
  {final : Second → List Token → Prop}

/-- What two parsers in a row answer follows from what each of them answers. -/
theorem bind (starts : Answers standing first condition)
    (goesOn : ∀ found rest, condition found rest → Answers rest (second found) final) :
    Answers standing (first >>= second) final := by
  intro stream rest result stands done
  obtain ⟨found, middle, before, behind⟩ := bind_eq_ok done
  exact goesOn found _ (starts _ _ _ stands before) _ _ _ rfl behind

/-- An answer that satisfies a condition satisfies every weaker one. -/
theorem imp {weaker : First → List Token → Prop} (answers : Answers standing first condition)
    (weakens : ∀ found rest, condition found rest → weaker found rest) :
    Answers standing first weaker :=
  fun _ _ _ stands done => weakens _ _ (answers _ _ _ stands done)

/-- A result without reading leaves the tokens as they are. -/
theorem pure {result : First} (holds : condition result standing) :
    Answers standing (Pure.pure result) condition := by
  intro stream rest value stands done
  cases done
  rw [stands]
  exact holds

/-- What fails answers nothing. -/
theorem failAt {problem : SyntaxProblem} {position : Position} :
    Answers standing (Parser.failAt problem position) condition :=
  fun _ _ _ _ done => nomatch done

/-- What fails as unexpected answers nothing. -/
theorem failExpected {choices : List Expectation} :
    Answers standing (Parser.failExpected choices) condition :=
  fun _ _ _ _ done => nomatch done

/-- Looking at the tokens leaves them as they are. -/
theorem look {next : List Token → Parser First}
    (answers : Answers standing (next standing) condition) :
    Answers standing (tokens >>= next) condition := by
  intro stream rest result stands done
  obtain ⟨_, _, before, behind⟩ := bind_eq_ok done
  cases before
  rw [stands] at behind
  exact answers _ _ _ stands behind

/-- Looking at the stream leaves it as it is. -/
theorem lookAt {next : Stream → Parser First}
    (answers : ∀ stream : Stream, stream.tokens = standing →
      Answers standing (next stream) condition) :
    Answers standing (get >>= next) condition := by
  intro _ _ _ stands done
  obtain ⟨_, _, before, behind⟩ := bind_eq_ok done
  cases before
  exact answers _ stands _ _ _ stands behind

/-- A parser that has found its rest takes everything in front of it. -/
theorem take {rest : List Token} {result : First} (holds : condition result rest) :
    Answers standing (Parser.take rest >>= fun _ => Pure.pure result) condition := by
  intro _ _ _ _ done
  cases done
  exact holds

/-- Taking leaves exactly what it was told to leave. -/
theorem took {rest : List Token} :
    Answers standing (Parser.take rest) fun _ left => left = rest := by
  intro _ _ _ _ done
  cases done
  rfl

/-- An answer about all streams with the tokens. -/
theorem of_look {look : Stream → First}
    (holds : ∀ stream : Stream, stream.tokens = standing → condition (look stream) standing) :
    Answers standing (fun stream => .ok (look stream, stream)) condition := by
  intro stream _ _ stands done
  cases done
  have held := holds stream stands
  rwa [← stands] at held

/-- Looking ahead answers the test and leaves the tokens. -/
theorem peek {test : List Token → Bool} :
    Answers standing (Parser.peek test) fun found rest =>
      found = test standing ∧ rest = standing :=
  of_look fun _ stands => ⟨congrArg test stands, rfl⟩

/-- A mark begins with a token, and what is left stands behind that. -/
theorem marksFrom_suffix {characters : List Char} {tokens rest : List Token}
    (taken : marksFrom characters tokens = some rest) : ∃ character joint position more,
      tokens = .mark character joint position :: more ∧ rest <:+ more := by
  induction characters generalizing tokens with
  | nil => exact nomatch taken
  | cons first others hypothesis =>
    unfold marksFrom at taken
    split at taken
    next =>
      obtain ⟨_, same⟩ := Option.ite_none_right_eq_some.mp taken
      rw [← Option.some.inj same]
      exact ⟨_, _, _, _, rfl, List.suffix_rfl⟩
    next same =>
      obtain ⟨_, goesOn⟩ := Option.ite_none_right_eq_some.mp taken
      obtain ⟨rfl, rfl⟩ := List.cons.inj same
      obtain ⟨_, _, _, _, rfl, behind⟩ := hypothesis goesOn
      exact ⟨_, _, _, _, rfl, behind.trans (List.suffix_cons ..)⟩
    next => exact nomatch taken

/-- A mark stands at its first character. -/
theorem mark {spelling : String} : Answers standing (Parser.mark spelling) fun position rest =>
    ∃ character joint more, standing = .mark character joint position :: more ∧
      rest <:+ more := by
  apply lookAt
  intro stream stands
  split
  next taken =>
    obtain ⟨character, joint, position, more, same, behind⟩ := marksFrom_suffix taken
    refine take ⟨character, joint, more, ?_, behind⟩
    rw [Stream.position, ← stands, same]
    rfl
  next => exact failAt

/-- A mark of one character takes exactly one token. -/
theorem marksFrom_single {character : Char} {tokens rest : List Token}
    (taken : marksFrom [character] tokens = some rest) :
    ∃ joint position, tokens = .mark character joint position :: rest := by
  unfold marksFrom at taken
  split at taken
  next same =>
    obtain ⟨equal, left⟩ := Option.ite_none_right_eq_some.mp taken
    cases same
    cases left
    rw [eq_of_beq equal]
    exact ⟨_, _, rfl⟩
  next behind same =>
    cases same
    exact (behind rfl).elim
  next => exact nomatch taken

/-- A mark of a single character is one token. -/
theorem single {spelling : String} {character : Char} (spelled : spelling.toList = [character]) :
    Answers standing (Parser.mark spelling) fun position rest =>
      ∃ joint, standing = .mark character joint position :: rest := by
  apply lookAt
  intro stream stands
  split
  next taken =>
    rw [spelled, stands] at taken
    obtain ⟨joint, position, rfl⟩ := marksFrom_single taken
    refine Answers.take ⟨joint, ?_⟩
    rw [Stream.position, stands]
    rfl
  next => exact failAt

/-- A keyword takes the word that spells it. -/
theorem keyword {spelling : String} :
    Answers standing (Parser.keyword spelling) fun position rest =>
      standing = .word ⟨spelling, position⟩ :: rest := by
  apply lookAt
  intro stream stands
  split
  next same =>
    split
    next spelled => exact take (by rw [← stands, same, ← eq_of_beq spelled])
    next => exact failExpected
  next => exact failExpected

/-- A word that is read stood next. -/
theorem anyWord : Answers standing Parser.anyWord fun name rest =>
    standing = .word name :: rest := by
  unfold Parser.anyWord
  apply look
  split
  next => exact take rfl
  next => exact failExpected

/-- An identifier that is read stood next and is not reserved. -/
theorem identifier : Answers standing Parser.identifier fun name rest =>
    standing = .word name :: rest ∧ Text.Identifier.isReserved name.text = false := by
  unfold Parser.identifier
  apply look
  split
  next =>
    split
    next => exact failAt
    next free => exact take ⟨rfl, Bool.of_not_eq_true free⟩
  next => exact failExpected

/-- A lifetime that is read stood next. -/
theorem lifetime : Answers standing Parser.lifetime fun name rest =>
    standing = .lifetime name :: rest := by
  unfold Parser.lifetime
  apply look
  split
  next => exact take rfl
  next => exact failExpected

/-- A string literal that is read is the token that stood next. -/
theorem stringLiteral : Answers standing Parser.stringLiteral fun literal rest =>
    ∃ token, standing = token :: rest ∧ StringLiteral.ofToken? token = some literal := by
  unfold Parser.stringLiteral
  apply look
  split
  next token rest =>
    split
    next found => exact take ⟨token, rfl, found⟩
    next => exact failExpected
  next => exact failExpected

/-- A literal is a token, or a number behind its sign. -/
theorem literal : Answers standing Parser.literal fun read rest =>
    ∃ token others, standing = token :: others ∧ rest <:+ others ∧
      ∃ first more, read = first :: more ∧ first.position = token.position := by
  unfold Parser.literal
  apply look
  split
  next => exact take ⟨_, _, rfl, List.suffix_rfl, _, _, rfl, rfl⟩
  next =>
    split
    next => exact take ⟨_, _, rfl, List.suffix_rfl, _, _, rfl, rfl⟩
    next => exact failExpected
  next =>
    split
    next => exact take ⟨_, _, rfl, List.suffix_cons .., _, _, rfl, rfl⟩
    next => exact failExpected
  next => exact failExpected

/-- A group that is read stood next. -/
theorem anyGroup : Answers standing Parser.anyGroup fun found rest =>
    standing = found.2 :: rest := by
  unfold Parser.anyGroup
  apply look
  split
  next => exact take rfl
  next => exact failExpected

/-- A group is one token, and its inside is read by itself. -/
theorem group {delimiter : Delimiter} {inside : Parser First}
    (answers : ∀ inner, Answers inner inside condition) :
    Answers standing (Parser.group delimiter inside) fun enclosed rest =>
      ∃ inner left, standing =
          .group delimiter enclosed.opening enclosed.closing inner :: rest ∧
        condition enclosed.value left := by
  intro stream rest enclosed stands done
  obtain ⟨inner, finished, same, within, _⟩ := group_eq_ok done
  exact ⟨inner, finished.tokens, stands ▸ same, answers _ _ _ _ rfl within⟩

/-- An attempt answers like its parser, or takes nothing. -/
theorem attempt (answers : Answers standing first condition) :
    Answers standing (Parser.attempt first) fun found rest =>
      match found with
      | some result => condition result rest
      | none => rest = standing := by
  intro _ _ _ stands done
  unfold Parser.attempt at done
  split at done
  next within =>
    cases done
    exact answers _ _ _ stands within
  next =>
    cases done
    exact stands

/-- Reading ahead answers like its parser, but leaves the tokens. -/
theorem ahead (answers : Answers standing first condition) :
    Answers standing (Parser.ahead first) fun found rest =>
      rest = standing ∧ ∃ left, condition found left := by
  intro _ _ _ stands done
  unfold Parser.ahead at done
  split at done
  next within =>
    cases done
    exact ⟨stands, _, answers _ _ _ stands within⟩
  next => exact nomatch done

/-- What a parser has passed over are the tokens in front of what is left. -/
theorem since {consumed : List Token} :
    Answers standing (Parser.since (consumed ++ standing)) fun passed rest =>
      passed = consumed ∧ rest = standing := by
  unfold Parser.since
  refine look (pure ⟨?_, rfl⟩)
  rw [List.length_append, Nat.add_sub_cancel, List.take_left']
  rfl

end Answers

section Instances

variable {First Second : Type} {first : Parser First} {second : First → Parser Second}

namespace Forward

/-- Two parsers in a row move forward, for proofs that name the parsers. -/
theorem andThen (starts : Forward first) (goesOn : ∀ found, Forward (second found)) :
    Forward (first >>= second) where
  suffix tokens := (starts.suffix tokens).bind fun found _ behind =>
    ((goesOn found).suffix _).imp fun _ _ further => further.trans behind

/-- Two parsers in a row move forward if each of them does. -/
instance [starts : Forward first] [goesOn : ∀ found, Forward (second found)] :
    Forward (first >>= second) :=
  starts.andThen goesOn

/-- A result without reading moves nowhere. -/
instance (result : First) : Forward (pure result : Parser First) where
  suffix _ := .pure List.suffix_rfl

/-- What is made of a result does not matter to how it was read. -/
instance [Forward first] (convert : First → Second) : Forward (convert <$> first) :=
  inferInstanceAs (Forward (first >>= fun found => pure (convert found)))

/-- A condition chooses between two parsers that move forward. -/
instance {condition : Prop} [Decidable condition] {other : Parser First} [Forward first]
    [Forward other] : Forward (if condition then first else other) := by
  split <;> assumption

/-- A condition chooses between two parsers, for proofs that name them. -/
theorem ifElse {condition : Prop} [Decidable condition] {other : Parser First}
    (one : Forward first) (another : Forward other) :
    Forward (if condition then first else other) :=
  inferInstance

/-- What a parser takes of the tokens that it has looked at is a part of their end. -/
theorem look {next : List Token → Parser First}
    (takes : ∀ standing, Answers standing (next standing) fun _ rest => rest <:+ standing) :
    Forward (tokens >>= next) where
  suffix standing := .look (takes standing)

/-- What fails moves nowhere. -/
instance (problem : SyntaxProblem) (position : Position) :
    Forward (failAt problem position : Parser First) where
  suffix _ := .failAt

/-- What fails as unexpected moves nowhere. -/
instance (choices : List Expectation) : Forward (failExpected choices : Parser First) where
  suffix _ := .failExpected

/-- Where the stream is set back, it is set back to what was there at first. -/
instance {next : Stream → Parser First} [stays : ∀ start, StaysBehind start.tokens (next start)] :
    Forward (get >>= next) where
  suffix _ := .lookAt fun stream stands => by
    rw [← stands]
    exact (stays stream).suffix _ List.suffix_rfl

/-- Looking at the stream moves nowhere. -/
theorem of_look {look : Stream → First} :
    Forward (fun stream => .ok (look stream, stream) : Parser First) where
  suffix _ := .of_look fun _ _ => List.suffix_rfl

instance : Forward tokens := of_look

instance : Forward position := of_look

instance : Forward isEmpty := of_look

instance (test : List Token → Bool) : Forward (peek test) := of_look

/-- A mark moves forward over its characters. -/
instance (spelling : String) : Forward (mark spelling) where
  suffix _ := .imp .mark fun _ _ ⟨_, _, _, same, behind⟩ =>
    same ▸ behind.trans (List.suffix_cons ..)

/-- A keyword moves forward over its word. -/
instance (spelling : String) : Forward (keyword spelling) where
  suffix _ := .imp .keyword fun _ _ same => same ▸ List.suffix_cons ..

/-- A word moves forward. -/
instance : Forward anyWord where
  suffix _ := .imp .anyWord fun _ _ same => same ▸ List.suffix_cons ..

/-- An identifier moves forward. -/
instance : Forward identifier where
  suffix _ := .imp .identifier fun _ _ ⟨same, _⟩ => same ▸ List.suffix_cons ..

/-- A lifetime moves forward. -/
instance : Forward lifetime where
  suffix _ := .imp .lifetime fun _ _ same => same ▸ List.suffix_cons ..

/-- A string literal moves forward. -/
instance : Forward stringLiteral where
  suffix _ := .imp .stringLiteral fun _ _ ⟨_, same, _⟩ => same ▸ List.suffix_cons ..

/-- A literal moves forward over one token or two. -/
instance : Forward literal where
  suffix _ := .imp .literal fun _ _ ⟨_, _, same, behind, _⟩ =>
    same ▸ behind.trans (List.suffix_cons ..)

/-- A group moves forward over all that it holds. -/
instance : Forward anyGroup where
  suffix _ := .imp .anyGroup fun _ _ same => same ▸ List.suffix_cons ..

/-- What a group holds is read apart from what stands behind the group. -/
instance (delimiter : Delimiter) (inside : Parser First) : Forward (group delimiter inside) where
  suffix tokens := by
    have answers : ∀ inner, Answers inner inside fun _ _ => True := fun _ _ _ _ _ _ => trivial
    exact .imp (.group answers) fun _ _ ⟨_, _, same, _⟩ => same ▸ List.suffix_cons ..

/-- An attempt moves forward, or nowhere if it fails. -/
instance [forward : Forward first] : Forward (attempt first) where
  suffix tokens := (forward.suffix tokens).attempt.imp fun found rest left => by
    cases found with
    | some result => exact left
    | none => exact left ▸ List.suffix_rfl

/-- Reading ahead moves nowhere. -/
instance [forward : Forward first] : Forward (ahead first) where
  suffix tokens := (forward.suffix tokens).ahead.imp fun _ _ ⟨same, _⟩ => same ▸ List.suffix_rfl

/-- A mark that can be absent moves forward. -/
instance (spelling : String) : Forward (mark? spelling) := by
  unfold mark?
  infer_instance

/-- A keyword that can be absent moves forward. -/
instance (spelling : String) : Forward (keyword? spelling) := by
  unfold keyword?
  infer_instance

/-- A lifetime that can be absent moves forward. -/
instance : Forward lifetime? := by
  unfold lifetime?
  infer_instance

/-- What has been passed over is only looked at. -/
instance (start : List Token) : Forward (since start) := by
  unfold since
  infer_instance

/-- A repeated step moves forward, by induction on how often it may still be taken. -/
instance {step : Parser (Option First)} [Forward step] (fuel : Nat) (found : List First) :
    Forward (repeatFrom step fuel found) := by
  induction fuel generalizing found with
  | zero =>
    unfold repeatFrom
    infer_instance
  | succ fuel hypothesis =>
    unfold repeatFrom
    exact andThen inferInstance fun
      | some _ => hypothesis _
      | none => inferInstance

/-- A repeated step moves forward as often as it is taken. -/
instance {step : Parser (Option First)} [Forward step] : Forward (repeatStep step) := by
  unfold repeatStep
  infer_instance

/-- The entries of a list move forward, by induction on how many may still follow. -/
instance (stops goesOn : List Token → Bool) (separator : String) [Forward first] (fuel : Nat)
    (found : List (Separated First)) :
    Forward (listFrom stops separator goesOn first fuel found) := by
  induction fuel generalizing found with
  | zero =>
    unfold listFrom
    infer_instance
  | succ fuel hypothesis =>
    unfold listFrom
    infer_instance

/-- A list up to its end moves forward. -/
instance (stops : List Token → Bool) (separator : String) [Forward first] :
    Forward (listUntil stops separator first) := by
  unfold listUntil
  infer_instance

/-- A list that goes on behind separators moves forward. -/
instance (stops : List Token → Bool) (separator : String) [Forward first] :
    Forward (listWhile stops separator first) := by
  unfold listWhile
  infer_instance

/-- A mark that is kept as code moves forward. -/
instance (spelling : String) : Forward (markCode spelling) := by
  unfold markCode
  infer_instance

/-- A mark that is kept as code and can be absent moves forward. -/
instance (spelling : String) : Forward (markCode? spelling) := by
  unfold markCode?
  infer_instance

/-- A keyword that is kept as code moves forward. -/
instance (spelling : String) : Forward (keywordCode spelling) := by
  unfold keywordCode
  infer_instance

/-- A keyword that is kept as code and can be absent moves forward. -/
instance (spelling : String) : Forward (keywordCode? spelling) := by
  unfold keywordCode?
  infer_instance

/-- An identifier that is kept as code moves forward. -/
instance : Forward identifierCode := by
  unfold identifierCode
  infer_instance

/-- A word that is kept as code moves forward. -/
instance : Forward anyWordCode := by
  unfold anyWordCode
  infer_instance

/-- A lifetime that is kept as code moves forward. -/
instance : Forward lifetimeCode := by
  unfold lifetimeCode
  infer_instance

/-- A literal that is kept as code moves forward. -/
instance : Forward literalCode := by
  unfold literalCode
  refine andThen inferInstance fun found => ?_
  split <;> infer_instance

/-- A group that is kept as code moves forward. -/
instance (delimiter : Delimiter) (inside : Parser Code) : Forward (groupCode delimiter inside) := by
  unfold groupCode
  infer_instance

/-- Tokens that are kept because nothing knows them are only looked at. -/
instance (construct : Construct) (start : List Token) : Forward (refusedSince construct start) := by
  unfold refusedSince
  infer_instance

end Forward

namespace StaysBehind

variable {limit : List Token}

/-- What moves forward stays behind a limit that it starts behind. -/
instance (priority := low) [forward : Forward first] : StaysBehind limit first where
  suffix _ behind := (forward.suffix _).imp fun _ _ further => further.trans behind

/-- Two parsers in a row stay behind a limit if each of them does. -/
instance [starts : StaysBehind limit first] [goesOn : ∀ found, StaysBehind limit (second found)] :
    StaysBehind limit (first >>= second) where
  suffix _ behind := (starts.suffix _ behind).bind fun found _ further =>
    (goesOn found).suffix _ further

/-- A condition chooses between two parsers that stay behind a limit. -/
instance {condition : Prop} [Decidable condition] {other : Parser First}
    [StaysBehind limit first] [StaysBehind limit other] :
    StaysBehind limit (if condition then first else other) := by
  split <;> assumption

/-- A parser that fails in the end leaves nothing. -/
instance (choices : List Expectation) :
    StaysBehind limit (first >>= fun _ => (failExpected choices : Parser Second)) where
  suffix _ _ := by
    intro _ _ _ _ done
    obtain ⟨_, _, _, fails⟩ := bind_eq_ok done
    exact nomatch fails

/-- Going back to the start of a stream does not go past it. -/
instance (start : Stream) : StaysBehind start.tokens (set start : Parser PUnit) where
  suffix _ _ := by
    intro _ _ _ _ done
    cases done
    exact List.suffix_rfl

end StaysBehind

end Instances

end Parser

end DataAccess
