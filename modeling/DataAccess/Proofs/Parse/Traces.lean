/-
This file proves how answers of parsers follow from the places of the tokens that are passed over.
-/

import DataAccess.Proofs.Parse.Forward
import DataAccess.Source.Places

namespace DataAccess

namespace Parser

/-- Reading moves forward, and an answer satisfies a condition as far as the places of all tokens
that were passed over are known. -/
def Traces {Result : Type} (known : Position → Prop) (parser : Parser Result)
    (condition : Result → Prop) : Prop :=
  ∀ standing, Answers standing parser fun result rest =>
    ∃ consumed, standing = consumed ++ rest ∧ (Token.AllAt known consumed → condition result)

/-- Whichever places are known, something follows once all are known that the tokens in front of the
rest have. -/
def Passed (standing rest : List Token) (holds : (Position → Prop) → Prop) : Prop :=
  ∃ consumed, standing = consumed ++ rest ∧
    ∀ known, Token.AllAt known consumed → holds known

/-- An answer satisfies a condition if the places of all tokens are known, read or not. -/
def TracesAll {Result : Type} (known : Position → Prop) (parser : Parser Result)
    (condition : Result → Prop) : Prop :=
  ∀ standing, Token.AllAt known standing →
    Answers standing parser fun result _ => condition result

namespace Passed

variable {standing middle rest : List Token} {holds : (Position → Prop) → Prop}

/-- What follows of known places has its own consequences. -/
theorem imp {weaker : (Position → Prop) → Prop} (passed : Passed standing rest holds)
    (weakens : ∀ known, holds known → weaker known) : Passed standing rest weaker :=
  Exists.imp (fun _ ⟨same, all⟩ => ⟨same, fun known placed => weakens known (all known placed)⟩)
    passed

/-- What is passed over in two parts has the consequences of both. -/
theorem trans {further : (Position → Prop) → Prop} (passed : Passed standing middle holds)
    (goesOn : Passed middle rest further) :
    Passed standing rest fun known => holds known ∧ further known := by
  obtain ⟨consumed, rfl, first⟩ := passed
  obtain ⟨others, rfl, second⟩ := goesOn
  refine ⟨consumed ++ others, (List.append_assoc ..).symm, fun known all => ?_⟩
  rw [Token.allAt_append] at all
  exact ⟨first known all.1, second known all.2⟩

/-- Passing over more tokens keeps what is known. -/
theorem later (passed : Passed standing middle holds) (behind : rest <:+ middle) :
    Passed standing rest holds := by
  obtain ⟨others, rfl⟩ := behind
  have more : Passed (others ++ rest) rest fun _ => True := ⟨others, rfl, fun _ _ => trivial⟩
  exact (passed.trans more).imp fun _ both => both.1

/-- Passing over earlier tokens, too, keeps what is known. -/
theorem earlier (passed : Passed middle rest holds) (behind : middle <:+ standing) :
    Passed standing rest holds := by
  obtain ⟨before, rfl⟩ := behind
  have first : Passed (before ++ middle) middle fun _ => True := ⟨before, rfl, fun _ _ => trivial⟩
  exact (first.trans passed).imp fun _ both => both.2

/-- Where no place is known, something is known of known places only if a token was passed over. -/
theorem exists_token (passed : Passed standing rest holds) (placed : ¬ holds fun _ => False) :
    ∃ token consumed, standing = token :: consumed ++ rest ∧
      ∀ known, Token.AllAt known (token :: consumed) → holds known := by
  obtain ⟨consumed, same, follows⟩ := passed
  cases consumed with
  | nil => exact absurd (follows _ Token.allAt_nil) placed
  | cons token consumed => exact ⟨token, consumed, same, follows⟩

end Passed

namespace Answers

variable {First Second : Type} {standing : List Token} {first : Parser First}
  {second : First → Parser Second}

/-- What comes first does not matter to the answer. -/
theorem skip {final : Second → List Token → Prop} [forward : Forward first]
    (goesOn : ∀ found rest, rest <:+ standing → Answers rest (second found) final) :
    Answers standing (first >>= second) final :=
  (forward.suffix standing).bind goesOn

/-- The present place is the one of the next token, if there is one. -/
theorem positioned {next : Position → Parser Second} {final : Second → List Token → Prop}
    (goesOn : ∀ start, (∀ token rest, standing = token :: rest → start = token.position) →
      Answers standing (next start) final) :
    Answers standing (Parser.position >>= next) final := by
  refine lookAt fun stream stands => goesOn stream.position ?_
  rintro token rest rfl
  rw [Stream.position, stands]

/-- Looking ahead does not move. -/
theorem peeked {test : List Token → Bool} {next : Bool → Parser Second}
    {final : Second → List Token → Prop} (goesOn : ∀ found, Answers standing (next found) final) :
    Answers standing (Parser.peek test >>= next) final :=
  peek.bind fun found _ ⟨_, same⟩ => same.symm ▸ goesOn found

/-- What follows of an answer whichever places are known. -/
theorem of_traces {condition : (Position → Prop) → First → Prop}
    (traces : ∀ known, Traces known first (condition known)) :
    Answers standing first fun result rest =>
      Passed standing rest fun known => condition known result := by
  intro stream rest result stands done
  obtain ⟨consumed, same, _⟩ := traces (fun _ => True) _ _ _ _ stands done
  refine ⟨consumed, same, fun known all => ?_⟩
  obtain ⟨consumed', same', holds⟩ := traces known _ _ _ _ stands done
  exact holds (List.append_cancel_right (same.symm.trans same') ▸ all)

/-- What fails in between answers nothing. -/
theorem failing {choices : List Expectation} {final : Second → List Token → Prop} :
    Answers standing (Parser.failExpected choices >>= second) final := by
  intro stream rest result _ done
  obtain ⟨_, _, fails, _⟩ := bind_eq_ok done
  exact nomatch fails

/-- Every answer satisfies the condition that is always true. -/
theorem any : Answers standing first fun _ _ => True :=
  fun _ _ _ _ _ => trivial

/-- Tokens that are kept as they stand begin where the first of them does. -/
theorem sinceStart {beginning : List Token} {holds : (Position → Prop) → Prop}
    (passed : Passed beginning standing holds) (placed : ¬ holds fun _ => False) :
    Answers standing (Parser.since beginning) fun tokens rest =>
      Passed beginning rest fun known =>
        ∃ token more, tokens = token :: more ∧ known token.position := by
  obtain ⟨token, consumed, rfl, _⟩ := passed.exists_token placed
  refine since.imp fun tokens rest ⟨passes, stays⟩ => ?_
  refine ⟨token :: consumed, stays ▸ rfl, fun known all => ?_⟩
  exact ⟨token, consumed, passes, Token.position_of_allAt all⟩

/-- Tokens that are refused begin where what is known of them began. -/
theorem refusedSince {beginning : List Token} {construct : Construct}
    {holds : (Position → Prop) → Prop} (passed : Passed beginning standing holds)
    (placed : ¬ holds fun _ => False) :
    Answers standing (Parser.refusedSince construct beginning) fun code rest =>
      Passed beginning rest fun known => code.Begins known :=
  (sinceStart passed placed).bind fun _ _ kept => pure (kept.imp fun _ ⟨_, _, same, at_⟩ =>
    same ▸ Code.begins_refuse at_)

end Answers

namespace TracesAll

variable {First Second : Type} {known : Position → Prop} {first : Parser First}
  {second : First → Parser Second} {condition : First → Prop} {final : Second → Prop}

/-- What a group holds is told of by its front whatever follows that. -/
theorem front (starts : TracesAll known first condition)
    (holds : ∀ found, condition found → ∀ standing,
      Answers standing (second found) fun result _ => final result) :
    TracesAll known (first >>= second) final :=
  fun standing all => (starts standing all).bind fun found rest placed => holds found placed rest

end TracesAll

namespace Traces

variable {First Second : Type} {known : Position → Prop} {first : Parser First}
  {second : First → Parser Second} {condition : First → Prop} {final : Second → Prop}

/-- What follows of the tokens in front of the rest follows of known places. -/
theorem of_passed {holds : (Position → Prop) → First → Prop}
    (passes : ∀ standing, Answers standing first fun result rest =>
      Passed standing rest fun known => holds known result) :
    Traces known first (holds known) :=
  fun standing => (passes standing).imp fun _ _ ⟨consumed, same, follows⟩ =>
    ⟨consumed, same, follows known⟩

/-- Two parsers in a row place their results one after the other. -/
theorem bind (starts : Traces known first condition)
    (goesOn : ∀ found, Traces known (second found) fun result => condition found → final result) :
    Traces known (first >>= second) final := by
  intro standing
  refine (starts standing).bind fun found middle ⟨before, same, holds⟩ => ?_
  refine (goesOn found middle).imp fun result rest ⟨behind, same', follows⟩ => ?_
  refine ⟨before ++ behind, by rw [same, same', List.append_assoc], fun all => ?_⟩
  rw [Token.allAt_append] at all
  exact follows all.2 (holds all.1)

/-- What comes first does not matter to the answer. -/
theorem skip [Forward first] (goesOn : ∀ found, Traces known (second found) final) :
    Traces known (first >>= second) final := by
  intro standing
  refine .skip fun found middle ⟨before, same⟩ => ?_
  refine (goesOn found middle).imp fun _ _ ⟨behind, same', holds⟩ => ?_
  refine ⟨before ++ behind, by rw [← same, same', List.append_assoc], fun all => ?_⟩
  exact holds (Token.allAt_append.mp all).2

/-- A result that satisfies a condition satisfies every weaker one. -/
theorem imp {weaker : First → Prop} (traces : Traces known first condition)
    (weakens : ∀ found, condition found → weaker found) : Traces known first weaker :=
  fun standing => (traces standing).imp fun found _ ⟨consumed, same, holds⟩ =>
    ⟨consumed, same, fun all => weakens found (holds all)⟩

/-- A result without reading satisfies its condition without known places. -/
theorem pure {result : First} (holds : condition result) :
    Traces known (Pure.pure result) condition :=
  fun _ => .pure ⟨[], rfl, fun _ => holds⟩

/-- What fails places everything. -/
theorem failAt {problem : SyntaxProblem} {position : Position} :
    Traces known (Parser.failAt problem position) condition :=
  fun _ => .failAt

/-- What fails as unexpected places everything. -/
theorem failExpected {choices : List Expectation} :
    Traces known (Parser.failExpected choices) condition :=
  fun _ => .failExpected

/-- Both branches of a condition place what they read. -/
theorem ite {test : Prop} [Decidable test] {other : Parser First}
    (one : Traces known first condition) (another : Traces known other condition) :
    Traces known (if test then first else other) condition := by
  split <;> assumption

/-- Branches that go on alike behind what each of them answers. -/
theorem branch {test : Prop} [Decidable test] {other : Parser First}
    (condition : First → Prop) (one : Traces known first condition)
    (another : Traces known other condition)
    (goesOn : ∀ found, Traces known (second found) fun result => condition found → final result) :
    Traces known (if test then first >>= second else other >>= second) final := by
  split
  next => exact one.bind goesOn
  next => exact another.bind goesOn

/-- Branches that do not matter to the answer. -/
theorem either {test : Prop} [Decidable test] {other : Parser First} [Forward first]
    [Forward other] (goesOn : ∀ found, Traces known (second found) final) :
    Traces known (if test then first >>= second else other >>= second) final :=
  .ite (.skip goesOn) (.skip goesOn)

/-- Known places of all tokens are known places of those that are passed over. -/
theorem all (traces : Traces known first condition) : TracesAll known first condition := by
  intro standing all
  refine (traces standing).imp fun _ _ ⟨_, same, holds⟩ => holds ?_
  rw [same, Token.allAt_append] at all
  exact all.1

/-- The first token is where it stands. -/
theorem of_head {token : Token} {standing more rest : List Token} {holds : Prop}
    (same : standing = token :: more) (behind : rest <:+ more)
    (at_ : known token.position → holds) :
    ∃ consumed, standing = consumed ++ rest ∧ (Token.AllAt known consumed → holds) := by
  obtain ⟨consumed, rfl⟩ := behind
  exact ⟨token :: consumed, same, fun all => at_ (Token.position_of_allAt all)⟩

/-- A mark stands where it was read. -/
theorem mark {spelling : String} : Traces known (Parser.mark spelling) known := by
  refine fun _ => Answers.mark.imp ?_
  rintro _ _ ⟨_, _, _, same, behind⟩
  exact of_head same behind id

/-- A keyword stands where it was read. -/
theorem keyword {spelling : String} : Traces known (Parser.keyword spelling) known :=
  fun _ => Answers.keyword.imp fun _ _ same => of_head same List.suffix_rfl id

/-- A word stands where it was read. -/
theorem anyWord : Traces known Parser.anyWord fun name => known name.position :=
  fun _ => Answers.anyWord.imp fun _ _ same => of_head same List.suffix_rfl id

/-- An identifier stands where it was read. -/
theorem identifier : Traces known Parser.identifier fun name => known name.position :=
  fun _ => Answers.identifier.imp fun _ _ found => of_head found.1 List.suffix_rfl id

/-- A lifetime stands where it was read. -/
theorem lifetime : Traces known Parser.lifetime fun name => known name.position :=
  fun _ => Answers.lifetime.imp fun _ _ same => of_head same List.suffix_rfl id

/-- A string literal stands where its token does. -/
theorem position_of_ofToken? {token : Token} {literal : StringLiteral}
    (found : StringLiteral.ofToken? token = some literal) : literal.position = token.position := by
  unfold StringLiteral.ofToken? at found
  split at found
  next =>
    unfold StringLiteral.ofSpelling? at found
    split at found
    next => cases found; rfl
    next => cases found; rfl
    next => exact nomatch found
  next => exact nomatch found

/-- A string literal stands where it was read. -/
theorem stringLiteral :
    Traces known Parser.stringLiteral fun literal => known literal.position := by
  refine fun _ => Answers.stringLiteral.imp ?_
  rintro _ _ ⟨_, same, found⟩
  refine of_head same List.suffix_rfl fun at_ => ?_
  change known _
  rwa [position_of_ofToken? found]

/-- A group stands at its delimiters, and its inside between them. -/
theorem group {delimiter : Delimiter} (inside : TracesAll known first condition) :
    Traces known (Parser.group delimiter first) fun enclosed =>
      known enclosed.opening ∧ known enclosed.closing ∧ condition enclosed.value := by
  intro standing stream rest enclosed stands done
  obtain ⟨inner, finished, same, within, _⟩ := group_eq_ok done
  refine ⟨[.group delimiter enclosed.opening enclosed.closing inner], stands ▸ same, fun all => ?_⟩
  rw [Token.allAt_group] at all
  exact ⟨all.1, all.2.2, inside _ all.2.1 _ _ _ rfl within⟩

/-- The delimiters of a group are known whatever stands between them. -/
theorem delimiters {delimiter : Delimiter} :
    Traces known (Parser.group delimiter first) fun enclosed =>
      known enclosed.opening ∧ known enclosed.closing := by
  have inside : TracesAll known first fun _ => True := fun _ _ _ _ _ _ _ => trivial
  exact (group inside).imp fun _ ⟨opens, closes, _⟩ => ⟨opens, closes⟩

/-- An attempt places its result if it has one. -/
theorem attempt (traces : Traces known first condition) :
    Traces known (Parser.attempt first) fun found => ∀ result ∈ found, condition result := by
  intro standing
  refine (traces standing).attempt.imp fun found rest left => ?_
  cases found with
  | none => exact ⟨[], left.symm, fun _ _ member => nomatch member⟩
  | some result =>
    obtain ⟨consumed, same, holds⟩ := left
    refine ⟨consumed, same, fun all other member => ?_⟩
    cases member
    exact holds all

/-- A mark that can be absent stands where it was read, if it was. -/
theorem mark? {spelling : String} :
    Traces known (Parser.mark? spelling) fun found => ∀ position ∈ found, known position := by
  unfold Parser.mark?
  refine skip fun _ => ?_
  split
  next => exact mark.bind fun _ => pure fun at_ _ member => Option.some.inj member ▸ at_
  next => exact pure fun _ member => nomatch member

/-- A keyword that can be absent stands where it was read, if it was. -/
theorem keyword? {spelling : String} :
    Traces known (Parser.keyword? spelling) fun found => ∀ position ∈ found, known position := by
  unfold Parser.keyword?
  refine skip fun _ => ?_
  split
  next => exact keyword.bind fun _ => pure fun at_ _ member => Option.some.inj member ▸ at_
  next => exact pure fun _ member => nomatch member

/-- A repeated step places all its results, by induction on how often it may still be taken. -/
theorem repeatFrom {step : Parser (Option First)} {fuel : Nat} {found : List First}
    (steps : Traces known step fun answer => ∀ result ∈ answer, condition result) :
    Traces known (Parser.repeatFrom step fuel found) fun results =>
      (∀ result ∈ found, condition result) → ∀ result ∈ results, condition result := by
  induction fuel generalizing found with
  | zero => exact pure fun earlier result member => earlier result (List.mem_reverse.mp member)
  | succ fuel hypothesis =>
    refine steps.bind fun answer => ?_
    cases answer with
    | none =>
      exact pure fun _ earlier result member => earlier result (List.mem_reverse.mp member)
    | some result =>
      refine hypothesis.imp fun results holds one earlier => holds ?_
      exact List.forall_mem_cons.mpr ⟨one result rfl, earlier⟩

/-- A repeated step places all its results. -/
theorem repeatStep {step : Parser (Option First)}
    (steps : Traces known step fun answer => ∀ result ∈ answer, condition result) :
    Traces known (Parser.repeatStep step) fun results => ∀ result ∈ results, condition result :=
  skip fun _ => (repeatFrom steps).imp fun _ holds => holds fun _ member => nomatch member

/-- What is read up to the end is placed result by result. -/
theorem untilEmpty (traces : Traces known first condition) :
    Traces known (Parser.untilEmpty first) fun results => ∀ result ∈ results, condition result := by
  refine repeatStep (skip fun _ => ?_)
  split
  next => exact pure fun _ member => nomatch member
  next => exact traces.bind fun _ => pure fun holds _ member => Option.some.inj member ▸ holds

/-- The entries of a list are placed, by induction on how many may still follow. -/
theorem listFrom {stops goesOn : List Token → Bool} {separator : String} {fuel : Nat}
    {found : List (Separated First)} (traces : Traces known first condition) :
    Traces known (Parser.listFrom stops separator goesOn first fuel found) fun results =>
      (∀ result ∈ found, condition result.entry) →
        ∀ result ∈ results, condition result.entry := by
  induction fuel generalizing found with
  | zero => exact pure fun earlier result member => earlier result (List.mem_reverse.mp member)
  | succ fuel hypothesis =>
    unfold Parser.listFrom
    refine skip fun stop => ?_
    split
    next => exact pure fun earlier result member => earlier result (List.mem_reverse.mp member)
    next =>
      refine traces.bind fun entry => skip fun _ => ?_
      split
      next =>
        refine skip fun position => hypothesis.imp fun results holds one earlier => holds ?_
        exact List.forall_mem_cons.mpr ⟨one, earlier⟩
      next =>
        refine pure fun one earlier result member => ?_
        cases List.mem_cons.mp (List.mem_reverse.mp member) with
        | inl same => exact same ▸ one
        | inr member => exact earlier result member

/-- A list up to its end places all its entries. -/
theorem listUntil {stops : List Token → Bool} {separator : String}
    (traces : Traces known first condition) :
    Traces known (Parser.listUntil stops separator first) fun results =>
      ∀ result ∈ results, condition result.entry :=
  skip fun _ => (listFrom traces).imp fun _ holds => holds fun _ member => nomatch member

end Traces

end Parser

end DataAccess
