/-
This file proves of everything that was read that its names, visibilities and parameters can be
written into generated code.
-/

import DataAccess.Proofs.Compile.AcceptedMethod
import DataAccess.Proofs.Compile.Rendered
import DataAccess.Proofs.Parse.AcceptsItem
import DataAccess.Proofs.Parse.Traces

namespace DataAccess

namespace Parser

/-- What a group that stands next holds is what is read of it. -/
theorem Answers.standingGroup {Result : Type} {inside : Parser Result}
    {condition : Result → List Token → Prop} {delimiter : Delimiter} {opening closing : Position}
    {inner rest : List Token} (answers : Answers inner inside condition) :
    Answers (.group delimiter opening closing inner :: rest) (Parser.group delimiter inside)
      fun enclosed left => left = rest ∧ enclosed.opening = opening ∧ enclosed.closing = closing ∧
        ∃ left, condition enclosed.value left := by
  intro stream left enclosed stands done
  obtain ⟨_, finished, same, within, _⟩ := group_eq_ok done
  rw [stands] at same
  cases same
  exact ⟨rfl, rfl, rfl, _, answers _ _ _ rfl within⟩

/-- Whatever the parser reads, its answer satisfies a condition. -/
class Ensures {Result : Type} (condition : Result → Prop) (parser : Parser Result) : Prop where
  holds : ∀ standing, Answers standing parser fun result _ => condition result

namespace Ensures

variable {First Second : Type} {first other : Parser First} {second : First → Parser Second}
  {condition : First → Prop} {final : Second → Prop}

/-- What two parsers in a row ensure follows from what the first one ensures. -/
theorem andThen (starts : Ensures condition first)
    (goesOn : ∀ found, condition found → Ensures final (second found)) :
    Ensures final (first >>= second) where
  holds standing := (starts.holds standing).bind fun found rest held =>
    (goesOn found held).holds rest

/-- What comes first does not matter to the answer. -/
theorem skip (goesOn : ∀ found, Ensures final (second found)) :
    Ensures final (first >>= second) where
  holds _ := .bind (fun _ _ _ _ _ => trivial) fun found rest (_ : True) =>
    (goesOn found).holds rest

/-- What comes first does not matter to the answer, wherever instances are looked for. -/
instance [goesOn : ∀ found, Ensures final (second found)] : Ensures final (first >>= second) :=
  skip goesOn

/-- Both branches of a condition ensure what is asked for. -/
instance {test : Prop} [Decidable test] [Ensures condition first] [Ensures condition other] :
    Ensures condition (if test then first else other) := by
  split <;> assumption

/-- What fails ensures everything. -/
instance (problem : SyntaxProblem) (position : Position) :
    Ensures condition (failAt problem position) where
  holds _ := .failAt

/-- What fails as unexpected ensures everything. -/
instance (choices : List Expectation) : Ensures condition (failExpected choices) where
  holds _ := .failExpected

/-- What has failed does not go on. -/
instance (choices : List Expectation) : Ensures final (failExpected choices >>= second) where
  holds _ := Answers.failExpected.bind fun _ _ (never : False) => never.elim

/-- A result without reading ensures what holds of it. -/
theorem pure {result : First} (held : condition result) :
    Ensures condition (Pure.pure result) where
  holds _ := .pure held

/-- A group ensures of its inside what the parser of the inside ensures. -/
theorem group {delimiter : Delimiter} (inside : Ensures condition first) :
    Ensures (fun enclosed => condition enclosed.value) (Parser.group delimiter first) where
  holds _ := (Answers.group inside.holds).imp fun _ _ ⟨_, _, _, held⟩ => held

/-- An attempt ensures the condition if it answers anything. -/
theorem attempt (reads : Ensures condition first) :
    Ensures (fun answer => ∀ result ∈ answer, condition result) (Parser.attempt first) where
  holds standing := (reads.holds standing).attempt.imp fun answer _ held => by
    cases answer with
    | some result => exact fun _ same => Option.some.inj same ▸ held
    | none => exact fun _ absent => nomatch absent

/-- A repeated step ensures the condition of all results, by induction on how often it may be
taken. -/
theorem repeatFrom {step : Parser (Option First)}
    (steps : Ensures (fun answer => ∀ result ∈ answer, condition result) step) {fuel : Nat}
    {found : List First} (earlier : ∀ result ∈ found, condition result) :
    Ensures (fun results => ∀ result ∈ results, condition result)
      (Parser.repeatFrom step fuel found) := by
  induction fuel generalizing found with
  | zero => exact pure fun result member => earlier result (List.mem_reverse.mp member)
  | succ fuel hypothesis =>
    refine steps.andThen fun answer held => ?_
    cases answer with
    | none => exact pure fun result member => earlier result (List.mem_reverse.mp member)
    | some result => exact hypothesis (List.forall_mem_cons.mpr ⟨held result rfl, earlier⟩)

/-- What is read up to the end ensures the condition of all results. -/
theorem untilEmpty (reads : Ensures condition first) :
    Ensures (fun results => ∀ result ∈ results, condition result) (Parser.untilEmpty first) := by
  have step : Ensures (fun answer => ∀ result ∈ answer, condition result) (do
      if ← isEmpty then return none else return some (← first)) := by
    have none_ : Ensures (fun answer : Option First => ∀ result ∈ answer, condition result)
        (Pure.pure none) := pure fun _ absent => nomatch absent
    have some_ : Ensures (fun answer => ∀ result ∈ answer, condition result)
        (do return some (← first)) :=
      reads.andThen fun found held => pure fun _ member => Option.some.inj member ▸ held
    infer_instance
  have rounds (fuel : Nat) : Ensures (fun results => ∀ result ∈ results, condition result)
      (Parser.repeatFrom (do if ← isEmpty then return none else return some (← first)) fuel []) :=
    repeatFrom step fun _ absent => nomatch absent
  unfold Parser.untilEmpty repeatStep
  infer_instance

/-- What is ensured holds of what a whole run answers. -/
theorem of_run {tokens : List Token} {result : First} (reads : Ensures condition first)
    (done : Parser.run first tokens = .ok result) : condition result := by
  unfold Parser.run Parser.runWithin at done
  split at done
  next => exact nomatch done
  next found finished reading =>
    split at done
    next => exact nomatch done
    next =>
      cases done
      exact reads.holds _ _ _ _ rfl reading

end Ensures

end Parser

/-- A pattern that is a name has one that a parameter can be bound under. -/
def Pattern.IsReadable : Pattern → Prop
  | .named _ _ name _ => name.IsBindable
  | .halfOpen _ _ => True
  | .other _ => True

/-- The pattern of a typed input can be read, and a receiver has no pattern. -/
def Input.IsReadable : Input → Prop
  | .typed _ pattern _ _ => pattern.IsReadable
  | .receiver _ _ _ _ _ => True

/-- Every name of a path can begin one. -/
def NamePath.IsReadable (path : NamePath) : Prop :=
  ∀ name ∈ path.names, Parse.StartsNamePath name

/-- The inputs of a signature can be read. -/
def Signature.IsReadable (signature : Signature) : Prop :=
  ∀ input ∈ signature.inputs, input.entry.IsReadable

/-- Of the items of a trait only the methods are written again. -/
def TraitItem.IsReadable : TraitItem → Prop
  | .method declared => declared.signature.IsReadable
  | .other _ => True

/-- The name of a trait is no keyword, and its visibility and its methods can be written. -/
structure TraitDeclaration.IsReadable (declaration : TraitDeclaration) : Prop where
  name : declaration.name.IsPlain
  visibility : Parse.Exposes declaration.visibility.tokens
  items : ∀ item ∈ declaration.items, item.IsReadable

/-- Attributes do not matter to what can be written of a trait. -/
theorem TraitDeclaration.IsReadable.attributed {declaration : TraitDeclaration}
    (readable : declaration.IsReadable) (attributes : List Attribute) :
    { declaration with attributes := attributes }.IsReadable :=
  ⟨readable.name, readable.visibility, readable.items⟩

/-- Only traits are written again with their parts. -/
def Item.IsReadable : Item → Prop
  | .trait declaration => declaration.IsReadable
  | .plain _ => True
  | .verbatim _ => True

namespace Parse

open DataAccess.Parser

set_option synthInstance.maxSize 8000

variable {grammar : Grammar}

/-- An identifier is no keyword. -/
instance ensures_identifier : Ensures Name.IsPlain identifier where
  holds _ := Answers.identifier.imp fun _ _ found => found.2

/-! Patterns. -/

/-- A pattern that is not looked into is readable. -/
instance (code : Code) : Ensures Pattern.IsReadable (pure (.other code)) :=
  .pure trivial

/-- A half-open range is no name. -/
instance (dots : Position) (code : Code) :
    Ensures Pattern.IsReadable (pure (.halfOpen dots code)) :=
  .pure trivial

/-- A pattern with a limit is no name. -/
instance (lower : Code) : Ensures Pattern.IsReadable (limitPattern grammar lower) := by
  unfold limitPattern
  have ends (found : RangeDots × Option Code) : Ensures Pattern.IsReadable (match found with
      | (dots, none) => pure (.halfOpen dots.position (lower ++ dots.code))
      | (dots, some upper) => pure (.other (lower ++ dots.code ++ upper)) : Parser Pattern) := by
    split <;> infer_instance
  infer_instance

/-- A range pattern without a lower limit is no name. -/
instance : Ensures Pattern.IsReadable (openRangePattern grammar) := by
  unfold openRangePattern
  have ends (found : RangeDots × Option Code) : Ensures Pattern.IsReadable (match found with
      | (dots, none) => pure (.other dots.code)
      | (dots, some upper) => pure (.halfOpen dots.position (dots.code ++ upper)) :
        Parser Pattern) := by
    split <;> infer_instance
  infer_instance

/-- A pattern that begins with a path is no name. -/
instance : Ensures Pattern.IsReadable (pathPattern grammar) := by
  unfold pathPattern
  infer_instance

/-- A pattern that binds a name binds an identifier or the receiver's keyword. -/
instance : Ensures Pattern.IsReadable (namedPattern grammar) := by
  have named (reference mutability : Option Position) (name : Name) (bindable : name.IsBindable) :
      Ensures Pattern.IsReadable (do
        if ← peek (Peek.mark "@") then
          let at_ ← markCode "@"
          let inner ← grammar.pattern
          return .named reference mutability name (some (at_ ++ inner.code))
        else return .named reference mutability name none) := by
    have ends (inner : Option Code) :
        Ensures Pattern.IsReadable (pure (.named reference mutability name inner)) :=
      .pure bindable
    infer_instance
  unfold namedPattern
  refine .skip fun reference => .skip fun mutability => ?_
  extract_lets next
  have goesOn (name : Name) (bindable : name.IsBindable) :
      Ensures Pattern.IsReadable (next name) := named reference mutability name bindable
  clear_value next
  refine ⟨fun standing => .bind .peek ?_⟩
  rintro _ standing ⟨rfl, rfl⟩
  split
  next isSelf =>
    refine Answers.anyWord.bind fun name rest same => (goesOn name (.inr ?_)).holds rest
    rw [same] at isSelf
    exact eq_of_beq isSelf
  next => exact (ensures_identifier.andThen fun name plain => goesOn name (.inl plain)).holds _

/-- A pattern is readable, whatever it begins with. -/
instance : Ensures Pattern.IsReadable (pattern grammar) := by
  unfold pattern
  infer_instance

/-! Visibilities. -/

/-- A path is readable if its names are, those in front of the last one as well. -/
theorem isReadable_namePath {leading : Option Position} {qualifier : List (Name × Position)}
    {last : Name} (named : ∀ segment ∈ qualifier, StartsNamePath segment.1)
    (ended : StartsNamePath last) : NamePath.IsReadable ⟨leading, qualifier.reverse, last⟩ := by
  simp only [NamePath.IsReadable, NamePath.names, List.forall_mem_append, List.forall_mem_map,
    List.forall_mem_cons, List.mem_reverse]
  exact ⟨named, ended, fun _ absent => nomatch absent⟩

/-- The names of a path are readable, by induction on how many may still follow. -/
theorem ensures_namePathFrom {leading : Option Position} {fuel : Nat}
    {qualifier : List (Name × Position)}
    (named : ∀ segment ∈ qualifier, StartsNamePath segment.1) :
    Ensures NamePath.IsReadable (namePathFrom leading fuel qualifier) := by
  -- The names in front are all readable; each turn looks at the next one before it is taken.
  induction fuel generalizing qualifier with
  | zero => exact inferInstanceAs (Ensures _ (failExpected _))
  | succ fuel hypothesis =>
    refine ⟨fun standing => .bind .peek ?_⟩
    rintro _ standing ⟨rfl, rfl⟩
    split
    next starts =>
      refine Answers.anyWord.bind fun name rest same => ?_
      rw [same] at starts
      have goesOn (colons : Position) : Ensures NamePath.IsReadable
          (namePathFrom leading fuel ((name, colons) :: qualifier)) :=
        hypothesis (List.forall_mem_cons.mpr ⟨starts, named⟩)
      have ends : Ensures NamePath.IsReadable (pure ⟨leading, qualifier.reverse, name⟩) :=
        .pure (isReadable_namePath named starts)
      refine Answers.peek.bind fun _ _ _ => ?_
      split
      next => exact (Ensures.skip fun colons => goesOn colons).holds _
      next => exact ends.holds _
    next =>
      have ends : Ensures NamePath.IsReadable (do
          let name ← identifier
          return ⟨leading, [], name⟩) :=
        ensures_identifier.andThen fun name plain => .pure <|
          isReadable_namePath (List.forall_mem_nil _)
            (Bool.or_eq_true_iff.mpr (.inl plain.identifier))
      split
      next => exact ends.holds _
      next => exact .failExpected

/-- A path of names is readable. -/
instance ensures_namePath : Ensures NamePath.IsReadable namePath := by
  unfold namePath
  exact .skip fun _ => .skip fun _ => ensures_namePathFrom (List.forall_mem_nil _)

/-- A keyword that is kept as code answers its own code. -/
theorem answers_keywordCode {spelling : String} {standing : List Token} :
    Answers standing (keywordCode spelling) fun code _ =>
      ∃ position, code = Code.keyword spelling position :=
  Answers.any.bind fun position _ _ => .pure ⟨position, rfl⟩

/-- Without the keyword, a place stands alone. -/
theorem answers_restriction_place {standing : List Token}
    (without : Peek.word "in" standing = false) :
    Answers standing restriction fun _ _ => ∃ name, standing = [.word name] ∧
      (name.text = "crate" ∨ name.text = "self" ∨ name.text = "super") := by
  unfold restriction
  refine Answers.peek.bind ?_
  rintro _ standing ⟨rfl, rfl⟩
  split
  next isPlace =>
    have word : Answers standing anyWordCode fun _ rest => ∃ name, standing = .word name :: rest :=
      Answers.anyWord.bind fun name _ same => .pure ⟨name, same⟩
    refine word.bind fun _ rest ⟨name, same⟩ => ?_
    have ended : Answers rest isEmpty fun answer left => answer = rest.isEmpty ∧ left = rest :=
      .of_look fun _ stands => ⟨congrArg List.isEmpty stands, rfl⟩
    refine ended.bind ?_
    rintro _ _ ⟨rfl, rfl⟩
    split
    next isLast =>
      rw [List.isEmpty_iff.mp isLast] at same
      refine .pure ⟨name, same, ?_⟩
      rw [same] at isPlace
      simpa [Peek.anyOf, Peek.word] using isPlace
    next => exact .failExpected
  next =>
    refine Answers.peek.bind ?_
    rintro _ _ ⟨rfl, rfl⟩
    rw [without]
    exact .failExpected

/-- Behind the keyword stands a path, which is readable. -/
theorem answers_restriction_within {standing : List Token}
    (begins : Peek.word "in" standing = true) :
    Answers standing restriction fun code _ => ∃ (start : Position) (path : NamePath),
      code.tokens = Token.keyword "in" start :: path.code.tokens ∧ path.IsReadable := by
  unfold restriction
  refine Answers.peek.bind ?_
  rintro _ standing ⟨rfl, rfl⟩
  split
  next isPlace =>
    match standing with
    | .word name :: _ =>
      have text : name.text = "in" := eq_of_beq begins
      simp [Peek.anyOf, Peek.word, text] at isPlace
  next =>
    refine Answers.peek.bind ?_
    rintro _ _ ⟨rfl, rfl⟩
    rw [begins]
    refine answers_keywordCode.bind ?_
    rintro _ rest ⟨start, rfl⟩
    refine (ensures_namePath.holds rest).bind fun path _ readable => .pure ?_
    refine ⟨start, path, ?_, readable⟩
    rw [Code.tokens_append]
    split
    next => rw [Code.tokens_leaveOut]; rfl
    next => rfl

/-- A visibility is one of the forms that can be written in front of a struct. -/
instance ensures_visibility : Ensures (fun code => Exposes code.tokens) visibility where
  holds standing := by
    have keyword : Answers standing (keywordCode? "pub") fun code _ =>
        code = [] ∨ ∃ position, code = Code.keyword "pub" position := by
      refine Answers.peek.bind fun _ _ _ => ?_
      split
      next => exact answers_keywordCode.imp fun _ _ found => .inr found
      next => exact .pure (.inl rfl)
    unfold visibility
    refine keyword.bind ?_
    rintro _ standing (rfl | ⟨position, rfl⟩)
    · exact .pure .hidden
    have everywhere : Answers standing (pure (Code.keyword "pub" position)) fun code _ =>
        Exposes code.tokens := .pure (.everywhere position)
    refine .look ?_
    split
    next opening closing inner rest =>
      have restricted {condition : Code → List Token → Prop}
          (answers : Answers inner restriction condition) :
          Answers (.group .parenthesis opening closing inner :: rest)
            (groupCode .parenthesis restriction) fun code _ =>
              ∃ (within : Code) (left : List Token),
                code = [.group .parenthesis opening closing within] ∧ condition within left := by
        refine answers.standingGroup.bind ?_
        rintro enclosed _ ⟨rfl, rfl, rfl, left, held⟩
        exact .pure ⟨enclosed.value, left, rfl, held⟩
      split
      next begins =>
        refine (restricted (answers_restriction_within begins)).bind ?_
        rintro _ _ ⟨within, _, rfl, start, path, written, readable⟩
        refine .pure ?_
        change Exposes [_, .group _ _ _ within.tokens]
        rw [written]
        exact .within position opening closing start readable
      next without =>
        have place := answers_restriction_place (eq_false_of_ne_true without)
        refine (restricted place).attempt.bind ?_
        rintro (_ | _) rest found
        · exact .pure (.everywhere position)
        · obtain ⟨_, _, _, name, rfl, known⟩ := found
          exact .pure (.place position opening closing known)
    next => exact everywhere

end Parse

/-- Every name that a pattern of the grammar is can be bound. -/
class Grammar.Readable (grammar : Grammar) : Prop where
  pattern : Parser.Ensures Pattern.IsReadable grammar.pattern

namespace Parse

open DataAccess.Parser

set_option synthInstance.maxSize 8000

variable {grammar : Grammar} [Grammar.Readable grammar]

/-- However deep the grammar nests, its patterns are readable. -/
instance (depth : Nat) : Grammar.Readable (Parse.grammar depth) where
  pattern :=
    match depth with
    | 0 => inferInstanceAs (Ensures _ (failExpected _))
    | depth + 1 => inferInstanceAs (Ensures _ (pattern (Parse.grammar depth)))

/-! Signatures. -/

/-- What ends the inputs has nothing that could be written. -/
def InputOrVariadic.IsReadable : InputOrVariadic → Prop
  | .input read => read.IsReadable
  | .variadic _ => True

/-- A receiver is readable, since it binds no name. -/
instance ensures_receiver {attributes : List Attribute} :
    Ensures Input.IsReadable (receiver grammar attributes) := by
  have ends (reference : Option (Position × Option Name)) (mutability : Option Position)
      (self : Position) (ascription : Option (Position × DeclaredType)) : Ensures Input.IsReadable
        (pure (.receiver attributes reference mutability self ascription)) := .pure trivial
  have typed (reference : Option (Position × Option Name)) (mutability : Option Position)
      (self : Position) (colon : Option Position) : Ensures Input.IsReadable (match colon with
        | some position => do
            return .receiver attributes reference mutability self
              (some (position, ← grammar.type true))
        | none => return .receiver attributes reference mutability self none) := by
    cases colon <;> infer_instance
  unfold receiver
  infer_instance

/-- A typed input has the pattern that was read for it. -/
instance ensures_typedInput {attributes : List Attribute} :
    Ensures InputOrVariadic.IsReadable (typedInput grammar attributes) := by
  have variadic (read : Variadic) : Ensures InputOrVariadic.IsReadable (pure (.variadic read)) :=
    .pure trivial
  have unnamed (code : Code) (colon : Position) (declared : DeclaredType) :
      Ensures InputOrVariadic.IsReadable
        (pure (.input (.typed attributes (.other code) colon declared))) := .pure trivial
  have named (pattern : Pattern) (readable : pattern.IsReadable) (colon : Position)
      (declared : DeclaredType) : Ensures InputOrVariadic.IsReadable
        (pure (.input (.typed attributes pattern colon declared))) := .pure readable
  unfold typedInput
  refine .skip fun _ => ?_
  split
  next => infer_instance
  next =>
    refine Grammar.Readable.pattern.andThen fun pattern readable => ?_
    have goesOn := named pattern readable
    infer_instance

/-- An input is readable, whichever of its forms it has. -/
instance ensures_inputOrVariadic :
    Ensures InputOrVariadic.IsReadable (inputOrVariadic grammar) := by
  have variadic (read : Variadic) : Ensures InputOrVariadic.IsReadable (pure (.variadic read)) :=
    .pure trivial
  unfold inputOrVariadic
  refine .skip fun attributes => .skip fun _ => ?_
  split
  next => infer_instance
  next =>
    refine ensures_receiver.attempt.andThen fun found readable => ?_
    cases found with
    | some input => exact .pure (readable input rfl)
    | none => exact ensures_typedInput

/-- Further inputs are readable, by induction on how many may still follow. -/
theorem ensures_inputsFrom {fuel : Nat} {found : List (Separated Input)}
    (earlier : ∀ input ∈ found, input.entry.IsReadable) :
    Ensures (fun read => ∀ input ∈ read.1, input.entry.IsReadable)
      (inputsFrom grammar fuel found) := by
  have reversed {found : List (Separated Input)} (earlier : ∀ input ∈ found, input.entry.IsReadable)
      (variadic : Option Variadic) :
      Ensures (fun read => ∀ input ∈ read.1, input.entry.IsReadable)
        (pure (found.reverse, variadic)) :=
    .pure fun input listed => earlier input (List.mem_reverse.mp listed)
  induction fuel generalizing found with
  | zero => exact reversed earlier none
  | succ fuel hypothesis =>
    have ends := reversed earlier
    unfold inputsFrom
    refine .skip fun _ => ?_
    split
    next => infer_instance
    next =>
      refine ensures_inputOrVariadic.andThen fun read readable => ?_
      cases read with
      | variadic => infer_instance
      | input input =>
        have longer (comma : Option Position) :
            ∀ other ∈ (⟨input, comma⟩ :: found : List (Separated Input)), other.entry.IsReadable :=
          List.forall_mem_cons.mpr ⟨readable, earlier⟩
        have last := reversed (longer none) none
        have others (comma : Position) := hypothesis (longer (some comma))
        infer_instance

/-- All inputs between the parentheses are readable. -/
theorem ensures_inputs :
    Ensures (fun read => ∀ input ∈ read.1, input.entry.IsReadable) (inputs grammar) :=
  .skip fun _ => ensures_inputsFrom (List.forall_mem_nil _)

/-- A signature is readable if its inputs are. -/
instance ensures_signatureOf {allowSafe : Bool} :
    Ensures (fun found => found.1.IsReadable) (signatureOf grammar allowSafe) := by
  unfold signatureOf
  refine .skip fun constness => .skip fun asyncness => .skip fun unsafety => ?_
  extract_lets next
  have goesOn (safe : Option Position) :
      Ensures (fun found => found.1.IsReadable) (next safe) := by
    refine .skip fun abi => .skip fun keyword => .skip fun name => .skip fun generics => ?_
    refine ensures_inputs.group.andThen fun enclosed readable => ?_
    exact .skip fun output => .skip fun conditions => .pure readable
  clear_value next
  infer_instance

/-- The signature of a method is readable. -/
instance ensures_signature : Ensures Signature.IsReadable (signature grammar) :=
  ensures_signatureOf.andThen fun _ readable => .pure readable

/-! Traits. -/

/-- A method of a trait has the signature that was read for it. -/
instance ensures_traitMethod {attributes : List Attribute} :
    Ensures (fun method => method.signature.IsReadable) (traitMethod grammar attributes) := by
  unfold traitMethod
  refine ensures_signature.andThen fun signature readable => ?_
  -- Both ends of a method keep the signature.
  have ends (attributes : List Attribute) (body : Option Body) (last : Position) :
      Ensures (fun method : Method => method.signature.IsReadable)
        (pure ⟨attributes, signature, body, last⟩) := .pure readable
  infer_instance

/-- An item of a trait is readable, also where it is kept as tokens. -/
instance ensures_traitItem : Ensures TraitItem.IsReadable (traitItem grammar) := by
  unfold traitItem
  refine .skip fun beginning => .skip fun attributes => .skip fun exposure => ?_
  refine .skip fun defaultness => ?_
  extract_lets plain front unchanged next
  have keeps : Ensures TraitItem.IsReadable unchanged := .skip fun _ => .pure trivial
  have goesOn (found : TraitItem) (readable : found.IsReadable) :
      Ensures TraitItem.IsReadable (next found) := by
    have same : Ensures TraitItem.IsReadable (pure found) := .pure readable
    dsimp only [next]
    infer_instance
  have other (code : Code) : Ensures TraitItem.IsReadable (pure (.other code) >>= next) :=
    goesOn (.other code) trivial
  have method : Ensures TraitItem.IsReadable
      (traitMethod grammar attributes >>= fun found => pure (.method found) >>= next) :=
    ensures_traitMethod.andThen fun found readable => goesOn (.method found) readable
  have kept : Ensures TraitItem.IsReadable (unchanged >>= next) := keeps.andThen goesOn
  clear_value unchanged next
  infer_instance

/-- The rest of a trait makes it readable, given its name and its visibility. -/
theorem ensures_traitRest {attributes : List Attribute} {visibility : Code}
    {unsafety automatic : Option Position} {keyword : Position} {name : Name}
    {generics : Generics} (plain : name.IsPlain) (exposes : Exposes visibility.tokens) :
    Ensures TraitDeclaration.IsReadable
      (traitRest grammar attributes visibility unsafety automatic keyword name generics) := by
  unfold traitRest
  refine .skip fun supertraits => .skip fun conditions => ?_
  have inside : Ensures (fun found => ∀ item ∈ found.2, item.IsReadable) (do
      let inner ← innerAttributes grammar
      let items ← untilEmpty (traitItem grammar)
      return (inner, items)) :=
    .skip fun _ => ensures_traitItem.untilEmpty.andThen fun _ readable => .pure readable
  exact inside.group.andThen fun _ readable => .pure ⟨plain, exposes, readable⟩

/-- A trait is readable. -/
instance ensures_traitDeclaration :
    Ensures TraitDeclaration.IsReadable (traitDeclaration grammar) := by
  unfold traitDeclaration
  refine .skip fun _ => ensures_visibility.andThen fun visibility exposes => ?_
  refine .skip fun _ => .skip fun _ => .skip fun _ => ?_
  exact ensures_identifier.andThen fun _ plain => .skip fun _ => ensures_traitRest plain exposes

/-! Items. -/

/-- The body of an item is readable unless it is a trait that is not. -/
def ItemBody.IsReadable : ItemBody → Prop
  | .trait declaration => declaration.IsReadable
  | .plain _ _ => True
  | .braced _ _ _ _ => True
  | .verbatim => True

/-- An item that is no trait is readable. -/
instance (kind : ItemKind) (before : Code) :
    Ensures ItemBody.IsReadable (pure (.plain kind before)) :=
  .pure trivial

/-- An item with braces is readable if it is no trait. -/
instance (kind : ItemKind) (before : Code) (inner : List Attribute) (body : Body) :
    Ensures ItemBody.IsReadable (pure (.braced kind before inner body)) :=
  .pure trivial

/-- An item that is kept as tokens is readable. -/
instance : Ensures ItemBody.IsReadable (pure .verbatim) :=
  .pure trivial

/-- A function is no trait. -/
instance : Ensures ItemBody.IsReadable (function grammar) := by
  unfold function
  infer_instance

/-- The declaration of a crate is no trait. -/
instance : Ensures ItemBody.IsReadable externCrate := by
  unfold externCrate
  infer_instance

/-- A struct is no trait. -/
instance : Ensures ItemBody.IsReadable (structItem grammar) := by
  unfold structItem
  infer_instance

/-- An enumeration is no trait. -/
instance : Ensures ItemBody.IsReadable (enumItem grammar) := by
  unfold enumItem
  infer_instance

/-- A union is no trait. -/
instance : Ensures ItemBody.IsReadable (unionItem grammar) := by
  unfold unionItem
  infer_instance

/-- A type item is no trait. -/
instance : Ensures ItemBody.IsReadable (typeItem grammar) := by
  unfold typeItem
  infer_instance

/-- A use declaration is no trait. -/
instance : Ensures ItemBody.IsReadable useItem := by
  unfold useItem
  infer_instance

/-- A static is no trait. -/
instance : Ensures ItemBody.IsReadable (staticItem grammar) := by
  unfold staticItem
  infer_instance

/-- A constant item is no trait. -/
instance : Ensures ItemBody.IsReadable (constantItem grammar) := by
  unfold constantItem
  infer_instance

/-- A module is no trait. -/
instance : Ensures ItemBody.IsReadable (moduleItem grammar) := by
  unfold moduleItem
  infer_instance

/-- A block of foreign items is no trait. -/
instance : Ensures ItemBody.IsReadable (foreignBlock grammar) := by
  unfold foreignBlock
  infer_instance

/-- An implementation is no trait. -/
instance : Ensures ItemBody.IsReadable (implementation grammar) := by
  unfold implementation
  have subject (goesOn : Code → Parser ItemBody)
      [∀ code, Ensures ItemBody.IsReadable (goesOn code)] (first : DeclaredType)
      (polarity : Option Position) : Ensures ItemBody.IsReadable (match polarity with
        | some position => failAt .negativeImplementation position >>= goesOn
        | none => pure first.code >>= goesOn) := by
    cases polarity <;> infer_instance
  infer_instance

/-- The call of a macro is no trait. -/
instance : Ensures ItemBody.IsReadable invocationItem := by
  unfold invocationItem
  have ends (found : NamePath) (bang : Code) (name? : Option Name) (body : Token)
      (semicolon : Code) : Ensures ItemBody.IsReadable (match name?, body with
        | some name, .group _ _ _ inner =>
            let front := found.code ++ bang ++ Code.word name
            if found.isName "macro_rules" then
              pure (ItemBody.plain .invocation
                (front ++ MacroRules.code inner (body :: Code.tokens semicolon)))
            else pure (ItemBody.plain .invocation (front ++ [.token body] ++ semicolon))
        | _, _ => (pure (ItemBody.plain .invocation
            (found.code ++ bang ++ [.token body] ++ semicolon)) : Parser ItemBody)) := by
    split <;> infer_instance
  infer_instance

/-- The definition of a macro is no trait. -/
instance : Ensures ItemBody.IsReadable macroDefinition := by
  unfold macroDefinition
  infer_instance

/-- A trait is readable as an item. -/
instance : Ensures ItemBody.IsReadable (do return .trait (← traitDeclaration grammar)) :=
  ensures_traitDeclaration.andThen fun _ readable => .pure readable

/-- A trait or a name for bounds is readable. -/
instance : Ensures ItemBody.IsReadable (traitOrAlias grammar) := by
  unfold traitOrAlias
  refine ensures_visibility.andThen fun exposure exposes => .skip fun keyword => ?_
  refine ensures_identifier.andThen fun name plain => .skip fun parameters => ?_
  have trait : Ensures ItemBody.IsReadable (do
      return .trait (← traitRest grammar [] exposure none none keyword name parameters)) :=
    (ensures_traitRest plain exposes).andThen fun _ readable => .pure readable
  infer_instance

/-- An item behind `extern` is no trait, also if it is read again from its start. -/
instance (start : Stream) : Ensures ItemBody.IsReadable (externItem grammar start) := by
  unfold externItem
  infer_instance

/-- An item behind `unsafe` may be a trait, which is read again from its start. -/
instance (start : Stream) : Ensures ItemBody.IsReadable (unsafeItem grammar start) := by
  unfold unsafeItem
  infer_instance

/-- The body of an item is readable, whatever kind of item it is. -/
instance ensures_itemBody : Ensures ItemBody.IsReadable (itemBody grammar) := by
  unfold itemBody
  infer_instance

/-- An item that is a trait can be named, exposed and implemented. -/
theorem ensures_item : Ensures Item.IsReadable (item grammar) := by
  unfold item
  refine .skip fun beginning => .skip fun attributes => ensures_itemBody.andThen ?_
  rintro (_ | _ | declaration | _) readable
  · exact .pure trivial
  · exact .pure trivial
  · exact .pure (TraitDeclaration.IsReadable.attributed readable _)
  · exact .skip fun _ => .pure trivial

/-- The name of a batch is no keyword, and its traits can be implemented. -/
theorem ensures_batch (depth : Nat) :
    Ensures (fun batch => batch.name.IsPlain ∧ ∀ item ∈ batch.items, item.IsReadable)
      (batch (Parse.grammar depth)) := by
  have item : Ensures Item.IsReadable (Parse.grammar depth).item :=
    match depth with
    | 0 => inferInstanceAs (Ensures _ (failExpected _))
    | depth + 1 => (ensures_item : Ensures Item.IsReadable (Parse.item (Parse.grammar depth)))
  have named (name : Name) (plain : name.IsPlain) :
      Ensures (fun batch : Batch => batch.name.IsPlain ∧ ∀ item ∈ batch.items, item.IsReadable) (do
        let options ← batchOptions
        let _ ← mark ";"
        return ⟨name, options, ← untilEmpty (Parse.grammar depth).item⟩) :=
    .skip fun _ => .skip fun _ => item.untilEmpty.andThen fun _ readable => .pure ⟨plain, readable⟩
  have whole := ensures_identifier.andThen named
  unfold batch
  infer_instance

end Parse

end DataAccess
