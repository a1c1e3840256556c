/-
This file proves which items are read, as far as generated code is made of them: structs,
implementations with their methods, constants and what is used, behind their attributes and
visibilities.
-/

import DataAccess.Parse.Fragment
import DataAccess.Parse.Layout
import DataAccess.Proofs.Parse.AcceptsStatement
import Mathlib.Data.List.Forall2

namespace DataAccess

open DataAccess.Parser

/-- Entries that stand one after the other are read each from its own tokens. -/
theorem Parser.accepts_untilEmpty {Entry Result : Type} {parser : Parser Result}
    {tokens : Entry → List Token} {holds : Entry → Result → Prop} {entries : List Entry}
    (reads : ∀ entry ∈ entries, ∀ rest,
      Accepts parser (tokens entry ++ rest) rest (holds entry))
    (written : ∀ entry ∈ entries, tokens entry ≠ []) :
    Accepts (untilEmpty parser) (entries.map tokens).flatten [] fun results =>
      List.Forall₂ holds entries results ∧
        ReadInTurn parser (entries.map tokens).flatten results (entries.map tokens) [] := by
  refine Repeats.accepts ?_
  induction entries with
  | nil => exact .done (fun _ => ⟨_, rfl, rfl⟩) ⟨.nil, .done⟩
  | cons entry entries hypothesis =>
    obtain ⟨present, others⟩ := List.forall_mem_cons.mp written
    obtain ⟨first, more, same⟩ := List.exists_cons_of_ne_nil present
    have reading := (reads entry List.mem_cons_self (entries.map tokens).flatten).witnessed
    rw [List.map_cons, List.flatten_cons]
    have step : Accepts (do if ← isEmpty then return none else return some (← parser))
        (tokens entry ++ (entries.map tokens).flatten) (entries.map tokens).flatten
        fun found => ∃ result, found = some result ∧ (holds entry result ∧
          ∃ stream finished : Stream, parser stream = .ok (result, finished) ∧
            stream.tokens = tokens entry ++ (entries.map tokens).flatten ∧
            finished.tokens = (entries.map tokens).flatten) := by
      rw [same] at reading ⊢
      exact .peek_false rfl (reading.map fun result held => ⟨result, rfl, held⟩)
    have shorter : (entries.map tokens).flatten.length <
        (tokens entry ++ (entries.map tokens).flatten).length := by
      rw [List.length_append]
      exact Nat.lt_add_of_pos_left (List.length_pos_of_ne_nil present)
    refine .next step shorter ?_
    rintro result ⟨held, stream, finished, read, stands, left⟩
    have goesOn := hypothesis (fun other listed => reads other (List.mem_cons_of_mem _ listed))
      others
    refine goesOn.imp ?_
    rintro results ⟨described, turns⟩
    refine ⟨.cons held described, ?_⟩
    rw [← stands]
    rw [← left] at turns
    exact .next read (by rw [stands, left]) turns

namespace Parse

variable {grammar : Grammar} {depth : Nat} {name : Name} {position opening closing : Position}
  {front inner standing middle rest : List Token}

/-! Visibilities. -/

/-- The name can stand in a path of names alone. -/
def StartsNamePath (name : Name) : Prop :=
  namePathStart [.word name] = true

/-- The tokens of a visibility: nothing, or a word that a place or the path to one can restrict. -/
inductive Exposes : List Token → Prop
  | hidden : Exposes []
  | everywhere (position : Position) : Exposes [Token.keyword "pub" position]
  | place {name : Name} (position opening closing : Position)
      (known : name.text = "crate" ∨ name.text = "self" ∨ name.text = "super") :
      Exposes [Token.keyword "pub" position, .group .parenthesis opening closing [.word name]]
  | within {path : NamePath} (position opening closing start : Position)
      (named : ∀ name ∈ path.names, StartsNamePath name) :
      Exposes [Token.keyword "pub" position,
        .group .parenthesis opening closing (Token.keyword "in" start :: path.code.tokens)]

/-- A visibility begins with no mark, so only what follows it can. -/
theorem Exposes.unmarked (exposes : Exposes front) {spelling : String}
    (absent : Peek.mark spelling standing = false) :
    Peek.mark spelling (front ++ standing) = false := by
  have wordless (name : Name) (more : List Token) :
      Peek.mark spelling (.word name :: more) = false := by
    rw [Peek.mark]
    cases spelling.toList with
    | nil => rfl
    | cons first others => cases others <;> rfl
  cases exposes with
  | hidden => exact absent
  | everywhere => exact wordless _ _
  | place => exact wordless _ _
  | within => exact wordless _ _

/-- The names of a path in front of its last one, each with the mark behind it. -/
def qualifierTokens (qualifier : List (Name × Position)) : List Token :=
  Code.tokens (qualifier.flatMap fun segment => Code.word segment.1 ++ Code.mark "::" segment.2)

/-- A path of names is accepted to its end. -/
theorem accepts_namePathFrom {leading : Option Position} {qualifier : List (Name × Position)}
    {last : Name} (named : ∀ segment ∈ qualifier, StartsNamePath segment.1)
    (ended : StartsNamePath last) {fuel : Nat} (enough : qualifier.length < fuel)
    (found : List (Name × Position)) :
    Accepts (namePathFrom leading fuel found) (qualifierTokens qualifier ++ [.word last]) []
      fun _ => True := by
  induction qualifier generalizing fuel found with
  | nil =>
    obtain ⟨fuel, rfl⟩ : ∃ previous, fuel = previous + 1 := ⟨fuel - 1, by omega⟩
    exact .peek_true ended fun _ => ⟨_, rfl, trivial⟩
  | cons segment qualifier hypothesis =>
    obtain ⟨fuel, rfl⟩ : ∃ previous, fuel = previous + 1 := ⟨fuel - 1, by omega⟩
    have shorter : qualifier.length < fuel := Nat.lt_of_succ_lt_succ enough
    have word : Accepts anyWord
        (.word segment.1 :: (Token.operator "::" segment.2 ++
          (qualifierTokens qualifier ++ [.word last])))
        (Token.operator "::" segment.2 ++ (qualifierTokens qualifier ++ [.word last]))
        fun _ => True := fun _ => ⟨_, rfl, trivial⟩
    have goesOn := hypothesis (fun other listed => named other (List.mem_cons_of_mem _ listed))
      shorter
    exact .peek_true (named segment List.mem_cons_self) (word.skip fun name => .peek_true rfl
      ((accepts_mark "::" (by decide)).skip fun colons => goesOn ((name, colons) :: found)))

/-- The tokens of a qualifier are at least as many as its names. -/
theorem length_qualifierTokens (qualifier : List (Name × Position)) :
    qualifier.length ≤ (qualifierTokens qualifier).length := by
  induction qualifier with
  | nil => exact Nat.zero_le _
  | cons segment qualifier hypothesis =>
    change qualifier.length + 1 ≤ (qualifierTokens qualifier).length + 3
    omega

/-- A path of names that stands alone. -/
theorem accepts_namePath {path : NamePath} (named : ∀ name ∈ path.names, StartsNamePath name) :
    Accepts namePath path.code.tokens [] fun _ => True := by
  obtain ⟨leading, qualifier, last⟩ := path
  have segments (segment : Name × Position) (listed : segment ∈ qualifier) :
      StartsNamePath segment.1 :=
    named _ (List.mem_append_left _ (List.mem_map_of_mem listed))
  have ended : StartsNamePath last := named _ (List.mem_append_right _ List.mem_cons_self)
  have goesOn (leading : Option Position) : Accepts (do
      let remaining ← tokens
      namePathFrom leading (remaining.length + 1) [])
      (qualifierTokens qualifier ++ [.word last]) [] fun _ => True := by
    refine .look (accepts_namePathFrom segments ended ?_ [])
    have counted := length_qualifierTokens qualifier
    rw [List.length_append]
    exact Nat.lt_succ_of_le (Nat.le_add_right_of_le counted)
  cases leading with
  | none =>
    have written : (NamePath.mk none qualifier last).code.tokens =
        qualifierTokens qualifier ++ [.word last] := by
      simp only [NamePath.code, List.nil_append, Code.tokens_append]
      rfl
    have unmarked : Peek.mark "::" (qualifierTokens qualifier ++ [.word last]) = false := by
      cases qualifier <;> rfl
    rw [written]
    exact (accepts_mark?_of_absent unmarked).any.skip fun _ => goesOn _
  | some position =>
    have written : (NamePath.mk (some position) qualifier last).code.tokens =
        Token.operator "::" position ++ (qualifierTokens qualifier ++ [.word last]) := by
      simp only [NamePath.code, Code.tokens_append, List.append_assoc]
      rfl
    rw [written]
    have leads : Accepts (mark? "::")
        (Token.operator "::" position ++ (qualifierTokens qualifier ++ [.word last]))
        (qualifierTokens qualifier ++ [.word last]) fun _ => True :=
      fun _ => ⟨_, rfl, trivial⟩
    exact leads.skip fun _ => goesOn _

/-- A visibility is read again in front of another word. -/
theorem accepts_visibility (exposes : Exposes front)
    (other : Peek.word "pub" (.word name :: rest) = false) :
    Accepts visibility (front ++ .word name :: rest) (.word name :: rest) fun _ => True := by
  cases exposes with
  | hidden =>
    refine (accepts_keywordCode?_of_absent other).bind ?_
    rintro _ rfl
    exact .pure trivial
  | everywhere position => exact fun _ => ⟨_, rfl, trivial⟩
  | @place name position opening closing known =>
    obtain ⟨text, place⟩ := name
    rintro ⟨_, _, _, leftover⟩
    obtain rfl | rfl | rfl := known <;> cases leftover <;> exact ⟨_, rfl, trivial⟩
  | @within path position opening closing start named =>
    have within : Accepts restriction (Token.keyword "in" start :: path.code.tokens) []
        fun _ => True :=
      .peek_false rfl (.peek_true rfl ((accepts_keywordCode "in").skip fun _ =>
        (accepts_namePath named).map fun _ _ => trivial))
    have keyword (standing : List Token) :
        Accepts (keywordCode? "pub") (Token.keyword "pub" position :: standing) standing
          fun code => code = Code.keyword "pub" position := .of_eq fun _ => rfl
    refine (keyword _).bind ?_
    rintro _ rfl
    exact .look (.ite_true rfl ((accepts_groupCode within).map fun _ _ => trivial))

/-! Methods of implementations. -/

/-- A body without inner attributes. -/
theorem accepts_functionBody
    (unmarked : (Peek.mark "#" inner && Peek.mark "!" (inner.drop 1)) = false)
    (within : Accepts grammar.statements inner [] fun _ => True) :
    Accepts (functionBody grammar) (.group .brace opening closing inner :: rest) rest
      fun _ => True := by
  have inside : Accepts (do
      let attributes ← innerAttributes grammar
      return (attributes, BlockStatement.listCode (← grammar.statements))) inner []
      fun _ => True :=
    (accepts_innerAttributes unmarked).any.skip fun _ => within.map fun _ _ => trivial
  exact inside.group.map fun _ _ => trivial

section Methods

variable (exposes : Exposes front)
  (signed : Accepts (signature grammar) (Token.keyword "fn" position :: standing)
    (.group .brace opening closing inner :: rest) fun _ => True)
  (unmarked : (Peek.mark "#" inner && Peek.mark "!" (inner.drop 1)) = false)
  (within : Accepts grammar.statements inner [] fun _ => True)

include exposes signed unmarked within

/-- A method with a signature and a body, behind its visibility. -/
theorem accepts_implementedMethod {attributes : List Attribute} :
    Accepts (implementedMethod grammar attributes)
      (front ++ Token.keyword "fn" position :: standing) rest fun found => found.isSome = true := by
  refine (accepts_visibility exposes rfl).skip fun _ => ?_
  refine (accepts_keywordCode?_of_absent rfl).any.skip fun _ => signed.skip fun _ => ?_
  exact .peek_false rfl ((accepts_functionBody unmarked within).map fun _ _ => rfl)

/-- A method is accepted as a fragment of its own. -/
theorem accepts_loneMethod :
    Accepts (loneMethod grammar) (front ++ Token.keyword "fn" position :: standing) rest
      fun _ => True := by
  refine (accepts_outerAttributes (exposes.unmarked rfl)).any.skip fun _ => ?_
  refine (accepts_implementedMethod exposes signed unmarked within).bind ?_
  rintro _ found
  obtain ⟨code, rfl⟩ := Option.isSome_iff_exists.mp found
  exact .pure trivial

/-- A method is accepted as an item of an implementation. -/
theorem accepts_implementedItem :
    Accepts (implementedItem grammar) (front ++ Token.keyword "fn" position :: standing) rest
      fun _ => True := by
  refine .look ((accepts_outerAttributes (exposes.unmarked rfl)).bind ?_)
  rintro _ rfl
  have method (beginning : List Token) : Accepts (do
      codeOr .implementationItem beginning [] (← implementedMethod grammar []))
      (front ++ Token.keyword "fn" position :: standing) rest fun _ => True := by
    refine (accepts_implementedMethod exposes signed unmarked within).bind ?_
    rintro _ found
    obtain ⟨code, rfl⟩ := Option.isSome_iff_exists.mp found
    exact .pure trivial
  have exposed : Accepts visibility (front ++ Token.keyword "fn" position :: standing)
      (Token.keyword "fn" position :: standing) fun _ => True := accepts_visibility exposes rfl
  refine .setBack (fun stream => ?_) (method (front ++ Token.keyword "fn" position :: standing))
  obtain ⟨exposure, read, -⟩ := exposed stream
  exact bind_of_ok read

end Methods

/-! Items. -/

/-- A documentation attribute in front of what has no attribute. -/
theorem accepts_documentation {literal : String} (unmarked : Peek.mark "#" rest = false) :
    Accepts (outerAttributes grammar) (.mark '#' false .callSite ::
      .group .bracket .callSite .callSite [Token.keyword "doc" .callSite,
        .mark '=' false .callSite, .literal literal .callSite] :: rest) rest fun _ => True := by
  have value : Accepts (attributeValue grammar) [.literal literal .callSite] [] fun _ => True := by
    have alone : Accepts (do
        let value ← literalCode
        if ← isEmpty then return value else failExpected []) [.literal literal .callSite] []
        fun _ => True := accepts_literalCode.skip fun code => fun _ => ⟨code, rfl, trivial⟩
    refine alone.attempt.bind ?_
    rintro _ ⟨code, rfl, -⟩
    exact .pure trivial
  have path : Accepts attributePath [Token.keyword "doc" .callSite, .mark '=' false .callSite,
      .literal literal .callSite] [.mark '=' false .callSite, .literal literal .callSite]
      fun _ => True := fun _ => ⟨_, rfl, trivial⟩
  have content : Accepts (attributeContent grammar)
      [.mark '=' false .callSite, .literal literal .callSite] [] fun _ => True :=
    .look (.ite_true rfl ((accepts_mark "=" (by decide)).skip fun _ =>
      value.map fun _ _ => trivial))
  have inside : Accepts (do
      let path ← attributePath
      let content ← attributeContent grammar
      return (path, content)) [Token.keyword "doc" .callSite, .mark '=' false .callSite,
        .literal literal .callSite] [] fun _ => True :=
    path.skip fun _ => content.map fun _ _ => trivial
  have whole : Accepts (attributeWith grammar false) (.mark '#' false .callSite ::
      .group .bracket .callSite .callSite [Token.keyword "doc" .callSite,
        .mark '=' false .callSite, .literal literal .callSite] :: rest) rest fun _ => True := by
    refine (accepts_mark "#" (by decide)).skip fun _ => .ite_false rfl (.bind (.pure rfl) ?_)
    rintro _ rfl
    exact inside.group.map fun _ _ => trivial
  have step : Accepts (do
      if ← peek (Peek.mark "#") then return some (← attributeWith grammar false)
      else return none) (.mark '#' false .callSite :: .group .bracket .callSite .callSite
        [Token.keyword "doc" .callSite, .mark '=' false .callSite, .literal literal .callSite] ::
          rest) rest fun found => ∃ mark, found = some mark ∧ True :=
    .peek_true rfl (whole.map fun mark _ => ⟨mark, rfl, trivial⟩)
  exact Repeats.accepts (.next step (Nat.lt_add_of_pos_right Nat.two_pos) fun _ _ =>
    .done (.peek_false unmarked (.pure rfl)) trivial)

/-- What has been read of an item shows that it is of a kind. -/
def ItemBody.IsOf (kind : ItemKind) : ItemBody → Prop
  | .plain found _ => found = kind
  | .braced found _ _ _ => found = kind
  | .trait _ => False
  | .verbatim => False

/-- An item behind its attributes. -/
theorem accepts_item {kind : ItemKind}
    (attributed : Accepts (outerAttributes grammar) standing middle fun _ => True)
    (reads : Accepts (itemBody grammar) middle rest (ItemBody.IsOf kind)) :
    Accepts (item grammar) standing rest fun read =>
      ∃ item, read = .plain item ∧ item.kind = kind := by
  refine .look (attributed.skip fun marks => reads.bind ?_)
  rintro (⟨_, before⟩ | ⟨_, before, inner, body⟩ | declaration | _) same
  · exact .pure ⟨_, rfl, same⟩
  · exact .pure ⟨_, rfl, same⟩
  · exact absurd same id
  · exact absurd same id

/-- A struct without parameters. -/
theorem accepts_record (exposes : Exposes front) (plain : name.IsPlain)
    (plainly : Peek.mark "<" standing = false)
    (fields : Accepts (structFields grammar) standing rest fun _ => True) :
    Accepts (itemBody grammar) (front ++ Token.keyword "struct" .callSite :: .word name :: standing)
      rest (ItemBody.IsOf .record) := by
  have exposed : Accepts visibility
      (front ++ Token.keyword "struct" .callSite :: .word name :: standing)
      (Token.keyword "struct" .callSite :: .word name :: standing) fun _ => True :=
    accepts_visibility exposes rfl
  have whole : Accepts (structItem grammar)
      (front ++ Token.keyword "struct" .callSite :: .word name :: standing) rest
      (ItemBody.IsOf .record) := by
    refine exposed.skip fun _ => (accepts_keywordCode "struct").skip fun _ => ?_
    refine (accepts_identifierCode plain).skip fun _ => ?_
    have parameters : Accepts (generics grammar) standing standing fun _ => True :=
      .peek_false plainly (.pure trivial)
    exact parameters.skip fun _ => fields.map fun _ _ => rfl
  refine .setBack (fun stream => ?_) whole
  obtain ⟨exposure, read, -⟩ := exposed stream
  exact bind_of_ok read

/-- The type that is implemented, or the path of a trait with the type behind it. -/
inductive Subjects (grammar : Grammar) (rest : List Token) : List Token → Prop
  | inherent {standing : List Token}
      (reads : Accepts (grammar.type true) standing rest fun _ => True) :
      Subjects grammar rest standing
  | interface {standing subject : List Token} {position : Position}
      (reads : Accepts (grammar.type true) standing (Token.keyword "for" position :: subject)
        fun declared => isPath declared = true)
      (within : Accepts (grammar.type true) subject rest fun _ => True) :
      Subjects grammar rest standing

/-- What follows the keyword of an implementation is the path that begins with a name or a mark. -/
structure StartsSubject (standing : List Token) : Prop where
  ungeneric : opensGenerics standing = false
  variable_ : (Peek.word "const" standing ||
    (Peek.mark "?" standing && Peek.word "const" (standing.drop 1))) = false
  positive : (Peek.mark "!" standing && !Peek.group .brace (standing.drop 1)) = false

/-- An implementation without parameters. -/
theorem accepts_implementation (starts : StartsSubject standing)
    (subjects : Subjects grammar (.group .brace opening closing inner :: rest) standing)
    (unmarked : (Peek.mark "#" inner && Peek.mark "!" (inner.drop 1)) = false)
    (within : Accepts (untilEmpty (implementedItem grammar)) inner [] fun _ => True) :
    Accepts (implementation grammar) (Token.keyword "impl" .callSite :: standing) rest
      (ItemBody.IsOf .implementation) := by
  have hidden : Accepts visibility (Token.keyword "impl" .callSite :: standing)
      (Token.keyword "impl" .callSite :: standing) fun code => code = [] := .of_eq fun _ => rfl
  have inside : Accepts (do
      let inner ← innerAttributes grammar
      let items ← untilEmpty (implementedItem grammar)
      return (inner, items.flatten)) inner [] fun _ => True :=
    (accepts_innerAttributes unmarked).any.skip fun _ => within.map fun _ _ => trivial
  have conditionless : Accepts (whereCode? grammar) (.group .brace opening closing inner :: rest)
      (.group .brace opening closing inner :: rest) fun _ => True := fun _ => ⟨_, rfl, trivial⟩
  refine hidden.bind ?_
  rintro _ rfl
  refine (accepts_keywordCode?_of_absent rfl).any.skip fun _ => ?_
  refine (accepts_keywordCode?_of_absent rfl).any.skip fun _ => ?_
  refine (accepts_keywordCode "impl").skip fun _ => .peek_false starts.ungeneric ?_
  refine .bind (.pure rfl) ?_
  rintro _ rfl
  refine .peeked (.ite_false starts.variable_ (.peek_false starts.positive (.bind (.pure rfl) ?_)))
  rintro _ rfl
  cases subjects with
  | inherent reads =>
    refine reads.skip fun first => .peeked (.ite_false rfl (.bind (.pure rfl) ?_))
    rintro _ rfl
    refine conditionless.skip fun _ => inside.group.any.skip fun _ => ?_
    exact .ite_false (by rw [starts.variable_]; rfl) (.pure rfl)
  | interface reads subject =>
    refine reads.bind fun first path => .peeked (.ite_true rfl ?_)
    refine (accepts_keywordCode "for").skip fun _ => subject.skip fun _ => .bind (.pure rfl) ?_
    rintro _ rfl
    refine conditionless.skip fun _ => inside.group.any.skip fun _ => ?_
    exact .ite_false (by rw [starts.variable_, path]; rfl) (.pure rfl)

/-- A plain name starts what an implementation is for. -/
theorem startsSubject_name (plain : name.IsPlain) : StartsSubject (.word name :: rest) := by
  refine ⟨rfl, ?_, rfl⟩
  rw [plain.word "const" rfl]
  rfl

/-- The type that is implemented by itself is a name. -/
theorem subjects_name (plain : name.IsPlain) :
    Subjects (Parse.grammar (depth + 1)) (.group .brace opening closing inner :: rest)
      (.word name :: .group .brace opening closing inner :: rest) := by
  have reads : Accepts ((Parse.grammar (depth + 1)).type true)
      (.word name :: .group .brace opening closing inner :: rest)
      (.group .brace opening closing inner :: rest) fun declared => isPath declared = true :=
    accepts_plainType plain (.brace _ _ _ _)
  exact .inherent reads.any

/-- A trait is implemented for a name. -/
theorem subjects_interface (plain : name.IsPlain)
    (reads : Accepts (declaredType (Parse.grammar depth) true) standing
      (Token.keyword "for" .callSite :: .word name :: .group .brace opening closing inner :: rest)
      fun declared => isPath declared = true) :
    Subjects (Parse.grammar (depth + 1)) (.group .brace opening closing inner :: rest)
      standing := by
  have subject : Accepts ((Parse.grammar (depth + 1)).type true)
      (.word name :: .group .brace opening closing inner :: rest)
      (.group .brace opening closing inner :: rest) fun declared => isPath declared = true :=
    accepts_plainType plain (.brace _ _ _ _)
  exact .interface reads subject.any

/-- The items of an implementation, each of which is read in front of whatever follows it. -/
theorem accepts_implementedItems {items : List (List Token)}
    (reads : ∀ tokens ∈ items, ∀ rest,
      Accepts (implementedItem grammar) (tokens ++ rest) rest fun _ => True)
    (written : ∀ tokens ∈ items, tokens ≠ []) :
    Accepts (untilEmpty (implementedItem grammar)) items.flatten [] fun _ => True := by
  have all := accepts_untilEmpty reads written
  rw [List.map_id'] at all
  exact all.any

/-- An implementation is accepted as the body of an item. -/
theorem accepts_itemBody_implementation
    (reads : Accepts (implementation grammar) (Token.keyword "impl" .callSite :: standing) rest
      (ItemBody.IsOf .implementation)) :
    Accepts (itemBody grammar) (Token.keyword "impl" .callSite :: standing) rest
      (ItemBody.IsOf .implementation) :=
  .setBack (fun _ => rfl) reads

/-- An implementation is accepted as a fragment of its own. -/
theorem accepts_loneImplementation
    (reads : Accepts (implementation grammar) (Token.keyword "impl" .callSite :: standing) rest
      (ItemBody.IsOf .implementation)) :
    Accepts (loneImplementation grammar) (Token.keyword "impl" .callSite :: standing) rest
      fun _ => True := by
  refine (accepts_outerAttributes rfl).any.skip fun _ => reads.bind ?_
  rintro (⟨_, before⟩ | ⟨_, before, inner, body⟩ | declaration | _) same
  · exact .pure trivial
  · exact .pure trivial
  · exact absurd same id
  · exact absurd same id

/-- The constant that points to a registry. -/
theorem accepts_constant {typed : List Token}
    (declared : Accepts (grammar.type true) typed (.mark '=' false .callSite :: standing)
      fun _ => True)
    (value : Accepts (grammar.expression true) standing (.mark ';' false .callSite :: rest)
      fun _ => True) :
    Accepts (itemBody grammar) (Token.keyword "pub" .callSite :: Token.keyword "const" .callSite ::
      Token.keyword "MANIFEST" .callSite :: .mark ':' false .callSite :: typed) rest
      (ItemBody.IsOf .constant) := by
  have exposed : Accepts visibility (Token.keyword "pub" .callSite ::
      Token.keyword "const" .callSite :: Token.keyword "MANIFEST" .callSite ::
        .mark ':' false .callSite :: typed)
      (Token.keyword "const" .callSite :: Token.keyword "MANIFEST" .callSite ::
        .mark ':' false .callSite :: typed) fun _ => True := fun _ => ⟨_, rfl, trivial⟩
  have name : Accepts wordOrUnderscore (Token.keyword "MANIFEST" .callSite ::
      .mark ':' false .callSite :: typed) (.mark ':' false .callSite :: typed) fun _ => True :=
    fun _ => ⟨_, rfl, trivial⟩
  have read : Accepts (Parse.constant grammar) (Token.keyword "const" .callSite ::
      Token.keyword "MANIFEST" .callSite :: .mark ':' false .callSite :: typed) rest
      fun found => found.isGeneral = false ∧ found.hasValue = true := by
    refine (accepts_keywordCode "const").skip fun _ => name.skip fun _ => .peeked ?_
    have parameters : Accepts (generics grammar) (.mark ':' false .callSite :: typed)
        (.mark ':' false .callSite :: typed) fun _ => True := fun _ => ⟨_, rfl, trivial⟩
    refine parameters.skip fun _ => (accepts_markCode ":" (by decide)).skip fun _ => ?_
    refine declared.skip fun _ => .peek_true rfl ?_
    have equals : Accepts (markCode "=") (.mark '=' false .callSite :: standing) standing
        fun code => code = Code.mark "=" .callSite := .of_eq fun _ => rfl
    refine equals.bind ?_
    rintro _ rfl
    have conditionless : Accepts (whereClause? grammar) (.mark ';' false .callSite :: rest)
        (.mark ';' false .callSite :: rest) fun found => found = none := .of_eq fun _ => rfl
    refine value.skip fun found => .bind (.pure rfl) ?_
    rintro _ rfl
    refine conditionless.bind ?_
    rintro _ rfl
    exact (accepts_markCode ";" (by decide)).skip fun _ => .pure ⟨rfl, rfl⟩
  have whole : Accepts (constantItem grammar) (Token.keyword "pub" .callSite ::
      Token.keyword "const" .callSite :: Token.keyword "MANIFEST" .callSite ::
      .mark ':' false .callSite :: typed) rest (ItemBody.IsOf .constant) := by
    refine exposed.skip fun _ => read.bind ?_
    rintro ⟨code, _, _⟩ ⟨rfl, rfl⟩
    exact .pure rfl
  exact .setBack (fun _ => rfl) whole

/-- What brings everything around a module into it. -/
theorem accepts_use :
    Accepts (itemBody grammar) (Token.keyword "use" .callSite :: Token.keyword "super" .callSite ::
      (Token.operator "::" .callSite ++ .mark '*' false .callSite :: .mark ';' false .callSite ::
        rest)) rest (ItemBody.IsOf .useDeclaration) := by
  have hidden : Accepts visibility (Token.keyword "use" .callSite ::
      Token.keyword "super" .callSite :: (Token.operator "::" .callSite ++
        .mark '*' false .callSite :: .mark ';' false .callSite :: rest))
      (Token.keyword "use" .callSite :: Token.keyword "super" .callSite ::
        (Token.operator "::" .callSite ++ .mark '*' false .callSite ::
          .mark ';' false .callSite :: rest)) fun _ => True := fun _ => ⟨_, rfl, trivial⟩
  have tree {fuel : Nat} (enough : 2 ≤ fuel) : Accepts (useTreeFrom fuel true)
      (Token.keyword "super" .callSite :: (Token.operator "::" .callSite ++
        .mark '*' false .callSite :: .mark ';' false .callSite :: rest))
      (.mark ';' false .callSite :: rest) fun found => found.2 = false := by
    obtain ⟨fuel, rfl⟩ : ∃ previous, fuel = previous + 2 := ⟨fuel - 2, by omega⟩
    exact fun _ => ⟨_, rfl, rfl⟩
  have whole : Accepts useItem (Token.keyword "use" .callSite ::
      Token.keyword "super" .callSite :: (Token.operator "::" .callSite ++
        .mark '*' false .callSite :: .mark ';' false .callSite :: rest)) rest
      (ItemBody.IsOf .useDeclaration) := by
    refine hidden.skip fun _ => (accepts_keywordCode "use").skip fun _ => ?_
    refine (accepts_markCode?_of_absent rfl).bind ?_
    rintro _ rfl
    refine .look ((tree ?_).bind ?_)
    · exact Nat.succ_le_succ (Token.count_pos _ _)
    rintro ⟨code, _⟩ rfl
    exact (accepts_markCode ";" (by decide)).skip fun _ => .pure rfl
  exact .setBack (fun _ => rfl) whole

end Parse

end DataAccess
