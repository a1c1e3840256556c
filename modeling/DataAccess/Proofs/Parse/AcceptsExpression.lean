/-
This file proves which expressions are read, as far as generated code is made of them: paths,
literals, references, calls, closures, and what ends them.
-/

import DataAccess.Compile.Render
import DataAccess.Proofs.Parse.AcceptsType

namespace DataAccess

open DataAccess.Parser

/-- An expression that can stand wherever a value can, and that operators can follow. -/
def Expression.IsValue (found : Expression) : Prop :=
  found.form = .ordinary ∨ found.form = .block

namespace Parse

/-- What shows behind an expression that it has ended: nothing, a mark that separates it from what
follows, or a block. -/
inductive EndsExpression : List Token → Prop
  | nil : EndsExpression []
  | comma (joint : Bool) (position : Position) (rest : List Token) :
      EndsExpression (.mark ',' joint position :: rest)
  | semicolon (joint : Bool) (position : Position) (rest : List Token) :
      EndsExpression (.mark ';' joint position :: rest)
  | brace (opening closing : Position) (inner rest : List Token) :
      EndsExpression (.group .brace opening closing inner :: rest)

variable {grammar : Grammar} {allowStruct : Bool} {standing middle rest : List Token}

/-- Where an expression ends, no round of the loop for trailers takes anything. -/
theorem accepts_trailersFrom_of_ends {fuel : Nat} {found : Expression}
    (ends : EndsExpression rest) :
    Accepts (trailersFrom grammar (fuel + 1) found) rest rest fun longer => longer = found := by
  cases ends <;> exact fun _ => ⟨_, rfl, rfl⟩

/-- Where an expression ends, it has no trailers. -/
theorem accepts_trailers_of_ends {found : Expression} (ends : EndsExpression rest) :
    Accepts (trailers grammar found) rest rest fun longer => longer = found :=
  .look (accepts_trailersFrom_of_ends ends)

/-- Where an expression ends, it has no operators. -/
theorem accepts_operators_of_ends {found : Expression} (value : found.IsValue)
    (ends : EndsExpression rest) :
    Accepts (operators grammar allowStruct found Strength.least) rest rest
      fun longer => longer = found := by
  obtain ⟨code, arm, attributedArm, form⟩ := found
  obtain rfl | rfl := value <;> cases ends <;> exact fun _ => ⟨_, rfl, rfl⟩

/-- An expression that is no more than an operand. -/
theorem accepts_expression {depth : Nat}
    (reads : Accepts (operand (Parse.grammar depth) allowStruct) standing rest
      Expression.IsValue) (ends : EndsExpression rest) :
    Accepts (expression (Parse.grammar (depth + 1)) allowStruct) standing rest
      Expression.IsValue := by
  have first : Accepts ((Parse.grammar (depth + 1)).operand allowStruct) standing rest
      Expression.IsValue := reads
  exact first.bind fun _ value =>
    (accepts_operators_of_ends value ends).imp fun _ same => same ▸ value

/-- Where no attribute opens, there are no outer attributes. -/
theorem accepts_outerAttributes (unmarked : Peek.mark "#" standing = false) :
    Accepts (outerAttributes grammar) standing standing fun marks => marks = [] :=
  Repeats.accepts (.done (.peek_false unmarked (.pure rfl)) rfl)

/-- Where no inner attribute opens, there are none. -/
theorem accepts_innerAttributes
    (unmarked : (Peek.mark "#" standing && Peek.mark "!" (standing.drop 1)) = false) :
    Accepts (innerAttributes grammar) standing standing fun marks => marks = [] :=
  Repeats.accepts (.done (.peek_false unmarked (.pure rfl)) rfl)

/-- Where no attribute opens, there is no code of attributes. -/
theorem accepts_outerAttributeCode (unmarked : Peek.mark "#" standing = false) :
    Accepts (outerAttributeCode grammar) standing standing fun code => code = [] :=
  (accepts_outerAttributes unmarked).map fun _ same => by rw [same]; rfl

/-- An atom with what trails it, without attributes. -/
theorem accepts_attributedAtom {beginning : List Token}
    (reads : Accepts (atom grammar allowStruct) standing middle Expression.IsValue)
    (trail : ∀ found : Expression, found.IsValue →
      Accepts (trailers grammar found) middle rest Expression.IsValue) :
    Accepts (attributedAtom grammar allowStruct beginning []) standing rest
      Expression.IsValue := by
  refine .positioned fun start => reads.bind fun found value => (trail found value).bind ?_
  rintro ⟨code, arm, attributedArm, form⟩ longer
  obtain rfl | rfl := longer
  · exact .pure (.inl rfl)
  · exact .pure (.inr rfl)

/-- An operand is an atom with what trails it, unless it begins with an attribute or an operator. -/
theorem accepts_operand
    (unmarked : ["#", "&", "*", "!", "-"].all (fun spelling => !Peek.mark spelling standing) = true)
    (reads : Accepts (atom grammar allowStruct) standing middle Expression.IsValue)
    (trail : ∀ found : Expression, found.IsValue →
      Accepts (trailers grammar found) middle rest Expression.IsValue) :
    Accepts (operand grammar allowStruct) standing rest Expression.IsValue := by
  simp only [List.all_cons, List.all_nil, Bool.and_true, Bool.and_eq_true,
    Bool.not_eq_true'] at unmarked
  obtain ⟨pound, ampersand, star, bang, minus⟩ := unmarked
  refine .look ((accepts_outerAttributeCode pound).bind ?_)
  rintro _ rfl
  refine .look ?_
  dsimp only
  rw [if_neg (by rw [ampersand]; decide), if_neg (by rw [star]; decide),
    if_neg (by rw [bang]; decide), if_neg (by rw [minus]; decide)]
  exact accepts_attributedAtom reads trail

/-- An operand that is an atom with nothing behind it. -/
theorem accepts_operand_of_atom
    (unmarked : ["#", "&", "*", "!", "-"].all (fun spelling => !Peek.mark spelling standing) = true)
    (reads : Accepts (atom grammar allowStruct) standing rest Expression.IsValue)
    (ends : EndsExpression rest) :
    Accepts (operand grammar allowStruct) standing rest Expression.IsValue :=
  accepts_operand unmarked reads fun _ value =>
    (accepts_trailers_of_ends ends).imp fun _ same => same ▸ value

/-- A reference that is not a raw one. -/
theorem accepts_reference {depth : Nat} {joint : Bool} {position : Position}
    (shared : Peek.word "mut" standing = false)
    (checked : (Peek.word "raw" standing && (Peek.word "mut" (standing.drop 1) ||
      Peek.word "const" (standing.drop 1))) = false)
    (reads : Accepts (operand (Parse.grammar depth) allowStruct) standing rest
      Expression.IsValue) :
    Accepts (operand (Parse.grammar (depth + 1)) allowStruct)
      (.mark '&' joint position :: standing) rest Expression.IsValue := by
  refine .look ((accepts_outerAttributeCode rfl).bind ?_)
  rintro _ rfl
  have reference : Accepts (referenceExpression (Parse.grammar (depth + 1)) allowStruct)
      (.mark '&' joint position :: standing) rest Expression.IsValue := by
    have ampersand : Accepts (markCode "&") (.mark '&' joint position :: standing) standing
        fun _ => True :=
      fun _ => ⟨_, rfl, trivial⟩
    refine ampersand.skip fun _ => .peek_false checked (.bind (.pure rfl) ?_)
    rintro _ rfl
    refine (accepts_keywordCode?_of_absent shared).bind ?_
    rintro _ rfl
    exact reads.map fun _ _ => .inl rfl
  exact .look (.ite_true rfl (reference.map fun _ value => value))

/-! Calls. -/

/-- A group is accepted where what it holds is accepted to its end. -/
theorem accepts_groupCode {delimiter : Delimiter} {opening closing : Position}
    {inner : List Token} {inside : Parser Code}
    (within : Accepts inside inner [] fun _ => True) :
    Accepts (groupCode delimiter inside) (.group delimiter opening closing inner :: rest) rest
      fun _ => True :=
  within.group.map fun _ _ => trivial

/-- An operand in front of the end of an expression is accepted as an expression. -/
theorem accepts_expressionCode {depth : Nat}
    (reads : Accepts (operand (Parse.grammar depth) true) standing rest Expression.IsValue)
    (ends : EndsExpression rest) :
    Accepts (expressionCode (Parse.grammar (depth + 2))) standing rest fun _ => True := by
  have whole : Accepts ((Parse.grammar (depth + 2)).expression true) standing rest
      Expression.IsValue := accepts_expression reads ends
  exact whole.map fun _ _ => trivial

/-- Listed expressions in parentheses are accepted as the arguments of a call. -/
theorem accepts_callArguments {opening closing : Position} {inner : List Token}
    (listed : Listed (expressionCode grammar) inner) :
    Accepts (callArguments grammar) (.group .parenthesis opening closing inner :: rest) rest
      fun _ => True :=
  accepts_groupCode (listed.accepts.map fun _ _ => trivial)

/-- A call that nothing trails. -/
theorem accepts_trailers_call {opening closing : Position} {inner : List Token}
    {found : Expression} (listed : Listed (expressionCode grammar) inner)
    (ends : EndsExpression rest) :
    Accepts (trailers grammar found) (.group .parenthesis opening closing inner :: rest) rest
      Expression.IsValue := by
  refine .look (.look (Accepts.bind (accepts_callArguments listed) fun code _ => ?_))
  exact (accepts_trailersFrom_of_ends ends).imp fun _ same => same ▸ .inl rfl

/-- A call of a method with a question mark behind it. -/
theorem accepts_trailers_method {name : Name} {opening closing : Position} {inner : List Token}
    {found : Expression} (plain : name.IsPlain) (value : found.IsValue)
    (listed : Listed (expressionCode grammar) inner) (ends : EndsExpression rest) :
    Accepts (trailers grammar found)
      (.mark '.' false .callSite :: .word name :: .group .parenthesis opening closing inner ::
        .mark '?' false .callSite :: rest) rest Expression.IsValue := by
  have named : Accepts member
      (.word name :: .group .parenthesis opening closing inner :: .mark '?' false .callSite :: rest)
      (.group .parenthesis opening closing inner :: .mark '?' false .callSite :: rest)
      fun found => found.2 = true := by
    refine .positioned fun _ => .look ?_
    dsimp only
    rw [plain, if_neg Bool.false_ne_true]
    exact fun _ => ⟨_, rfl, rfl⟩
  have called : Accepts (memberCode grammar)
      (.word name :: .group .parenthesis opening closing inner :: .mark '?' false .callSite :: rest)
      (.mark '?' false .callSite :: rest) fun _ => True := by
    refine .peek_false (plain.word "await" rfl) (named.bind ?_)
    rintro ⟨code, _⟩ rfl
    refine .guarded rfl (.peek_true rfl ?_)
    exact (accepts_callArguments listed).skip fun _ => .pure trivial
  have field : Accepts (fieldCode grammar)
      (.mark '.' false .callSite :: .word name :: .group .parenthesis opening closing inner ::
        .mark '?' false .callSite :: rest)
      (.mark '?' false .callSite :: rest) fun _ => True :=
    (accepts_mark "." (by decide)).skip fun _ => .positioned fun _ => .look
      (called.skip fun _ => .pure trivial)
  have settled : (found.form != .range) = true := by
    obtain form | form := value <;> rw [form] <;> rfl
  refine .look (.look (.ite_false rfl (.ite_true (by rw [settled]; rfl) (field.skip fun _ => ?_))))
  refine .look (.ite_false rfl (.ite_false rfl (.ite_false rfl (.ite_true rfl ?_))))
  refine (accepts_markCode "?" (by decide)).skip fun _ => ?_
  exact (accepts_trailersFrom_of_ends ends).imp fun _ same => same ▸ .inl rfl

/-! Atoms. -/

/-- A literal of any kind, also one that cannot be formatted. -/
theorem accepts_literalCode {spelling : String} {position : Position} :
    Accepts literalCode (.literal spelling position :: rest) rest fun _ => True := by
  have read : Accepts Parser.literal (.literal spelling position :: rest) rest
      fun tokens => tokens = [.literal spelling position] :=
    .of_eq fun _ => rfl
  refine read.bind ?_
  rintro _ rfl
  dsimp only
  split
  · exact .pure trivial
  · exact .pure trivial

/-- A literal is accepted as a value. -/
theorem accepts_literal {spelling : String} {position : Position} :
    Accepts (atom grammar allowStruct) (.literal spelling position :: rest) rest
      Expression.IsValue :=
  .look (.ite_true rfl (accepts_literalCode.map fun _ _ => .inl rfl))

/-- A path that is no macro and no struct literal. -/
theorem accepts_pathExpression (unqualified : Peek.mark "<" standing = false)
    (reads : Accepts (path grammar .expression) standing rest fun _ => True)
    (bangless : startsInvocation rest = false) (braceless : Peek.group .brace rest = false) :
    Accepts (pathExpression grammar allowStruct) standing rest Expression.IsValue := by
  refine .peek_false unqualified (reads.skip fun found => .bind (.pure rfl) ?_)
  rintro _ rfl
  exact .guarded bangless (.guarded braceless (.pure (.inl rfl)))

/-- A path that begins with a plain name. -/
theorem accepts_atom_plain {name : Name} (plain : name.IsPlain)
    (unmarked : Peek.mark "#" standing = false)
    (reads : Accepts (path grammar .expression) (.word name :: standing) rest fun _ => True)
    (bangless : startsInvocation rest = false) (braceless : Peek.group .brace rest = false) :
    Accepts (atom grammar allowStruct) (.word name :: standing) rest Expression.IsValue := by
  have literal : Peek.literal (.word name :: standing) = false := by
    change (Peek.word "true" (.word name :: standing) ||
      Peek.word "false" (.word name :: standing)) = false
    rw [plain.word "true" rfl, plain.word "false" rfl]
    rfl
  have asyncBlock : startsAsyncBlock (.word name :: standing) = false := by
    rw [startsAsyncBlock, plain.word _ rfl]
    rfl
  have tryBlock : (Peek.word "try" (.word name :: standing) &&
      Peek.group .brace standing) = false := by
    rw [plain.word _ rfl]
    rfl
  have closure : startsClosure (.word name :: standing) = false := by
    rw [startsClosure, plain.word "move" rfl, plain.word "for" rfl, plain.word "const" rfl,
      plain.word "static" rfl, plain.word "async" rfl]
    rfl
  have intrinsic : startsIntrinsic (.word name :: standing) = false := by
    change (Peek.word "builtin" (.word name :: standing) && Peek.mark "#" standing) = false
    rw [unmarked, Bool.and_false]
  have named : startsPath (.word name :: standing) = true := by
    rw [startsPath, plain.identifier]
    rfl
  exact .look (.ite_false literal (.ite_false asyncBlock (.ite_false tryBlock
    (.ite_false closure (.ite_false intrinsic (.ite_true named
      (accepts_pathExpression rfl reads bangless braceless)))))))

/-- A path from the root of all crates. -/
theorem accepts_atom_absolute {first : String} {names : List String} {name : Name}
    (plain : (first :: names).all (fun name => !Text.Identifier.isReserved name) = true)
    (reads : Accepts (segment grammar .expression) (.word name :: standing) rest fun _ => True)
    (ends : continuesPath rest = false) (bangless : startsInvocation rest = false)
    (braceless : Peek.group .brace rest = false) :
    Accepts (atom grammar allowStruct) (Token.pathTo (first :: names) (.word name :: standing))
      rest Expression.IsValue :=
  .look (.ite_false rfl (.ite_false rfl (.ite_false rfl (.ite_false rfl (.ite_false rfl
    (.ite_true rfl (accepts_pathExpression rfl (accepts_path_absolute plain reads ends) bangless
      braceless)))))))

/-- A block without inner attributes. -/
theorem accepts_block {opening closing : Position} {inner : List Token}
    (unmarked : (Peek.mark "#" inner && Peek.mark "!" (inner.drop 1)) = false)
    (within : Accepts grammar.statements inner [] fun _ => True) :
    Accepts (block grammar) (.group .brace opening closing inner :: rest) rest fun _ => True := by
  have codes : Accepts (innerAttributeCode grammar) inner inner fun _ => True :=
    (accepts_innerAttributes unmarked).map fun _ _ => trivial
  have inside : Accepts (do
      let attributes ← innerAttributeCode grammar
      return (attributes, ← grammar.statements)) inner [] fun _ => True :=
    codes.skip fun _ => within.map fun _ _ => trivial
  exact inside.group.map fun _ _ => trivial

/-- Statements in braces are accepted as a block. -/
theorem accepts_plainBlock {opening closing : Position} {inner : List Token}
    (within : Accepts grammar.statements inner [] fun _ => True) :
    Accepts (plainBlock grammar) (.group .brace opening closing inner :: rest) rest
      fun _ => True :=
  within.group.map fun _ _ => trivial

/-- Statements in braces are accepted as a value. -/
theorem accepts_atom_block {opening closing : Position} {inner : List Token}
    (unmarked : (Peek.mark "#" inner && Peek.mark "!" (inner.drop 1)) = false)
    (within : Accepts grammar.statements inner [] fun _ => True) :
    Accepts (atom grammar allowStruct) (.group .brace opening closing inner :: rest) rest
      Expression.IsValue := by
  have value : Accepts (do return some ((← block grammar).expression []))
      (.group .brace opening closing inner :: rest) rest
      fun found => ∃ value, found = some value ∧ value.IsValue :=
    (accepts_block unmarked within).map fun _ _ => ⟨_, rfl, .inr rfl⟩
  have boundary : Accepts (boundaryAtom? grammar) (.group .brace opening closing inner :: rest)
      rest fun found => ∃ value, found = some value ∧ value.IsValue := value
  refine .look (boundary.bind ?_)
  rintro _ ⟨found, rfl, value⟩
  exact .pure value

/-- The closure that is given the prepared statement. -/
theorem accepts_atom_closure {depth : Nat} {opening closing : Position} {inner : List Token}
    (unmarked : (Peek.mark "#" inner && Peek.mark "!" (inner.drop 1)) = false)
    (within : Accepts (statements (Parse.grammar depth)) inner [] fun _ => True)
    (ends : EndsExpression rest) :
    Accepts (atom (Parse.grammar (depth + 3)) allowStruct)
      (.mark '|' false .callSite :: Token.keyword Render.statementName .callSite ::
        .mark '|' false .callSite :: .group .brace opening closing inner :: rest) rest
      Expression.IsValue := by
  have body : Accepts ((Parse.grammar (depth + 3)).expression allowStruct)
      (.group .brace opening closing inner :: rest) rest Expression.IsValue :=
    accepts_expression (accepts_operand_of_atom rfl (accepts_atom_block unmarked within) ends) ends
  have input : Accepts (closureInput (Parse.grammar (depth + 3)))
      (Token.keyword Render.statementName .callSite :: .mark '|' false .callSite ::
        .group .brace opening closing inner :: rest)
      (.mark '|' false .callSite :: .group .brace opening closing inner :: rest)
      fun _ => True := fun _ => ⟨_, rfl, trivial⟩
  have inputs : Accepts
      (listUntil (Peek.mark "|") "," (closureInput (Parse.grammar (depth + 3))))
      (Token.keyword Render.statementName .callSite :: .mark '|' false .callSite ::
        .group .brace opening closing inner :: rest)
      (.mark '|' false .callSite :: .group .brace opening closing inner :: rest)
      fun _ => True :=
    .look (.peek_false rfl (input.skip fun _ => .peek_false rfl (.pure trivial)))
  have unbound : Accepts (binder? (Parse.grammar (depth + 3)))
      (.mark '|' false .callSite :: Token.keyword Render.statementName .callSite ::
        .mark '|' false .callSite :: .group .brace opening closing inner :: rest)
      (.mark '|' false .callSite :: Token.keyword Render.statementName .callSite ::
        .mark '|' false .callSite :: .group .brace opening closing inner :: rest)
      fun _ => True := .peek_false rfl (.pure trivial)
  have whole : Accepts (closure (Parse.grammar (depth + 3)) allowStruct)
      (.mark '|' false .callSite :: Token.keyword Render.statementName .callSite ::
        .mark '|' false .callSite :: .group .brace opening closing inner :: rest) rest
      Expression.IsValue := by
    refine unbound.skip fun _ => (accepts_keywordCode?_of_absent rfl).any.skip fun _ =>
      (accepts_keywordCode?_of_absent rfl).any.skip fun _ =>
      (accepts_keywordCode?_of_absent rfl).any.skip fun _ =>
      (accepts_keywordCode?_of_absent rfl).any.skip fun _ =>
      (accepts_markCode "|" (by decide)).skip fun _ => inputs.skip fun _ =>
      (accepts_markCode "|" (by decide)).skip fun _ => ?_
    exact .peek_false rfl (body.map fun _ _ => .inl rfl)
  exact whole

/-- A list of values. -/
theorem accepts_atom_list {opening closing : Position} {inner : List Token}
    (listed : Listed (expressionCode grammar) inner) :
    Accepts (atom grammar allowStruct) (.group .bracket opening closing inner :: rest) rest
      Expression.IsValue := by
  have values : Accepts (listOrRepeat grammar) inner [] fun _ => True := by
    cases inner with
    | nil => exact fun _ => ⟨_, rfl, trivial⟩
    | cons first more =>
      cases listed with
      | last reads => exact .peek_false rfl (reads.skip fun _ => .peek_true rfl (.pure trivial))
      | next reads shorter goesOn =>
        refine .peek_false rfl (reads.skip fun _ => .peek_false rfl (.peek_true rfl ?_))
        refine (accepts_mark "," (by decide)).skip fun comma => ?_
        exact goesOn.accepts.skip fun others => .pure trivial
  exact (accepts_groupCode values).map fun _ _ => .inl rfl

end Parse

end DataAccess
