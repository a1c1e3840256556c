/-
This file proves which statements are read, as far as generated code is made of them: values with
and without a semicolon, definitions of variables, and conditions.
-/

import DataAccess.Proofs.Parse.AcceptsExpression

namespace DataAccess.Parse

open DataAccess.Parser

variable {grammar : Grammar} {depth : Nat} {standing middle rest : List Token}

/-- What begins an expression and no other statement. -/
structure StartsExpression (standing : List Token) : Prop where
  unmarked : Peek.mark "#" standing = false
  macroless : Accepts (ahead macroStart) standing standing fun start => start = .none
  unbound : Peek.word "let" standing = false
  itemless : startsItem standing = false

/-- What begins a value, which no brace ends. -/
structure StartsValue (standing : List Token) : Prop extends StartsExpression standing where
  braceless : ∀ grammar, Accepts (boundaryAtom? grammar) standing standing fun found => found = none

theorem accepts_boundaryExpression (starts : StartsValue standing)
    (reads : Accepts (operand (Parse.grammar depth) true) standing rest Expression.IsValue)
    (ends : EndsExpression rest) :
    Accepts (boundaryExpression (Parse.grammar (depth + 1))) standing rest Expression.IsValue := by
  have first : Accepts ((Parse.grammar (depth + 1)).operand true) standing rest
      Expression.IsValue := reads
  refine (accepts_outerAttributeCode starts.unmarked).bind ?_
  rintro _ rfl
  refine (starts.braceless _).bind ?_
  rintro _ rfl
  exact first.bind fun found value =>
    (accepts_operators_of_ends value ends).imp fun _ same => same ▸ value

/-- A statement that is an expression, with what is read of a semicolon. -/
theorem accepts_statement {holds : Expression → Prop} {ended : Option Position → Prop}
    (starts : StartsExpression standing)
    (reads : Accepts grammar.boundaryExpression standing middle holds)
    (semicolon : Accepts (mark? ";") middle rest ended) :
    Accepts (statement grammar) standing rest fun found =>
      ∃ value position, found = .expression value position ∧ holds value ∧ ended position := by
  refine .lookAt fun _ => (accepts_outerAttributeCode starts.unmarked).bind ?_
  rintro _ rfl
  refine starts.macroless.bind ?_
  rintro _ rfl
  refine .peek_false starts.unbound (.peek_false starts.itemless ?_)
  exact reads.bind fun value held => semicolon.map fun position found =>
    ⟨value, position, rfl, held, found⟩

/-- A value with a semicolon. -/
theorem accepts_statement_semicolon {position : Position} (starts : StartsValue standing)
    (reads : Accepts (operand (Parse.grammar depth) true) standing
      (.mark ';' false position :: rest) Expression.IsValue) :
    Accepts (statement (Parse.grammar (depth + 2))) standing rest
      fun found => needsSemicolon found = false := by
  have whole : Accepts (Parse.grammar (depth + 2)).boundaryExpression standing
      (.mark ';' false position :: rest) Expression.IsValue :=
    accepts_boundaryExpression starts reads (.semicolon _ _ _)
  have semicolon : Accepts (mark? ";") (.mark ';' false position :: rest) rest
      fun found => found.isSome = true := fun _ => ⟨_, rfl, rfl⟩
  refine (accepts_statement starts.toStartsExpression whole semicolon).imp ?_
  rintro _ ⟨value, _ | position, rfl, -, ended⟩
  · exact absurd ended Bool.false_ne_true
  · rfl

/-- A value at the end of a block. -/
theorem accepts_statement_last (starts : StartsValue standing)
    (reads : Accepts (operand (Parse.grammar depth) true) standing [] Expression.IsValue) :
    Accepts (statement (Parse.grammar (depth + 2))) standing [] fun _ => True := by
  have whole : Accepts (Parse.grammar (depth + 2)).boundaryExpression standing []
      Expression.IsValue :=
    accepts_boundaryExpression starts reads .nil
  exact (accepts_statement starts.toStartsExpression whole
    (accepts_mark?_of_absent rfl)).any

/-- The statements of a block. -/
inductive ListsStatements (grammar : Grammar) : List Token → Prop
  | nil : ListsStatements grammar []
  | last {standing : List Token} (present : Peek.mark ";" standing = false)
      (reads : Accepts (statement grammar) standing [] fun _ => True) :
      ListsStatements grammar standing
  | next {standing behind : List Token} (present : Peek.mark ";" standing = false)
      (reads : Accepts (statement grammar) standing behind
        fun found => needsSemicolon found = false)
      (shorter : behind.length < standing.length) (goesOn : ListsStatements grammar behind) :
      ListsStatements grammar standing

theorem ListsStatements.accepts (listed : ListsStatements grammar standing) :
    Accepts (statements grammar) standing [] fun _ => True := by
  refine Repeats.accepts ?_
  induction listed with
  | nil => exact .done (fun _ => ⟨_, rfl, rfl⟩) trivial
  | @last standing present reads =>
    cases standing with
    | nil => exact .done (fun _ => ⟨_, rfl, rfl⟩) trivial
    | cons first more =>
      have shorter : ([] : List Token).length < (first :: more).length := Nat.succ_pos _
      refine .next ?_ shorter fun _ (_ : True) => .done (fun _ => ⟨_, rfl, rfl⟩) trivial
      refine .peek_false present (.peek_false rfl (reads.bind fun found _ => ?_))
      cases needsSemicolon found <;> exact fun _ => ⟨_, rfl, found, rfl, trivial⟩
  | @next standing behind present reads shorter goesOn hypothesis =>
    cases standing with
    | nil => exact absurd shorter (Nat.not_lt_zero _)
    | cons first more =>
      refine .next ?_ shorter fun _ (_ : True) => hypothesis
      refine .peek_false present (.peek_false rfl (reads.bind fun found ended => ?_))
      rw [ended]
      exact fun _ => ⟨_, rfl, found, rfl, trivial⟩

/-! Conditions and variables. -/

/-- A condition without an alternative. -/
theorem accepts_statement_conditional {opening closing : Position} {inner : List Token}
    (tested : Accepts (condition (Parse.grammar (depth + 1))) standing
      (.group .brace opening closing inner :: rest) fun _ => True)
    (within : Accepts (statements (Parse.grammar depth)) inner [] fun _ => True)
    (elseless : Peek.word "else" rest = false)
    (ended : (startsField rest || Peek.mark "?" rest) = false)
    (semicolonless : Peek.mark ";" rest = false) :
    Accepts (statement (Parse.grammar (depth + 2))) (Token.keyword "if" .callSite :: standing) rest
      fun found => needsSemicolon found = false := by
  have block : Accepts (plainBlock (Parse.grammar (depth + 1)))
      (.group .brace opening closing inner :: rest) rest fun _ => True :=
    accepts_plainBlock within
  have whole : Accepts (conditional (Parse.grammar (depth + 1)))
      (Token.keyword "if" .callSite :: standing) rest
      fun found => found.form = .conditional false :=
    .look ((accepts_keywordCode "if").skip fun _ => tested.skip fun _ => block.skip fun _ =>
      .peek_false elseless (.pure rfl))
  have boundary : Accepts (boundaryAtom? (Parse.grammar (depth + 1)))
      (Token.keyword "if" .callSite :: standing) rest
      fun found => ∃ value, found = some value ∧ value.form = .conditional false :=
    .look (whole.mapped fun value form => ⟨value, rfl, form⟩)
  have reads : Accepts (Parse.grammar (depth + 2)).boundaryExpression
      (Token.keyword "if" .callSite :: standing) rest
      fun found => found.form = .conditional false := by
    refine Accepts.bind (accepts_outerAttributeCode rfl) ?_
    rintro _ rfl
    refine boundary.bind ?_
    rintro _ ⟨value, rfl, form⟩
    exact .peek_false ended (.pure form)
  have starts : StartsExpression (Token.keyword "if" .callSite :: standing) :=
    ⟨rfl, .of_eq fun _ => rfl, rfl, rfl⟩
  refine (accepts_statement starts reads (accepts_mark?_of_absent semicolonless)).imp ?_
  rintro _ ⟨value, _, rfl, form, rfl⟩
  rw [needsSemicolon, form]
  rfl

/-- A comparison in front of a block. -/
theorem accepts_comparison {opening closing : Position} {inner : List Token}
    (reads : Accepts (operand (Parse.grammar depth) false) standing
      (.group .brace opening closing inner :: rest) Expression.IsValue) :
    Accepts (condition (Parse.grammar (depth + 3)))
      (Token.keyword "interface" .callSite :: (Token.operator "==" .callSite ++ standing))
      (.group .brace opening closing inner :: rest) fun _ => True := by
  have left : Accepts ((Parse.grammar (depth + 2)).operand false)
      (Token.keyword "interface" .callSite :: (Token.operator "==" .callSite ++ standing))
      (Token.operator "==" .callSite ++ standing) fun found => found.form = .ordinary :=
    fun _ => ⟨_, rfl, rfl⟩
  have operand : Accepts ((Parse.grammar (depth + 1)).operand false) standing
      (.group .brace opening closing inner :: rest) Expression.IsValue := reads
  have right : Accepts (rightSide (Parse.grammar (depth + 1)) false Strength.comparison) standing
      (.group .brace opening closing inner :: rest) fun _ => True :=
    operand.any.skip fun _ => fun _ => ⟨_, rfl, trivial⟩
  have compared (found : Expression) (form : found.form = .ordinary) :
      Accepts ((Parse.grammar (depth + 2)).operators false found Strength.least)
        (Token.operator "==" .callSite ++ standing)
        (.group .brace opening closing inner :: rest) fun _ => True := by
    obtain ⟨code, arm, attributedArm, _⟩ := found
    cases form
    have operator : Accepts (markCode "==") (Token.operator "==" .callSite ++ standing) standing
        fun _ => True := accepts_markCode "==" (by decide)
    refine .look (.look (operator.skip fun _ => ?_))
    exact right.skip fun _ => fun _ => ⟨_, rfl, trivial⟩
  have whole : Accepts ((Parse.grammar (depth + 3)).expression false)
      (Token.keyword "interface" .callSite :: (Token.operator "==" .callSite ++ standing))
      (.group .brace opening closing inner :: rest) fun _ => True := left.bind compared
  exact whole.map fun _ _ => trivial

/-- A variable with a type and a value. -/
theorem accepts_statement_let {typed : List Token}
    (declared : Accepts (declaredType (Parse.grammar depth) true) typed
      (.mark '=' false .callSite :: standing) fun _ => True)
    (value : Accepts (expressionCode (Parse.grammar (depth + 1))) standing
      (.mark ';' false .callSite :: rest) fun _ => True) :
    Accepts (statement (Parse.grammar (depth + 1)))
      (Token.keyword "let" .callSite :: Token.keyword "dao" .callSite ::
        .mark ':' false .callSite :: typed) rest fun found => needsSemicolon found = false := by
  have pattern : Accepts (Parse.grammar (depth + 1)).pattern
      (Token.keyword "dao" .callSite :: .mark ':' false .callSite :: typed)
      (.mark ':' false .callSite :: typed) fun _ => True := fun _ => ⟨_, rfl, trivial⟩
  have type : Accepts ((Parse.grammar (depth + 1)).type true) typed
      (.mark '=' false .callSite :: standing) fun _ => True := declared
  have whole : Accepts (localStatement (Parse.grammar (depth + 1)))
      (Token.keyword "let" .callSite :: Token.keyword "dao" .callSite ::
        .mark ':' false .callSite :: typed) rest fun _ => True := by
    refine (accepts_keywordCode "let").skip fun _ => pattern.skip fun _ => .peek_true rfl ?_
    refine (accepts_markCode ":" (by decide)).skip fun _ => type.skip fun _ => .bind (.pure rfl) ?_
    rintro _ rfl
    refine .peek_true rfl ((accepts_markCode "=" (by decide)).skip fun _ => value.skip fun _ => ?_)
    refine .guarded rfl (.bind (.pure rfl) ?_)
    rintro _ rfl
    exact (accepts_markCode ";" (by decide)).skip fun _ => .pure trivial
  refine .lookAt fun _ => (accepts_outerAttributeCode rfl).bind ?_
  rintro _ rfl
  have macroless : Accepts (ahead macroStart)
      (Token.keyword "let" .callSite :: Token.keyword "dao" .callSite ::
        .mark ':' false .callSite :: typed)
      (Token.keyword "let" .callSite :: Token.keyword "dao" .callSite ::
        .mark ':' false .callSite :: typed) fun start => start = .none := .of_eq fun _ => rfl
  refine macroless.bind ?_
  rintro _ rfl
  exact .peek_true rfl (whole.map fun _ _ => rfl)

end DataAccess.Parse
