/-
This file proves that the parts of a generated method are read as what they are meant to be.
-/

import DataAccess.Proofs.Parse.AcceptsStatement

namespace DataAccess

open DataAccess.Parser DataAccess.Parse

/-- What a parameter can be bound under: a plain name, or the word of a receiver. -/
def Name.IsBindable (name : Name) : Prop :=
  name.IsPlain ∨ name.text = "self"

namespace Render

variable {depth : Nat} {rest : List Token}

/-- The names of tags are no keywords. -/
theorem isPlain_tag (tag : WireTag) : Name.IsPlain ⟨tag.name, .callSite⟩ := by
  cases tag <;> rfl

/-- The names of accessors are no keywords. -/
theorem isPlain_accessor (accessor : Accessor) : Name.IsPlain ⟨accessor.name, .callSite⟩ := by
  cases accessor <;> rfl

/-- The names of drains are no keywords. -/
theorem isPlain_materializer (kind : ContainerKind) :
    Name.IsPlain ⟨kind.materializer, .callSite⟩ := by
  cases kind <;> rfl

/-! Arguments of calls. -/

/-- A path from the root of all crates as the last argument. -/
theorem accepts_absoluteArgument (first : String) (names : List String) {last : String}
    (plain : (first :: names).all (fun name => !Text.Identifier.isReserved name) = true)
    (named : Name.IsPlain ⟨last, .callSite⟩) :
    Accepts (expressionCode (grammar (depth + 2)))
      (Token.pathTo (first :: names) [Token.keyword last .callSite]) [] fun _ => True :=
  accepts_expressionCode (accepts_operand_of_atom rfl
    (accepts_atom_absolute plain (accepts_segment named rfl) rfl rfl rfl) .nil) .nil

/-- A reference to a parameter. -/
theorem accepts_parameter {name : Name} {position : Position} (bindable : name.IsBindable) :
    Accepts (expressionCode (grammar (depth + 3)))
      (.mark '&' false .callSite :: .word name :: .mark ',' false position :: rest)
      (.mark ',' false position :: rest) fun _ => True := by
  obtain plain | self := bindable
  · have parameter : Accepts (operand (grammar depth) true)
        (.word name :: .mark ',' false position :: rest) (.mark ',' false position :: rest)
        Expression.IsValue :=
      accepts_operand_of_atom rfl
        (accepts_atom_plain plain rfl (accepts_path plain rfl rfl) rfl rfl) (.comma _ _ _)
    exact accepts_expressionCode (accepts_reference (plain.word "mut" rfl) (Bool.and_false _)
      parameter) (.comma _ _ _)
  · obtain ⟨_, place⟩ := name
    cases self
    exact fun _ => ⟨_, rfl, trivial⟩

/-- A literal in front of a comma is an argument. -/
theorem accepts_literalArgument {spelling : String} {place position : Position} :
    Accepts (expressionCode (grammar (depth + 2)))
      (.literal spelling place :: .mark ',' false position :: rest)
      (.mark ',' false position :: rest) fun _ => True :=
  accepts_expressionCode (accepts_operand_of_atom rfl accepts_literal (.comma _ _ _))
    (.comma _ _ _)

/-- An argument is followed by what its comma separates it from. -/
theorem length_lt_of_comma {position : Position} (argument rest : List Token) :
    rest.length < (argument ++ .mark ',' false position :: rest).length := by
  simp
  omega

/-! Bindings. -/

/-- The arguments of a binding. -/
def bindingArguments (bound : Binding) : List Token :=
  .literal s!"{bound.position}usize" .callSite :: .mark ',' false .callSite ::
    .mark '&' false .callSite :: .word bound.parameter :: .mark ',' false .callSite ::
      Token.pathTo ["dbx", "WireTag"] [Token.keyword bound.tag.name .callSite]

/-- A binding is a call on the statement, whose failure is passed on. -/
theorem tokens_binding (bound : Binding) :
    (binding bound).tokens =
      [Token.keyword statementName .callSite, .mark '.' false .callSite,
        Token.keyword "bind" .callSite,
        .group .parenthesis .callSite .callSite (bindingArguments bound),
        .mark '?' false .callSite, .mark ';' false .callSite] := rfl

/-- The arguments of a binding are a list of expressions. -/
theorem lists_bindingArguments {bound : Binding} (bindable : bound.parameter.IsBindable) :
    Listed (expressionCode (grammar (depth + 3))) (bindingArguments bound) := by
  have tag : Listed (expressionCode (grammar (depth + 3)))
      (Token.pathTo ["dbx", "WireTag"] [Token.keyword bound.tag.name .callSite]) :=
    .last (accepts_absoluteArgument "dbx" ["WireTag"] rfl (isPlain_tag bound.tag))
  have parameter : Listed (expressionCode (grammar (depth + 3)))
      (.mark '&' false .callSite :: .word bound.parameter :: .mark ',' false .callSite ::
        Token.pathTo ["dbx", "WireTag"] [Token.keyword bound.tag.name .callSite]) :=
    .next (accepts_parameter bindable)
      (length_lt_of_comma [.mark '&' false .callSite, .word bound.parameter] _) tag
  exact .next accepts_literalArgument (length_lt_of_comma [.literal _ .callSite] _) parameter

/-- A binding is read as a statement that ends with its own semicolon. -/
theorem accepts_binding {bound : Binding} (bindable : bound.parameter.IsBindable) :
    Accepts (statement (grammar (depth + 5))) ((binding bound).tokens ++ rest) rest
      fun found => needsSemicolon found = false := by
  have starts : StartsValue ((binding bound).tokens ++ rest) :=
    ⟨⟨rfl, .of_eq fun _ => rfl, rfl, rfl⟩, fun _ => .of_eq fun _ => rfl⟩
  have target : Accepts (atom (grammar (depth + 3)) true) ((binding bound).tokens ++ rest)
      (.mark '.' false .callSite :: Token.keyword "bind" .callSite ::
        .group .parenthesis .callSite .callSite (bindingArguments bound) ::
        .mark '?' false .callSite :: .mark ';' false .callSite :: rest) Expression.IsValue :=
    fun _ => ⟨_, rfl, .inl rfl⟩
  exact accepts_statement_semicolon starts (accepts_operand rfl target fun _ value =>
    accepts_trailers_method rfl value (lists_bindingArguments bindable) (.semicolon _ _ _))

/-! Extraction. -/

/-- The rows of a statement are an argument. -/
theorem accepts_rows {position : Position} :
    Accepts (expressionCode (grammar (depth + 9))) (rows.tokens ++ .mark ',' false position :: rest)
      (.mark ',' false position :: rest) fun _ => True := by
  rintro ⟨_, _, _, leftover⟩
  cases leftover <;> exact ⟨_, rfl, trivial⟩

/-- The arguments of a function that takes values out of rows. -/
def materializeArguments (accessor : Accessor) : List Token :=
  rows.tokens ++ .mark ',' false .callSite :: .literal "1usize" .callSite ::
    .mark ',' false .callSite ::
      Token.pathTo ["dbx", "ResultSource"] [Token.keyword accessor.name .callSite]

/-- The arguments of a drain are a list of expressions. -/
theorem lists_materializeArguments (accessor : Accessor) :
    Listed (expressionCode (grammar (depth + 9))) (materializeArguments accessor) := by
  have source : Listed (expressionCode (grammar (depth + 9)))
      (Token.pathTo ["dbx", "ResultSource"] [Token.keyword accessor.name .callSite]) :=
    .last (accepts_absoluteArgument "dbx" ["ResultSource"] rfl (isPlain_accessor accessor))
  have column : Listed (expressionCode (grammar (depth + 9)))
      (.literal "1usize" .callSite :: .mark ',' false .callSite ::
        Token.pathTo ["dbx", "ResultSource"] [Token.keyword accessor.name .callSite]) :=
    .next accepts_literalArgument (length_lt_of_comma [.literal _ .callSite] _) source
  exact .next accepts_rows (length_lt_of_comma rows.tokens _) column

/-- A call of a function that is known by its path from the root of all crates. -/
theorem accepts_call (first : String) (names : List String) {last : String}
    {inner rest : List Token} {allowStruct : Bool}
    (plain : (first :: names).all (fun name => !Text.Identifier.isReserved name) = true)
    (named : Name.IsPlain ⟨last, .callSite⟩)
    (listed : Listed (expressionCode (grammar depth)) inner) (ends : EndsExpression rest) :
    Accepts (operand (grammar depth) allowStruct)
      (Token.pathTo (first :: names) (Token.keyword last .callSite ::
        .group .parenthesis .callSite .callSite inner :: rest)) rest Expression.IsValue :=
  accepts_operand rfl (accepts_atom_absolute plain (accepts_segment named rfl) rfl rfl rfl)
    fun _ _ => accepts_trailers_call listed ends

/-- The call of a drain is read as a value. -/
theorem accepts_materialize {function : String} (named : Name.IsPlain ⟨function, .callSite⟩)
    (accessor : Accessor) :
    Accepts (operand (grammar (depth + 9)) true) (materialize function accessor).tokens []
      Expression.IsValue :=
  accepts_call "dbx" ["materialize"] rfl named (lists_materializeArguments accessor) .nil

/-- Every extraction is read as a value. -/
theorem accepts_extract (extraction : Extract) :
    Accepts (operand (grammar (depth + 9)) true) (extract extraction).tokens []
      Expression.IsValue := by
  cases extraction with
  | finish =>
    rintro ⟨_, _, _, leftover⟩
    cases leftover <;> exact ⟨_, rfl, .inl rfl⟩
  | resultSet =>
    rintro ⟨_, _, _, leftover⟩
    cases leftover <;> exact ⟨_, rfl, .inl rfl⟩
  | scalar accessor =>
    have named : Name.IsPlain ⟨"first", .callSite⟩ := rfl
    exact accepts_materialize named accessor
  | collection kind element => exact accepts_materialize (isPlain_materializer kind) element

/-- Every extraction begins as a value does. -/
theorem startsValue_extract (extraction : Extract) : StartsValue (extract extraction).tokens := by
  cases extraction with
  | collection kind element =>
    cases kind <;> exact ⟨⟨rfl, .of_eq fun _ => rfl, rfl, rfl⟩, fun _ => .of_eq fun _ => rfl⟩
  | _ => exact ⟨⟨rfl, .of_eq fun _ => rfl, rfl, rfl⟩, fun _ => .of_eq fun _ => rfl⟩

/-! Bodies. -/

/-- The bindings and the extraction are the statements of a block. -/
theorem lists_closureBody {bindings : List Binding} (extraction : Extract)
    (bindable : ∀ bound ∈ bindings, bound.parameter.IsBindable) :
    ListsStatements (grammar (depth + 11))
      (Code.tokens (bindings.flatMap binding ++ extract extraction)) := by
  induction bindings with
  | nil =>
    have present : Peek.mark ";" (extract extraction).tokens = false := by cases extraction <;> rfl
    exact .last present
      (accepts_statement_last (startsValue_extract extraction) (accepts_extract extraction))
  | cons bound bindings hypothesis =>
    rw [List.flatMap_cons, List.append_assoc, Code.tokens_append]
    refine .next rfl (accepts_binding (bindable bound List.mem_cons_self)) ?_
      (hypothesis fun other listed => bindable other (List.mem_cons_of_mem _ listed))
    rw [List.length_append, tokens_binding]
    simp

/-- The closure that runs on the prepared statement. -/
def closureBody (method : CompiledMethod) : List Token :=
  Code.tokens (method.bindings.flatMap binding ++ extract method.extract)

/-- The arguments of the call that runs a method. -/
def executionArguments (method : CompiledMethod) : List Token :=
  [.mark '&' false .callSite, Token.keyword "self" .callSite, .mark '.' false .callSite,
    Token.keyword "handle" .callSite, .mark ',' false .callSite, method.query.token,
    .mark ',' false .callSite, .mark '|' false .callSite,
    Token.keyword statementName .callSite, .mark '|' false .callSite,
    .group .brace .callSite .callSite (closureBody method)]

/-- The body of a closure begins with no attribute. -/
theorem closureBody_unmarked (method : CompiledMethod) :
    (Peek.mark "#" (closureBody method) &&
      Peek.mark "!" ((closureBody method).drop 1)) = false := by
  obtain ⟨signature, query, bindings, extraction, failure⟩ := method
  cases bindings with
  | nil => cases extraction <;> rfl
  | cons bound bindings => rfl

/-- The arguments of the call that runs a query are a list of expressions. -/
theorem lists_executionArguments {method : CompiledMethod}
    (bindable : ∀ bound ∈ method.bindings, bound.parameter.IsBindable) :
    Listed (expressionCode (grammar (depth + 16))) (executionArguments method) := by
  have closure : Listed (expressionCode (grammar (depth + 16)))
      [.mark '|' false .callSite, Token.keyword statementName .callSite, .mark '|' false .callSite,
        .group .brace .callSite .callSite (closureBody method)] :=
    .last (accepts_expressionCode (accepts_operand_of_atom rfl (accepts_atom_closure
      (closureBody_unmarked method) (lists_closureBody method.extract bindable).accepts .nil)
      .nil) .nil)
  have query : Listed (expressionCode (grammar (depth + 16)))
      (method.query.token :: .mark ',' false .callSite :: .mark '|' false .callSite ::
        Token.keyword statementName .callSite :: .mark '|' false .callSite ::
        [.group .brace .callSite .callSite (closureBody method)]) :=
    .next accepts_literalArgument (length_lt_of_comma [method.query.token] _) closure
  have handle : Accepts (expressionCode (grammar (depth + 16))) (executionArguments method)
      ((executionArguments method).drop 4) fun _ => True := fun _ => ⟨_, rfl, trivial⟩
  refine .next handle ?_ query
  exact length_lt_of_comma [_, _, _, _] _

/-- The call that runs a query is read as a value. -/
theorem accepts_execution {method : CompiledMethod} {rest : List Token}
    (bindable : ∀ bound ∈ method.bindings, bound.parameter.IsBindable)
    (ends : EndsExpression rest) :
    Accepts (operand (grammar (depth + 16)) true) ((execution method).tokens ++ rest) rest
      Expression.IsValue :=
  accepts_call "dbx" [] rfl rfl (lists_executionArguments bindable) ends

/-- The call that runs a query is read as an argument. -/
theorem accepts_executionArgument {method : CompiledMethod} {rest : List Token}
    (bindable : ∀ bound ∈ method.bindings, bound.parameter.IsBindable)
    (ends : EndsExpression rest) :
    Accepts (expressionCode (grammar (depth + 18))) ((execution method).tokens ++ rest) rest
      fun _ => True :=
  accepts_expressionCode (accepts_execution bindable ends) ends

/-- Where failures stop the caller, the call is wrapped by a function of the library. -/
theorem tokens_unchecked {method : CompiledMethod} (failure : method.failure = .unchecked) :
    (body method).tokens = Token.pathTo ["dbx"] [Token.keyword "unchecked" .callSite,
      .group .parenthesis .callSite .callSite (execution method).tokens] := by
  rw [body, failure]
  rfl

/-- Where failures are passed on, they are converted on the way. -/
theorem tokens_propagate {method : CompiledMethod} (failure : method.failure = .propagate) :
    (body method).tokens = Token.pathTo ["core", "result", "Result"]
      [Token.keyword "map_err" .callSite, .group .parenthesis .callSite .callSite
        ((execution method).tokens ++ .mark ',' false .callSite ::
          Token.pathTo ["core", "convert", "Into"] [Token.keyword "into" .callSite])] := by
  rw [body, failure]
  rfl

/-- The body of a method is a value. -/
theorem accepts_body {method : CompiledMethod}
    (bindable : ∀ bound ∈ method.bindings, bound.parameter.IsBindable) :
    Accepts (statements (grammar (depth + 20))) (body method).tokens [] fun _ => True := by
  refine ListsStatements.accepts ?_
  cases failure : method.failure with
  | unchecked =>
    have listed : Listed (expressionCode (grammar (depth + 18))) (execution method).tokens := by
      refine .last ?_
      have whole : Accepts (expressionCode (grammar (depth + 18)))
          ((execution method).tokens ++ []) [] _ := accepts_executionArgument bindable .nil
      rwa [List.append_nil] at whole
    rw [tokens_unchecked failure]
    exact .last rfl (accepts_statement_last
      ⟨⟨rfl, .of_eq fun _ => rfl, rfl, rfl⟩, fun _ => .of_eq fun _ => rfl⟩
      (accepts_call "dbx" [] rfl rfl listed .nil))
  | propagate =>
    have into : Name.IsPlain ⟨"into", .callSite⟩ := rfl
    have listed : Listed (expressionCode (grammar (depth + 18)))
        ((execution method).tokens ++ .mark ',' false .callSite ::
          Token.pathTo ["core", "convert", "Into"] [Token.keyword "into" .callSite]) :=
      .next (accepts_executionArgument bindable (.comma _ _ _)) (length_lt_of_comma _ _)
        (.last (accepts_absoluteArgument "core" ["convert", "Into"] rfl into))
    rw [tokens_propagate failure]
    exact .last rfl (accepts_statement_last
      ⟨⟨rfl, .of_eq fun _ => rfl, rfl, rfl⟩, fun _ => .of_eq fun _ => rfl⟩
      (accepts_call "core" ["result", "Result"] rfl rfl listed .nil))

end Render

end DataAccess
