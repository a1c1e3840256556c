/-
This file proves that the rendered code of a method says what was compiled, so that nothing is lost
on the way through the code. Running what was compiled is therefore running what its code says.
-/

import DataAccess.Execution.GeneratedMethod
import DataAccess.Proofs.Compile.Rendered
import DataAccess.Proofs.Text.Decimal

namespace DataAccess

namespace Rendered

open DataAccess.Parser (Reads)
open Template

/-- The digits of a size are those in front of its suffix. -/
theorem takeWhile_isDigit_size (digits : List Char) (numeric : ∀ c ∈ digits, c.isDigit = true) :
    (digits ++ "usize".toList).takeWhile Char.isDigit = digits := by
  rw [List.takeWhile_append_of_pos numeric]
  have stops : "usize".toList.takeWhile Char.isDigit = [] := by decide
  rw [stops, List.append_nil]

/-- The suffix of a size does not change its number. -/
theorem sizeOf?_size (number : Nat) : sizeOf? s!"{number}usize" = some number := by
  have spelled : s!"{number}usize".toList = Nat.toDigits 10 number ++ "usize".toList := by
    change (toString number ++ "usize").toList = _
    rw [String.toList_append, Nat.toString_eq_repr, Nat.toList_repr]
  have digits := takeWhile_isDigit_size (Nat.toDigits 10 number) fun character member =>
    Nat.isDigit_of_mem_toDigits (by decide) (by decide) member
  rw [sizeOf?, spelled, digits, List.drop_left, if_pos rfl, Text.Decimal.valueOf_toDigits]

/-- A size is read as its number. -/
theorem reads_size (number : Nat) :
    Reads size (Code.tokens (spelled s!"{number}usize")) number :=
  reads_literalOf (sizeOf?_size number)

/-- The column of values is the first one. -/
theorem reads_valueColumn : Reads valueColumn Render.resultColumn.tokens 1 :=
  reads_literalOf (by decide)

/-- The literal of a query is read as it stands. -/
theorem reads_query (literal : StringLiteral) : Reads query [literal.token] literal := by
  intro stream rest found
  cases stream
  cases found
  rfl

/-- The statement of a closure is read over. -/
theorem reads_statement : Reads statement
    (Code.tokens (word Render.statementName ++ mark ".")) () :=
  (reads_word _).append ((reads_mark "." (by decide)).map fun _ => ())

/-- A tag is known by its name. -/
theorem tag_ofName? (tag : WireTag) : WireTag.ofName? tag.name = some tag := by
  cases tag <;> rfl

/-- An accessor is known by its name. -/
theorem accessor_ofName? (accessor : Accessor) :
    Accessor.ofName? accessor.name = some accessor := by
  cases accessor <;> decide

/-- The arguments of a binding are read as the binding. -/
theorem reads_boundArgument (bound : Binding) :
    Reads boundArgument
      (Code.tokens (spelled s!"{bound.position}usize" ++ (mark "," ++ (mark "&" ++
        (named bound.parameter ++ (mark "," ++
          absolute ["dbx", "WireTag", bound.tag.name])))))) bound := by
  refine (reads_size _).append ((reads_mark "," (by decide)).append
    ((reads_mark "&" (by decide)).append ((reads_named _).append
      ((reads_mark "," (by decide)).append ?_))))
  have tagged := reads_knownMember ["dbx", "WireTag"] (tag_ofName? bound.tag)
  have placed := tagged.map fun tag => (⟨bound.position, bound.parameter, tag⟩ : Binding)
  rwa [bind_assoc] at placed

/-- A rendered binding is read as the binding. -/
theorem reads_binding (bound : Binding) : Reads binding (Render.binding bound).tokens bound := by
  simp only [Render.binding, List.append_assoc]
  rw [← List.append_assoc (word Render.statementName)]
  exact reads_statement.append ((reads_word "bind").append
    ((reads_parentheses (reads_boundArgument bound)).append
      ((reads_mark "?" (by decide)).append ((reads_mark ";" (by decide)).map fun _ => bound))))

/-- The rows of a statement are read over. -/
theorem reads_rows : Reads rows Render.rows.tokens () := by
  simp only [Render.rows, List.append_assoc]
  rw [← List.append_assoc (word Render.statementName)]
  exact (reads_mark "&" (by decide)).append ((reads_word "mut").append
    (reads_statement.append ((reads_word "query").append
      ((reads_parentheses reads_nothing).map fun _ => ()))))

/-- The arguments of a drain are read as its accessor. -/
theorem reads_columnAccessor (accessor : Accessor) :
    Reads columnAccessor
      (Code.tokens (Render.rows ++ (mark "," ++ (Render.resultColumn ++ (mark "," ++
        absolute ["dbx", "ResultSource", accessor.name]))))) accessor :=
  reads_rows.append ((reads_mark "," (by decide)).append (reads_valueColumn.append
    ((reads_mark "," (by decide)).append
      (reads_knownMember ["dbx", "ResultSource"] (accessor_ofName? accessor)))))

/-- The drain without a column is read as such. -/
theorem reads_finish : Reads drain (Render.extract .finish).tokens .finish :=
  (reads_memberOf Render.materializePath "finish").append
    ((reads_parentheses reads_rows).map fun _ => Extract.finish)

/-- A drain other than the one without a column is read with its accessor. -/
theorem reads_materialize {function : String} {extract : Accessor → Extract}
    (meant : columnDrain? function = some extract) (accessor : Accessor) :
    Reads drain (Render.materialize function accessor).tokens (extract accessor) := by
  have columned : (function == "finish") = false := by
    cases finishing : function == "finish" with
    | false => rfl
    | true =>
      rw [beq_iff_eq] at finishing
      subst finishing
      exact nomatch meant
  simp only [Render.materialize, List.append_assoc]
  refine (reads_memberOf Render.materializePath function).append ?_
  simp only [columned, Bool.false_eq_true, if_false]
  rw [← List.nil_append (Code.tokens _)]
  exact (reads_known meant).bind ((reads_parentheses (reads_columnAccessor accessor)).map
    fun found => extract found.value)

/-- No drain begins with the name of the statement. -/
theorem word_absolute (names : List String) (rest : List Token) :
    Peek.word Render.statementName ((absolute ("dbx" :: names)).tokens ++ rest) = false := by
  rw [absolute_cons, Code.tokens_append, List.append_assoc]
  rfl

/-- A rendered extraction is read as the extraction. -/
theorem reads_extract (extraction : Extract) :
    Reads extract (Render.extract extraction).tokens extraction := by
  cases extraction with
  | finish =>
    refine Reads.ite_of_not_peek (fun rest => ?_) reads_finish
    rw [Render.extract, Code.tokens_append, List.append_assoc]
    exact word_absolute _ _
  | resultSet =>
    refine Reads.ite_of_peek (fun rest => rfl) ?_
    simp only [Render.extract]
    exact reads_statement.append ((reads_word "result_set").append
      ((reads_parentheses reads_nothing).map fun _ => Extract.resultSet))
  | scalar accessor =>
    refine Reads.ite_of_not_peek (fun rest => ?_) (reads_materialize rfl accessor)
    rw [Render.extract, Render.materialize, Code.tokens_append, List.append_assoc]
    exact word_absolute _ _
  | collection kind element =>
    refine Reads.ite_of_not_peek (fun rest => ?_) ?_
    · rw [Render.extract, Render.materialize, Code.tokens_append, List.append_assoc]
      exact word_absolute _ _
    · cases kind with
      | list => exact reads_materialize rfl element
      | set => exact reads_materialize rfl element

/-- An extraction is not taken for a binding. -/
theorem binding_extract (extraction : Extract) (stream : Stream) (rest : List Token) :
    ∃ error, binding { stream with tokens := (Render.extract extraction).tokens ++ rest } =
      .error error := by
  cases extraction with
  | finish => exact ⟨_, rfl⟩
  | resultSet => exact ⟨_, rfl⟩
  | scalar accessor => exact ⟨_, rfl⟩
  | collection kind element => exact ⟨_, rfl⟩

/-- A binding is at least one token. -/
theorem binding_tokens_ne_nil (bound : Binding) : (Render.binding bound).tokens ≠ [] := by
  simp [Render.binding]

/-- The bindings of a closure are read up to its extraction. -/
theorem reads_bindings (bindings : List Binding) (extraction : Extract) (stream : Stream)
    (rest : List Token)
    (standing : stream.tokens =
      Code.tokens (bindings.flatMap Render.binding) ++
        ((Render.extract extraction).tokens ++ rest)) :
    Parser.repeatStep (Parser.attempt binding) stream =
      .ok (bindings, { stream with tokens := (Render.extract extraction).tokens ++ rest }) := by
  rw [Code.tokens_flatMap] at standing
  obtain ⟨error, fails⟩ := binding_extract extraction stream rest
  have repeated := Parser.repeatStep_apply (fun bound => (reads_binding bound).attempt)
    binding_tokens_ne_nil bindings stream standing (Parser.attempt_eq_none fails)
  rwa [List.map_id'] at repeated

/-- The closure is read as its bindings and its extraction. -/
theorem reads_closure (bindings : List Binding) (extraction : Extract) :
    Reads closure (Code.tokens (bindings.flatMap Render.binding ++ Render.extract extraction))
      (bindings, extraction) := by
  intro stream rest standing
  rw [Code.tokens_append, List.append_assoc] at standing
  change (Parser.repeatStep (Parser.attempt binding) stream >>= fun pair =>
    (extract >>= fun found => pure (pair.1, found)) pair.2) = _
  rw [reads_bindings bindings extraction stream rest standing]
  exact (reads_extract extraction).map (fun found => (bindings, found)) _ rest rfl

/-- What the closure and the query of a method come to. -/
def parts (method : CompiledMethod) : StringLiteral × List Binding × Extract :=
  (method.query, method.bindings, method.extract)

/-- The call that runs a query is read as its parts. -/
theorem reads_executeCall (method : CompiledMethod) :
    Reads executeCall (Render.execution method).tokens (parts method) := by
  simp only [Render.execution, relative, absolute, List.flatMap_nil, List.append_nil,
    List.append_assoc]
  refine (reads_path ["dbx", "execute"]).append ((reads_parentheses ?_).map _)
  exact (reads_mark "&" (by decide)).append ((reads_word "self").append
    ((reads_mark "." (by decide)).append ((reads_word "handle").append
      ((reads_mark "," (by decide)).append ((reads_query method.query).append
        ((reads_mark "," (by decide)).append ((reads_mark "|" (by decide)).append
          ((reads_word _).append ((reads_mark "|" (by decide)).append
            ((reads_braces (reads_closure method.bindings method.extract)).map
              fun inside => (method.query, inside.value)))))))))))

/-- A call whose failure is converted is read as its parts. -/
theorem reads_propagated (method : CompiledMethod) :
    Reads propagated
      (Code.tokens (Render.execution method ++
        (mark "," ++ absolute ["core", "convert", "Into", "into"]))) (parts method) :=
  (reads_executeCall method).append ((reads_mark "," (by decide)).append
    ((reads_path _).map fun _ => parts method))

/-- The wrapper that passes failures on is not taken for the one that stops. -/
theorem unchecked_propagate (stream : Stream) (rest : List Token) :
    ∃ error, path ["dbx", "unchecked"] { stream with
      tokens := (absolute ["core", "result", "Result", "map_err"]).tokens ++ rest } =
        .error error :=
  ⟨_, rfl⟩

/-- A rendered body is read as the parts of its method, with the failure mode. -/
theorem reads_body (method : CompiledMethod) :
    Reads body (Render.body method).tokens (method.failure, parts method) := by
  rw [Render.body]
  cases method.failure with
  | unchecked =>
    exact (reads_path ["dbx", "unchecked"]).attempt.append
      ((reads_parentheses (reads_executeCall method)).map fun found =>
        (FailureMode.unchecked, found.value))
  | propagate =>
    have wrapped : Reads (path ["core", "result", "Result", "map_err"] >>= fun _ =>
        Parser.group .parenthesis propagated >>= fun found =>
          pure (FailureMode.propagate, found.value))
        (Code.tokens (absolute ["core", "result", "Result", "map_err"] ++
          parentheses (Render.execution method ++
            (mark "," ++ absolute ["core", "convert", "Into", "into"]))))
        (.propagate, parts method) :=
      (reads_path _).append ((reads_parentheses (reads_propagated method)).map
        fun found => (FailureMode.propagate, found.value))
    intro stream rest standing
    simp only [List.append_assoc] at standing
    obtain ⟨error, fails⟩ := unchecked_propagate stream
      (Code.tokens (parentheses (Render.execution method ++
        (mark "," ++ absolute ["core", "convert", "Into", "into"]))) ++ rest)
    rw [← List.append_assoc, ← Code.tokens_append, ← standing] at fails
    change (Parser.attempt (path ["dbx", "unchecked"]) stream >>= _) = _
    rw [Parser.attempt_eq_none fails]
    exact wrapped stream rest standing

end Rendered

namespace GeneratedMethod

/-- A body is read behind any signature. -/
theorem read?_body (signature : List Token) (method : CompiledMethod) :
    read? (signature ++ [.group .brace .callSite .callSite (Render.body method).tokens]) =
      some ⟨signature, method.query, method.bindings, method.extract, method.failure⟩ := by
  rw [read?, List.getLast?_concat, List.dropLast_concat]
  simp only [(Rendered.reads_body method).all.runWithin]
  rfl

/-- Nothing is lost when a method is rendered. -/
theorem read?_method (method : CompiledMethod) :
    read? (Render.method method).tokens =
      some ⟨method.signature.tokens, method.query, method.bindings, method.extract,
        method.failure⟩ := by
  rw [Render.method, Code.tokens_append, Template.tokens_braces]
  exact read?_body _ method

/-- The closure in the code of a method executes as the method does. -/
theorem execute_of_read? {method : CompiledMethod} {generated : GeneratedMethod}
    (read : read? (Render.method method).tokens = some generated) (arguments : CallArguments)
    (statement : Statement) :
    generated.execute arguments statement =
      method.execute (arguments.inOrder method.bindings) statement := by
  rw [read?_method] at read
  obtain rfl := Option.some.inj read
  rfl

/-- A call of the code of a method is answered as a call of the method on what its query is
prepared as. -/
theorem call_of_read? {method : CompiledMethod} {generated : GeneratedMethod}
    (read : read? (Render.method method).tokens = some generated) (arguments : CallArguments)
    (prepare : String → Except DatabaseError Statement) :
    generated.call arguments prepare =
      method.call (arguments.inOrder method.bindings) (prepare method.query.value) := by
  have executes := execute_of_read? read arguments
  rw [read?_method] at read
  obtain rfl := Option.some.inj read
  unfold call CompiledMethod.call
  dsimp only
  cases prepare method.query.value with
  | error error => rfl
  | ok statement =>
    dsimp only
    rw [executes statement]

end GeneratedMethod

/-- Arguments that come in order are given by name where the bindings name distinct parameters, so
that every call of a compiled method is one of its code. -/
theorem CallArguments.exists_inOrder {bindings : List Binding} {values : List Bindable}
    (distinct : (bindings.map fun binding => binding.parameter.text).Nodup)
    (complete : bindings.length = values.length) :
    ∃ arguments : CallArguments, arguments.inOrder bindings = values := by
  induction bindings generalizing values with
  | nil => exact ⟨fun _ => .missing, (List.length_eq_zero_iff.mp complete.symm).symm⟩
  | cons binding bindings hypothesis =>
    cases values with
    | nil => exact nomatch complete
    | cons value values =>
      obtain ⟨fresh, others⟩ := List.nodup_cons.mp distinct
      obtain ⟨arguments, ordered⟩ := hypothesis others (Nat.succ.inj complete)
      -- The first name stands for the first value, and no later binding has that name.
      refine ⟨fun name => if name = binding.parameter.text then value else arguments name, ?_⟩
      rw [CallArguments.inOrder, List.map_cons, if_pos rfl, ← ordered]
      congr 1
      refine List.map_congr_left fun other later => if_neg fun same => fresh ?_
      exact List.mem_map.mpr ⟨other, later, same⟩

end DataAccess
