/-
This file proves that generated items are read as what they are meant to be.
-/

import DataAccess.Compile.Fragment
import DataAccess.Proofs.Compile.AcceptedMethod
import DataAccess.Proofs.Compile.Rendered
import DataAccess.Proofs.Parse.AcceptsItem
import DataAccess.Proofs.Parse.EndingGrammar

namespace DataAccess

open DataAccess.Parser DataAccess.Parse

/-- A method can be read: its signature begins with the keyword and is read again where it is
declared, and what is bound are parameters. -/
structure CompiledMethod.IsReadable (method : CompiledMethod) : Prop where
  begins : ∃ position more, method.signature.tokens = Token.keyword "fn" position :: more
  signed : method.PrintsBack
  bindable : ∀ bound ∈ method.bindings, bound.parameter.IsBindable

/-- An implementation can be read: its names are no keywords, and its visibility and its methods can
be read. -/
structure ImplementationUnit.IsReadable (unit : ImplementationUnit) : Prop where
  name : unit.name.IsPlain
  interface : unit.interface.IsPlain
  visibility : Exposes unit.visibility.tokens
  methods : ∀ method ∈ unit.methods, method.IsReadable

/-- No reserved word ends like the name of an implementation. -/
theorem ImplementationUnit.isPlain_nameFor (interface : Name) : (nameFor interface).IsPlain := by
  have others : ∀ word ∈ Text.Identifier.reservedWords, ¬ "Impl".toList <:+ word.toList := by
    decide
  refine .of_not_mem fun listed => others _ listed ?_
  rw [nameFor, String.toList_append]
  exact List.suffix_append _ _

namespace Render

variable {depth : Nat} {rest : List Token}

/-! Methods. -/

/-- A method is its signature with a body in braces. -/
theorem tokens_method (compiled : CompiledMethod) :
    (method compiled).tokens = compiled.signature.tokens ++
      [.group .brace .callSite .callSite (body compiled).tokens] := by
  rw [method, Code.tokens_append]
  rfl

/-- The body of a method begins with no attribute. -/
theorem body_unmarked (compiled : CompiledMethod) :
    (Peek.mark "#" (body compiled).tokens && Peek.mark "!" ((body compiled).tokens.drop 1)) =
      false := by
  rw [body]
  cases compiled.failure <;> rfl

section Methods

variable {compiled : CompiledMethod} (readable : compiled.IsReadable)
  (deep : 8 * Token.count compiled.signature.tokens + 64 ≤ depth)

include readable deep

/-- A method begins with its keyword, and its signature is read up to its body as it is read up to
the semicolon of its declaration. -/
theorem exists_signature (rest : List Token) : ∃ position standing,
    (method compiled).tokens ++ rest = Token.keyword "fn" position :: standing ∧
      Accepts (signature (grammar depth)) (Token.keyword "fn" position :: standing)
        (.group .brace .callSite .callSite (body compiled).tokens :: rest) fun _ => True := by
  obtain ⟨position, more, begins⟩ := readable.begins
  have written : compiled.signature.tokens ++
      .group .brace .callSite .callSite (body compiled).tokens :: rest =
      Token.keyword "fn" position ::
        (more ++ .group .brace .callSite .callSite (body compiled).tokens :: rest) := by
    rw [begins]
    rfl
  refine ⟨position, more ++ .group .brace .callSite .callSite (body compiled).tokens :: rest, ?_,
    fun stream => ?_⟩
  · rw [tokens_method, List.append_assoc]
    exact written
  · let ending : Ending :=
      ⟨false, .callSite, .callSite, .callSite, (body compiled).tokens, rest⟩
    obtain ⟨read, declared, -⟩ := readable.signed depth deep
      { stream with tokens := compiled.signature.tokens ++ ending.declared } _ rfl rfl
    have implemented :=
      ReadsFront.agrees ending compiled.signature.tokens _ _ [] read rfl declared rfl
    rw [← written]
    exact ⟨read, implemented, trivial⟩

omit readable in
/-- The body of a method is read as statements. -/
theorem accepts_statements_body
    (bindable : ∀ bound ∈ compiled.bindings, bound.parameter.IsBindable) :
    Accepts (grammar depth).statements (body compiled).tokens [] fun _ => True := by
  obtain ⟨depth, rfl⟩ : ∃ previous, depth = previous + 21 := ⟨depth - 21, by omega⟩
  exact accepts_body bindable

/-- A method is read as an item of an implementation. -/
theorem accepts_method :
    Accepts (implementedItem (grammar depth)) ((method compiled).tokens ++ rest) rest
      fun _ => True := by
  obtain ⟨position, standing, begins, signed⟩ := exists_signature readable deep rest
  have whole := accepts_implementedItem .hidden signed (body_unmarked compiled)
    (accepts_statements_body deep readable.bindable)
  rw [begins]
  exact whole

/-- A method is also read alone. -/
theorem accepts_method_alone :
    Accepts (loneMethod (grammar depth)) (method compiled).tokens [] fun _ => True := by
  obtain ⟨position, standing, begins, signed⟩ := exists_signature readable deep []
  have whole := accepts_loneMethod .hidden signed (body_unmarked compiled)
    (accepts_statements_body deep readable.bindable)
  rw [List.append_nil] at begins
  rw [begins]
  exact whole

end Methods

/-! The items of an implementation. -/

/-- An item of a kind is read from the code in front of whatever follows it. -/
def ReadsItem (depth : Nat) (kind : ItemKind) (code : Code) : Prop :=
  ∀ rest, Accepts (item (grammar depth)) (code.tokens ++ rest) rest fun read =>
    ∃ item, read = .plain item ∧ item.kind = kind

/-- An implementation is read from the code, of which no token is kept without being looked at. -/
structure ReadsImplementation (depth : Nat) (code : Code) : Prop where
  begins : ∃ more, code.tokens = Token.keyword "impl" .callSite :: more
  reads : ∀ rest, Accepts (Parse.implementation (grammar depth)) (code.tokens ++ rest) rest
    (ItemBody.IsOf .implementation)

namespace ReadsImplementation

variable {code : Code}

/-- An implementation is read if its subject is and its items are. -/
theorem of_subject {subject inner : List Token}
    (written : code.tokens = Token.keyword "impl" .callSite ::
      (subject ++ [.group .brace .callSite .callSite inner]))
    (starts : ∀ rest, StartsSubject (subject ++ rest))
    (subjects : ∀ rest, Subjects (grammar depth) (.group .brace .callSite .callSite inner :: rest)
      (subject ++ .group .brace .callSite .callSite inner :: rest))
    (unmarked : (Peek.mark "#" inner && Peek.mark "!" (inner.drop 1)) = false)
    (items : Accepts (untilEmpty (implementedItem (grammar depth))) inner [] fun _ => True) :
    ReadsImplementation depth code := by
  refine ⟨⟨_, written⟩, fun rest => ?_⟩
  rw [written, List.cons_append, List.append_assoc]
  exact accepts_implementation (starts _) (subjects rest) unmarked items

/-- An implementation is read as an item of a module. -/
theorem readsItem (implements : ReadsImplementation depth code) :
    ReadsItem depth .implementation code := by
  intro rest
  obtain ⟨more, begins⟩ := implements.begins
  have reads := implements.reads rest
  rw [begins, List.cons_append] at reads ⊢
  exact accepts_item (accepts_outerAttributes rfl).any (accepts_itemBody_implementation reads)

/-- An implementation is read alone. -/
theorem lone (implements : ReadsImplementation depth code) :
    Accepts (loneImplementation (grammar depth)) code.tokens [] fun _ => True := by
  obtain ⟨more, begins⟩ := implements.begins
  have reads := implements.reads []
  rw [List.append_nil] at reads
  rw [begins] at reads ⊢
  exact accepts_loneImplementation reads

end ReadsImplementation

/-- The tokens of a documentation attribute. -/
def documentationTokens (literal : String) : List Token :=
  [.mark '#' false .callSite, .group .bracket .callSite .callSite
    [Token.keyword "doc" .callSite, .mark '=' false .callSite, .literal literal .callSite]]

/-- Documentation of a template is an attribute with a literal. -/
theorem tokens_documentation_spelled (literal : String) :
    Code.tokens (Template.documentation (Template.spelled literal)) =
      documentationTokens literal := by
  rw [Template.tokens_documentation]
  rfl

/-- The braces of the struct that holds the handle. -/
def holderFields : Token :=
  .group .brace .callSite .callSite (Token.keyword "handle" .callSite ::
    .mark ':' false .callSite :: (handlePath.tokens ++ [.mark ',' false .callSite]))

/-- What is said of the struct that holds the handle. -/
def holderDocumentation (unit : ImplementationUnit) : String :=
  Text.Quoted.literal s!"Generated implementation of [`{unit.interface.text}`]."

/-- The struct of an implementation is documented and has the visibility of its trait. -/
theorem tokens_holder (unit : ImplementationUnit) : (holder unit).tokens =
    documentationTokens (holderDocumentation unit) ++ (unit.visibility.tokens ++
      [Token.keyword "struct" .callSite, .word unit.name, holderFields]) := by
  simp only [holder, Code.tokens_append, Template.text, tokens_documentation_spelled,
    List.append_assoc]
  rfl

/-- The struct of an implementation is read as an item. -/
theorem readsItem_holder {unit : ImplementationUnit} (readable : unit.IsReadable) :
    ReadsItem (depth + 8) .record (holder unit) := by
  intro rest
  have fields : Accepts (structFields (grammar (depth + 8))) (holderFields :: rest) rest
      fun _ => True := by
    rintro ⟨_, _, _, leftover⟩
    cases leftover <;> exact ⟨_, rfl, trivial⟩
  have body := accepts_record readable.visibility readable.name rfl fields
  rw [tokens_holder, List.append_assoc, List.append_assoc]
  exact accepts_item (accepts_documentation (readable.visibility.unmarked rfl)) body

/-- The head of the function that constructs an implementation. -/
def constructionSignature : List Token :=
  [Token.keyword "fn" .callSite, Token.keyword "new" .callSite,
    .group .parenthesis .callSite .callSite (Token.keyword "handle" .callSite ::
      .mark ':' false .callSite :: handlePath.tokens)] ++
    Token.operator "->" .callSite ++ [Token.keyword "Self" .callSite]

/-- The body of the function that constructs an implementation. -/
def constructionBody : List Token :=
  [Token.keyword "Self" .callSite,
    .group .brace .callSite .callSite [Token.keyword "handle" .callSite]]

/-- The constructor behind its visibility. -/
def constructor (unit : ImplementationUnit) : List Token :=
  unit.visibility.tokens ++ (constructionSignature ++
    [.group .brace .callSite .callSite constructionBody])

/-- The construction of an implementation is an implementation of its struct. -/
theorem tokens_construction (unit : ImplementationUnit) : (construction unit).tokens =
    Token.keyword "impl" .callSite :: ([.word unit.name] ++
      [.group .brace .callSite .callSite (constructor unit)]) := by
  simp only [construction, Code.tokens_append, Template.tokens_braces, List.append_assoc]
  rfl

/-- The function that constructs an implementation is read as one of its items. -/
theorem accepts_constructor {unit : ImplementationUnit} (readable : unit.IsReadable) :
    Accepts (implementedItem (grammar (depth + 12))) (constructor unit ++ rest) rest
      fun _ => True := by
  have signed : Accepts (signature (grammar (depth + 12)))
      (constructionSignature ++ .group .brace .callSite .callSite constructionBody :: rest)
      (.group .brace .callSite .callSite constructionBody :: rest) fun _ => True := by
    rintro ⟨_, _, _, leftover⟩
    cases leftover <;> exact ⟨_, rfl, trivial⟩
  have within : Accepts (grammar (depth + 12)).statements constructionBody [] fun _ => True := by
    rintro ⟨_, _, _, leftover⟩
    cases leftover <;> exact ⟨_, rfl, trivial⟩
  rw [constructor, List.append_assoc, List.append_assoc]
  have whole := accepts_implementedItem readable.visibility signed rfl within
  exact whole

/-- The construction of an implementation is read. -/
theorem readsImplementation_construction {unit : ImplementationUnit}
    (readable : unit.IsReadable) :
    ReadsImplementation (depth + 12) (construction unit) := by
  have unmarked : (Peek.mark "#" (constructor unit) &&
      Peek.mark "!" ((constructor unit).drop 1)) = false := by
    rw [constructor, readable.visibility.unmarked rfl]
    rfl
  have items : Accepts (untilEmpty (implementedItem (grammar (depth + 12))))
      [constructor unit].flatten [] fun _ => True :=
    accepts_implementedItems (List.forall_mem_singleton.mpr fun _ => accepts_constructor readable)
      (List.forall_mem_singleton.mpr (List.append_ne_nil_of_right_ne_nil _ (List.cons_ne_nil _ _)))
  rw [List.flatten_singleton] at items
  exact .of_subject (tokens_construction unit) (fun _ => startsSubject_name readable.name)
    (fun _ => subjects_name readable.name) unmarked items

/-- A trait of the library is implemented for a name. -/
theorem subjects_provided {interface : String} {name : Name} {opening closing : Position}
    {inner : List Token} (known : Name.IsPlain ⟨interface, .callSite⟩) (plain : name.IsPlain) :
    Subjects (grammar (depth + 1)) (.group .brace opening closing inner :: rest)
      (Token.pathTo ["dbx"] (Token.keyword interface .callSite :: Token.keyword "for" .callSite ::
        .word name :: .group .brace opening closing inner :: rest)) :=
  subjects_interface plain
    (accepts_absoluteType (by decide) (accepts_segment known rfl) (.word _ _))

/-- The method that answers the handle. -/
def handleMethod : List Token :=
  [Token.keyword "fn" .callSite, Token.keyword "handle" .callSite,
    .group .parenthesis .callSite .callSite
      [.mark '&' false .callSite, Token.keyword "self" .callSite]] ++
    Token.operator "->" .callSite ++ .mark '&' false .callSite :: (handlePath.tokens ++
      [.group .brace .callSite .callSite [.mark '&' false .callSite,
        Token.keyword "self" .callSite, .mark '.' false .callSite,
        Token.keyword "handle" .callSite]])

/-- The access to the handle implements the trait of the library. -/
theorem tokens_accessImplementation (unit : ImplementationUnit) :
    (accessImplementation unit).tokens = Token.keyword "impl" .callSite ::
      (Token.pathTo ["dbx"] [Token.keyword "Dao" .callSite, Token.keyword "for" .callSite,
        .word unit.name] ++ [.group .brace .callSite .callSite handleMethod]) := rfl

/-- The function that gives the handle is read as an item of an implementation. -/
theorem accepts_handleMethod :
    Accepts (implementedItem (grammar (depth + 12))) (handleMethod ++ rest) rest
      fun _ => True := by
  rintro ⟨_, _, _, leftover⟩
  cases leftover <;> exact ⟨_, rfl, trivial⟩

/-- The access to the handle is read. -/
theorem readsImplementation_access {unit : ImplementationUnit} (readable : unit.IsReadable) :
    ReadsImplementation (depth + 12) (accessImplementation unit) := by
  have items : Accepts (untilEmpty (implementedItem (grammar (depth + 12))))
      [handleMethod].flatten [] fun _ => True :=
    accepts_implementedItems (List.forall_mem_singleton.mpr fun _ => accepts_handleMethod)
      (List.forall_mem_singleton.mpr (List.cons_ne_nil _ _))
  rw [List.flatten_singleton] at items
  have dao : Name.IsPlain ⟨"Dao", .callSite⟩ := rfl
  exact .of_subject (tokens_accessImplementation unit) (fun _ => ⟨rfl, rfl, rfl⟩)
    (fun _ => subjects_provided dao readable.name) rfl items

/-- The implementation of an interface holds its methods. -/
theorem tokens_interfaceImplementation (unit : ImplementationUnit) :
    (interfaceImplementation unit).tokens = Token.keyword "impl" .callSite ::
      ([.word unit.interface, Token.keyword "for" .callSite, .word unit.name] ++
        [.group .brace .callSite .callSite
          (unit.methods.map fun compiled => (method compiled).tokens).flatten]) := by
  simp only [interfaceImplementation, Code.tokens_append, Template.tokens_braces,
    Code.tokens_flatMap, List.append_assoc]
  rfl

/-- A method begins with no attribute. -/
theorem method_unmarked {compiled : CompiledMethod} (readable : compiled.IsReadable) :
    Peek.mark "#" ((method compiled).tokens ++ rest) = false := by
  obtain ⟨position, more, begins⟩ := readable.begins
  rw [tokens_method, begins]
  rfl

/-- The methods of an interface are read one after the other. -/
theorem readsImplementation_interface {unit : ImplementationUnit} (readable : unit.IsReadable)
    (deep : ∀ compiled ∈ unit.methods,
      8 * Token.count compiled.signature.tokens + 64 ≤ depth + 1) :
    ReadsImplementation (depth + 1) (interfaceImplementation unit) := by
  have items : Accepts (untilEmpty (implementedItem (grammar (depth + 1))))
      (unit.methods.map fun compiled => (method compiled).tokens).flatten [] fun _ => True := by
    refine accepts_implementedItems (List.forall_mem_map.mpr fun compiled listed rest => ?_)
      (List.forall_mem_map.mpr fun compiled _ => ?_)
    · exact accepts_method (readable.methods compiled listed) (deep compiled listed)
    · rw [tokens_method]
      exact List.append_ne_nil_of_right_ne_nil _ (List.cons_ne_nil _ _)
  have unmarked : Peek.mark "#"
      (unit.methods.map fun compiled => (method compiled).tokens).flatten = false := by
    cases methods : unit.methods with
    | nil => rfl
    | cons compiled others =>
      exact method_unmarked (readable.methods compiled (methods ▸ List.mem_cons_self))
  exact .of_subject (tokens_interfaceImplementation unit)
    (fun _ => startsSubject_name readable.interface)
    (fun _ => subjects_interface readable.name (accepts_plainType readable.interface (.word _ _)))
    (by rw [unmarked, Bool.false_and]) items

end Render

end DataAccess
