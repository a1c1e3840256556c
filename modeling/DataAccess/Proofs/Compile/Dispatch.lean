/-
This file proves which registered interfaces can be used as objects.
-/

import DataAccess.Compile.Dispatch
import DataAccess.Proofs.Compile.Coverage
import DataAccess.Proofs.Mapping.Support

namespace DataAccess

namespace Token

/-- Joined tokens mention a word where one of both does. -/
@[simp]
theorem anyMentions_append (word : String) (first second : List Token) :
    anyMentions word (first ++ second) = (anyMentions word first || anyMentions word second) := by
  induction first with
  | nil => rfl
  | cons token rest hypothesis =>
    rw [List.cons_append, anyMentions, anyMentions, hypothesis, Bool.or_assoc]

/-- Operators hold no words. -/
@[simp]
theorem anyMentions_operator (word spelling : String) (position : Position) :
    anyMentions word (operator spelling position) = false := by
  rw [operator]
  induction spelling.toList with
  | nil => rfl
  | cons character rest hypothesis =>
    cases rest with
    | nil => rfl
    | cons next others => exact hypothesis

end Token

open Token

/-- A mark mentions no word. -/
@[simp]
theorem anyMentions_mark (word spelling : String) (position : Position) :
    anyMentions word (Code.mark spelling position).tokens = false := by
  rw [Code.mark, Code.tokens_ofTokens, anyMentions_operator]

/-- The separators of a list hold no words. -/
theorem anyMentions_separated (word mark : String) (entries : List (Separated Code)) :
    anyMentions word (Separated.code mark entries).tokens =
      entries.any fun separated => anyMentions word separated.entry.tokens := by
  induction entries with
  | nil => rfl
  | cons first rest hypothesis =>
    cases rest with
    | nil =>
      rw [Separated.code]
      cases first.separator <;> simp
    | cons second others => simp [Separated.code, hypothesis]

/-- The brackets around arguments hold no words. -/
theorem anyMentions_angledCode (word : String) (style : PathStyle) (colons : Option Position)
    (opening closing : Position) (entries : List (Separated Code)) :
    anyMentions word (angledCode style colons opening closing entries).tokens =
      entries.any fun separated => anyMentions word separated.entry.tokens := by
  unfold angledCode
  cases colons <;> cases style <;> dsimp only <;> split <;> simp_all [anyMentions_separated]

section

variable {word : String}

mutual

/-- A word stands in a declared type among the names of its form, or where nothing is read. -/
theorem anyMentions_declared (other : word ≠ "mut") : ∀ declared : DeclaredType,
    anyMentions word declared.code.tokens = true ↔
      word ∈ declared.form.names ∨ anyMentions word declared.unread = true
  | .unit _ _ => by
      simp [DeclaredType.code, DeclaredType.form, DeclaredType.unread, TypeForm.names,
        Piece.tokens, anyMentions, mentions]
  | .parenthesized _ _ inner => by
      have within := anyMentions_declared other inner
      simpa [DeclaredType.code, DeclaredType.form, DeclaredType.unread, Piece.tokens, anyMentions,
        mentions] using within
  | .grouped _ _ inner => by
      have within := anyMentions_declared other inner
      simpa [DeclaredType.code, DeclaredType.form, DeclaredType.unread, Piece.tokens, anyMentions,
        mentions] using within
  | .reference _ named mutability referent => by
      have within := anyMentions_declared other referent
      have mutable : anyMentions word (Code.keyword? "mut" mutability).tokens = false := by
        cases mutability <;>
          simp [Code.keyword?, Code.keyword, Token.keyword, Piece.tokens, anyMentions, mentions,
            other.symm]
      simp only [DeclaredType.code, DeclaredType.form, DeclaredType.unread, TypeForm.names,
        Code.tokens_append, anyMentions_append, anyMentions_mark, mutable, within, Bool.or_eq_true,
        Bool.false_eq_true, false_or, or_false]
      cases named with
      | none => simp [anyMentions]
      | some name => simp [Code.lifetime, Piece.tokens, anyMentions, or_left_comm]
  | .path qualifier last arguments => by
      have within := anyMentions_arguments other arguments last
      rw [DeclaredType.code, List.append_assoc, Code.tokens_append, anyMentions_append,
        Bool.or_eq_true, within, DeclaredType.form, DeclaredType.unread, anyMentions_append,
        Bool.or_eq_true, or_left_comm]
  | .other code => by
      simp [DeclaredType.code, DeclaredType.form, DeclaredType.unread, TypeForm.names]

/-- The code of arguments mentions a word where their form names it, or where it stands in what the
form does not read. -/
theorem anyMentions_arguments (other : word ≠ "mut") :
    ∀ (arguments : Arguments) (last : Name),
      anyMentions word (Code.word last ++ arguments.code .type).tokens = true ↔
        word ∈ (arguments.form last.text).names ∨ anyMentions word (arguments.unread last) = true
  | .none, last => by
      have same : last.text = word ↔ word = last.text := eq_comm
      simpa [Code.word, Arguments.code, Arguments.form, Arguments.unread, TypeForm.names,
        Piece.tokens, anyMentions, mentions] using same
  | .angled _ _ list _, last => by
      have within := any_entries other list
      have same : last.text = word ↔ word = last.text := eq_comm
      simp only [Code.word, Arguments.code, Arguments.form, Arguments.unread, TypeForm.names,
        Code.tokens_append, anyMentions_append, anyMentions_angledCode, within, Code.tokens_cons,
        Code.tokens_nil, Piece.tokens, List.append_nil, anyMentions, mentions, Bool.or_false,
        Bool.or_eq_true, beq_iff_eq, same, List.mem_cons, or_assoc]
  | .called code, last => by
      simp [Code.word, Arguments.code, Arguments.form, Arguments.unread, TypeForm.names,
        Piece.tokens, anyMentions, mentions]

/-- The entries of arguments mention a word where their forms name it, or where it stands in what
these do not read. -/
theorem any_entries (other : word ≠ "mut") : ∀ list : List Argument,
    ((lifetimeEntries list ++ otherEntries list).any
        fun separated => anyMentions word separated.entry.tokens) = true ↔
      word ∈ TypeForm.argumentNames (argumentForms list) ∨
        anyMentions word (unreadArguments list) = true
  | [] => by
      simp [lifetimeEntries, otherEntries, argumentForms, TypeForm.argumentNames,
        unreadArguments, anyMentions]
  | .type declared _ :: rest => by
      have here := anyMentions_declared other declared
      have behind := any_entries other rest
      rw [List.any_append, Bool.or_eq_true] at behind ⊢
      simp only [lifetimeEntries, otherEntries, argumentForms, TypeForm.argumentNames,
        unreadArguments, anyMentions_append, List.any_cons, Bool.or_eq_true, List.mem_append, here]
      grind
  | .lifetime name _ :: rest => by
      have behind := any_entries other rest
      rw [List.any_append, Bool.or_eq_true] at behind ⊢
      simp only [lifetimeEntries, otherEntries, argumentForms, unreadArguments, anyMentions,
        List.any_cons, Bool.or_eq_true, Code.lifetime, Code.tokens_cons, Code.tokens_nil,
        Piece.tokens, List.append_nil, Bool.or_false, or_assoc, behind]
      grind
  | .other code _ :: rest => by
      have behind := any_entries other rest
      rw [List.any_append, Bool.or_eq_true] at behind ⊢
      simp only [lifetimeEntries, otherEntries, argumentForms, unreadArguments, anyMentions_append,
        List.any_cons, Bool.or_eq_true]
      grind

end

end

/-- The words for an implementation are two. -/
theorem Interface.eq_of_mem_implementerWords {word : String}
    (implementer : word ∈ Interface.implementerWords) : word = "Self" ∨ word = "impl" := by
  simpa [Interface.implementerWords] using implementer

namespace TypeForm

open Interface (implementerWords eq_of_mem_implementerWords)

variable {form : TypeForm} {word : String}

/-- Supported types have names of their own. -/
theorem not_mem_names_of_supported {supported : SupportedType}
    (listed : supported ∈ supportedTypes) (implementer : word ∈ implementerWords) :
    word ∉ supported.form.names := by
  revert supported
  rcases eq_of_mem_implementerWords implementer with rfl | rfl <;>
    simp [supportedTypes, blob, names, argumentNames]

/-- A bound type does not name the implementer. -/
theorem not_mem_names_of_binds {value : ValueType} {tag : WireTag} (bound : form.Binds value tag)
    (implementer : word ∈ implementerWords) : word ∉ form.names := by
  obtain ⟨supported, listed, rfl, _⟩ := bound
  exact not_mem_names_of_supported listed implementer

/-- An extracted type does not name the implementer. -/
theorem not_mem_names_of_extracts {value : ValueType} (extracted : form.Extracts value)
    (implementer : word ∈ implementerWords) : word ∉ form.names := by
  obtain ⟨supported, listed, rfl, _⟩ := extracted
  exact not_mem_names_of_supported listed implementer

/-- A container adds its own name to those of its element. -/
theorem not_mem_names_of_container {element : TypeForm} {kind : ContainerKind}
    (container : IsContainer form kind element) (absent : word ∉ element.names)
    (implementer : word ∈ implementerWords) : word ∉ form.names := by
  cases container <;> rcases eq_of_mem_implementerWords implementer with rfl | rfl <;>
    simpa [names, argumentNames] using absent

/-- A returned type does not name the implementer. -/
theorem not_mem_names_of_returns {shape : ReturnShape} (returned : Returns form shape)
    (implementer : word ∈ implementerWords) : word ∉ form.names := by
  cases returned with
  | void => simp [names]
  | cursor =>
    rcases eq_of_mem_implementerWords implementer with rfl | rfl <;> simp [cursor, names]
  | scalar extracted => exact not_mem_names_of_extracts extracted implementer
  | list container extracted =>
    exact not_mem_names_of_container container
      (not_mem_names_of_extracts extracted implementer) implementer
  | set container extracted _ =>
    exact not_mem_names_of_container container
      (not_mem_names_of_extracts extracted implementer) implementer

/-- Of what a method returns, only the error type can have any name. -/
theorem exists_error_of_returnsWith {returned : ReturnDescriptor}
    (described : ReturnsWith form returned) (implementer : word ∈ implementerWords)
    (named : word ∈ form.names) : ∃ error, form.FailsWith error ∧ word ∈ error.names := by
  cases described with
  | unchecked _ returned => exact absurd named (not_mem_names_of_returns returned implementer)
  | propagate answers _ returned =>
    have absent := not_mem_names_of_returns returned implementer
    have other : word ≠ "Result" := by
      rintro rfl
      simp [implementerWords] at implementer
    cases answers with
    | alone => simp [names, argumentNames, other, absent] at named
    | orError _ error =>
      refine ⟨error, .error _ error, ?_⟩
      simpa [names, argumentNames, other, absent] using named

end TypeForm

namespace Interface

/-- Of the names in a type, only those of an error type can be any. -/
def NamesOnlyErrors (declared : DeclaredType) : Prop :=
  ∀ word ∈ implementerWords, word ∈ declared.form.names →
    ∃ error, declared.form.FailsWith error ∧ word ∈ error.names

/-- A type of which only errors are unread mentions the implementer where the resolver overlooks
it. -/
theorem anyMentions_tokens_iff {declared : DeclaredType} {word : String}
    (resolved : NamesOnlyErrors declared) (implementer : word ∈ implementerWords) :
    anyMentions word declared.tokens = true ↔ declared.Overlooks word := by
  have other : word ≠ "mut" := by
    rintro rfl
    simp [implementerWords] at implementer
  rw [DeclaredType.tokens, anyMentions_declared other, DeclaredType.Overlooks]
  constructor
  · rintro (named | unread)
    · exact .inr (resolved word implementer named)
    · exact .inl unread
  · rintro (unread | ⟨error, fails, named⟩)
    · exact .inr unread
    · refine .inl ?_
      generalize declared.form = form at fails ⊢
      cases fails
      simp [TypeForm.names, TypeForm.argumentNames, named]

/-- A signature whose types were resolved depends on the implementation only where resolution did
not look. -/
theorem isClosed_iff_isReadThrough {signature : Signature}
    (resolved : ∀ declared ∈ namedTypes signature, NamesOnlyErrors declared) :
    IsClosed signature ↔ IsReadThrough signature := by
  apply forall₂_congr
  intro declared named
  apply forall₂_congr
  intro word implementer
  rw [← anyMentions_tokens_iff (resolved declared named) implementer, Bool.not_eq_true]

/-- A provided method that is not refused can be called on an object. -/
theorem dispatchable_of_dispatchObstacle? {signature : Signature}
    (unbounded : requiresSized signature = false) (clear : dispatchObstacle? signature = none) :
    Dispatchable signature ∧ IsClosed signature := by
  rw [dispatchObstacle?, unbounded, if_neg Bool.false_ne_true] at clear
  split at clear
  next => contradiction
  next generic =>
    split at clear
    next => contradiction
    next received =>
      split at clear
      next => contradiction
      next synchronous =>
        refine ⟨⟨?_, by simpa using received, synchronous⟩, ?_⟩
        · simpa using generic
        · intro declared named word implementer
          have free := List.findSome?_eq_none_iff.mp clear declared named
          rw [typeObstacle?] at free
          split at free
          next => contradiction
          next opaqueFree =>
            split at free
            next => contradiction
            next selfFree =>
              rcases eq_of_mem_implementerWords implementer with rfl | rfl
              · exact Bool.not_eq_true _ ▸ selfFree
              · exact Bool.not_eq_true _ ▸ opaqueFree

/-- A signature without problems has no generic parameters and is not asynchronous. -/
theorem plain_of_signatureErrors {signature : Signature}
    (clear : signatureErrors signature = []) :
    signature.asyncness = none ∧ signature.generics.parameters = [] := by
  simp only [signatureErrors, List.append_eq_nil_iff, Option.toList_eq_nil_iff,
    Option.map_eq_none_iff] at clear
  obtain ⟨⟨⟨⟨⟨_, synchronous⟩, _⟩, _⟩, generic⟩, _⟩ := clear
  split at generic
  next => exact nomatch generic
  next absent =>
    rw [Generics.isPresent, Bool.or_eq_true, not_or] at absent
    exact ⟨synchronous, by simpa using absent.1⟩

/-- Without a problem the first input is a receiver by reference. -/
theorem exists_receiver_of_receiverErrors {signature : Signature}
    (clear : receiverErrors signature = []) :
    ∃ first, signature.arguments = first :: signature.arguments.tail ∧ isReceiver first = true := by
  rw [receiverErrors] at clear
  split at clear
  next => exact nomatch clear
  next first rest listed =>
    refine ⟨first, by rw [listed, List.tail_cons], ?_⟩
    cases first with
    | receiver => rfl
    | typed => exact nomatch clear

/-- A method with a query can be called on an object, as far as its signature goes. -/
theorem dispatchable_of_describeQuery {method : Method} {mark : Attribute}
    {descriptor : MethodDescriptor}
    (described : describeQuery method mark [] = .ok descriptor) :
    Dispatchable method.signature := by
  obtain ⟨early, _, parametric, _⟩ := describeQuery_eq_ok described
  obtain ⟨synchronous, ungeneric⟩ :=
    plain_of_signatureErrors (List.append_eq_nil_iff.mp early).1
  obtain ⟨first, listed, received⟩ :=
    exists_receiver_of_receiverErrors (parameters_eq_ok parametric).1
  refine ⟨?_, ?_, synchronous⟩
  · simp [ungeneric, Separated.entries]
  · rw [listed]
    exact received

/-- The types of a method with a query were resolved, those of its parameters and what it
returns. -/
theorem namesOnlyErrors_of_describeQuery {method : Method} {mark : Attribute}
    {descriptor : MethodDescriptor} {compiled : CompiledMethod}
    (described : describeQuery method mark [] = .ok descriptor)
    (accepted : CompiledMethod.ofDescriptor descriptor = .ok compiled) :
    ∀ declared ∈ namedTypes method.signature, NamesOnlyErrors declared := by
  obtain ⟨_, _, parametric, signature⟩ := describeQuery_eq_ok described
  obtain ⟨receiver, inputs⟩ := parameters_eq_ok parametric
  obtain ⟨first, listed, received⟩ := exists_receiver_of_receiverErrors receiver
  intro declared named
  rcases List.mem_append.mp named with parameter | output
  · obtain ⟨input, member, typed⟩ := List.mem_filterMap.mp parameter
    rw [listed, List.mem_cons] at member
    rcases member with rfl | member
    · cases input with
      | receiver => exact nomatch typed
      | typed => exact nomatch received
    · have among : describeInput method.signature.name input ∈
          descriptor.parameters.map Except.ok := by
        rw [← inputs]
        exact List.mem_map.mpr ⟨input, member, rfl⟩
      obtain ⟨found, _, resolved⟩ := List.mem_map.mp among
      obtain ⟨_, _, _, written, type, rfl, bound⟩ := describeInput_eq_ok resolved.symm
      obtain rfl : written = declared := Option.some.inj typed
      intro word implementer present
      exact absurd present (TypeForm.not_mem_names_of_binds
        (Mapping.resolveParameter_eq_ok_iff.mp bound) implementer)
  · obtain ⟨returned, resolved, _⟩ := CompiledMethod.ofDescriptor_eq_ok accepted
    rw [signature, Option.mem_toList.mp output] at resolved
    intro word implementer present
    exact TypeForm.exists_error_of_returnsWith
      (Mapping.resolveReturn_eq_ok_iff.mp resolved) implementer present

end Interface

namespace CompiledBatch

open Interface

/-- The methods of a trait that compiled can be called on an object, unless their types depend on
the implementation where resolution does not look. -/
theorem dispatchable_of_compileInterface {declaration : TraitDeclaration}
    {unit : ImplementationUnit} {method : Method}
    (compiled : compileInterface declaration = .ok unit)
    (declared : TraitItem.method method ∈ declaration.items)
    (unbounded : requiresSized method.signature = false) :
    Dispatchable method.signature ∧
      (IsClosed method.signature ↔
        method.body.isSome = true ∨ IsReadThrough method.signature) := by
  obtain ⟨interface, described, implemented⟩ := exists_described compiled
  -- Provided methods were checked for dispatch, and methods with a query for what they can do.
  cases found : describeItem declaration.name (.method method) with
  | none =>
    obtain ⟨_, body, same, _, bodied, clear⟩ := describeItem_eq_none found
    obtain rfl := TraitItem.method.inj same
    obtain ⟨dispatchable, closed⟩ := dispatchable_of_dispatchObstacle? unbounded clear
    exact ⟨dispatchable, iff_of_true closed (.inl (by simp [bodied]))⟩
  | some result =>
    obtain ⟨descriptor, listed, rfl⟩ := exists_descriptor_of_describeItem described declared found
    obtain ⟨_, mark, same, _, bodiless, _, query⟩ := describeItem_eq_ok found
    obtain rfl := TraitItem.method.inj same
    obtain ⟨kept, accepted⟩ := exists_compiled_of_mem implemented listed
    rw [isClosed_iff_isReadThrough (namesOnlyErrors_of_describeQuery query accepted), bodiless]
    exact ⟨dispatchable_of_describeQuery query, by simp⟩

/-- The name of an implemented trait is among those that compiled. -/
theorem mem_compiledNames {batch : Batch} {item : Item} {declaration : TraitDeclaration}
    (member : item ∈ batch.items) (marked : item.interface? = some declaration)
    (implemented : item.emitted.tokens ≠ item.kept.tokens) :
    declaration.name ∈ batch.compiledNames := by
  obtain ⟨silent, _⟩ | ⟨reported, _⟩ := compileItem_interface marked
  · refine List.mem_filterMap.mpr ⟨item, member, ?_⟩
    rw [Item.compiled?, marked, silent]
  · exact absurd (emitted_eq_kept (.inr reported)) implemented

/-- A registry looks an implemented trait up as an object. Each of its methods that is not kept off
the object has no generic types, a receiver and is not asynchronous. Its types do not depend on the
implementation either, but for methods with a query only as far as resolution has read them. -/
theorem registered_interface_dispatches {write : String → Option FileFailure} {batch : Batch}
    {compiled : CompiledBatch} {item : Item} {declaration : TraitDeclaration} {method : Method}
    (answered : compile write batch = .ok compiled) (member : item ∈ batch.items)
    (marked : item.interface? = some declaration)
    (implemented : item.emitted.tokens ≠ item.kept.tokens)
    (declared : TraitItem.method method ∈ declaration.items)
    (unbounded : requiresSized method.signature = false) :
    (∃ listed generated, Agrees write batch compiled listed generated ∧
        declaration.name ∈ generated.lookups.map GeneratedLookup.asked) ∧
      Dispatchable method.signature ∧
      (IsClosed method.signature ↔
        method.body.isSome = true ∨ IsReadThrough method.signature) := by
  constructor
  · have agrees := agrees_ofBatch write batch
    rw [compile_eq_ok answered]
    refine ⟨_, _, agrees, ?_⟩
    rw [agrees.asked]
    exact mem_compiledNames member marked implemented
  · obtain ⟨unit, accepted, _⟩ := compileInterface_of_emitted marked implemented
    exact dispatchable_of_compileInterface accepted declared unbounded

namespace Sample

/-- `Result<i64, Self>` -/
def leakingType : DeclaredType :=
  .path [] (name "Result") (.angled none .callSite
    [.type (.path [] (name "i64") .none) (some .callSite),
      .type (.path [] (name "Self") .none) none] .callSite)

/-- A method with a query whose error type is the implementing type. -/
def leaking : Method :=
  ⟨[Meaning.Sample.mark], { Meaning.Sample.signature with output := some ⟨.callSite, leakingType⟩ },
    none, .callSite⟩

end Sample

section

open Sample

/-- A trait is registered although the error type of its method is the implementing type. -/
theorem registered_interface_dispatches_of_sample :
    ∃ compiled listed generated,
      compile (fun _ => none) ⟨name "db", ⟨false, none⟩, [interface "Numbers" [.method leaking]]⟩ =
        .ok compiled ∧
      Agrees (fun _ => none) ⟨name "db", ⟨false, none⟩, [interface "Numbers" [.method leaking]]⟩
        compiled listed generated ∧
      name "Numbers" ∈ generated.lookups.map GeneratedLookup.asked ∧
      Dispatchable leaking.signature ∧ ¬ IsClosed leaking.signature := by
  have answered : compile (fun _ => none)
      ⟨name "db", ⟨false, none⟩, [interface "Numbers" [.method leaking]]⟩ = .ok _ := rfl
  have marked : (interface "Numbers" [.method leaking]).interface? = some _ := rfl
  have implemented : (interface "Numbers" [.method leaking]).emitted.tokens ≠
      (interface "Numbers" [.method leaking]).kept.tokens := by
    intro same
    exact absurd (congrArg List.length same) (by decide)
  obtain ⟨⟨listed, generated, agrees, asked⟩, dispatchable, closed⟩ :=
    registered_interface_dispatches answered (List.mem_singleton.mpr rfl) marked implemented
      (List.mem_singleton.mpr rfl) rfl
  refine ⟨_, listed, generated, answered, agrees, asked, dispatchable, ?_⟩
  rw [closed]
  rintro (bodied | through)
  · exact nomatch bodied
  · have error : leakingType.form.FailsWith (.bare "Self") := .error _ _
    have output : leakingType ∈ namedTypes leaking.signature := by
      simp [namedTypes, leaking]
    exact through leakingType output "Self" (by simp [implementerWords])
      (.inr ⟨_, error, by simp [TypeForm.names]⟩)

end

end CompiledBatch

end DataAccess
