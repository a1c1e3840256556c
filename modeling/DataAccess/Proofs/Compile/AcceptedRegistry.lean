/-
This file proves that the items of a generated registry are read as what they are meant to be.
-/

import DataAccess.Proofs.Compile.AcceptedItem

namespace DataAccess

open DataAccess.Parser DataAccess.Parse

/-- A registry can be read: its name and the names in it are no keywords. -/
structure Registry.IsReadable (registry : Registry) : Prop where
  name : Name.IsPlain ⟨registry.name, .callSite⟩
  entries : ∀ entry ∈ registry.entries, entry.interface.IsPlain ∧ entry.implementation.IsPlain

/-- No reserved word begins like the name of a registry. -/
theorem Registry.isPlain_nameFor (batch : Name) (entries : List RegistryEntry) :
    Name.IsPlain ⟨nameFor batch entries, .callSite⟩ := by
  have others : ∀ word ∈ Text.Identifier.reservedWords, ¬ "DaoRegistry".toList <+: word.toList := by
    decide
  refine .of_not_mem fun listed => others _ listed ?_
  rw [nameFor, String.toList_append]
  exact List.prefix_append _ _

/-- The registry of readable implementations can be read. -/
theorem Registry.isReadable_ofUnits (batch : Name) {units : List ImplementationUnit}
    (readable : ∀ unit ∈ units, unit.IsReadable) : (ofUnits batch units).IsReadable :=
  ⟨isPlain_nameFor _ _, List.forall_mem_map.mpr fun unit listed =>
    ⟨(readable unit listed).interface, (readable unit listed).name⟩⟩

namespace Render

variable {depth : Nat} {rest : List Token}

/-! Methods that answer texts. -/

/-- The inputs and the output of a method that answers a text. -/
def textSignature (name : String) : List Token :=
  [Token.keyword "fn" .callSite, Token.keyword name .callSite,
    .group .parenthesis .callSite .callSite
      [.mark '&' false .callSite, Token.keyword "self" .callSite]] ++
    Token.operator "->" .callSite ++ staticText.tokens

/-- A method that answers a text is a signature with a literal in braces. -/
theorem tokens_textMethod (name value : String) : (textMethod name value).tokens =
    textSignature name ++ [.group .brace .callSite .callSite
      [.literal (Text.Quoted.literal value) .callSite]] := rfl

/-- A literal is the value of a body. -/
theorem accepts_literalBody {literal : String} :
    Accepts (statements (grammar (depth + 2))) [.literal literal .callSite] [] fun _ => True :=
  ListsStatements.accepts (.last rfl (accepts_statement_last
    ⟨⟨rfl, .of_eq fun _ => rfl, rfl, rfl⟩, fun _ => .of_eq fun _ => rfl⟩
    (accepts_operand_of_atom rfl accepts_literal .nil)))

/-- The method that answers the name of a batch is read as an item of an implementation. -/
theorem accepts_nameMethod (value : String) :
    Accepts (implementedItem (grammar (depth + 12))) ((textMethod "name" value).tokens ++ rest) rest
      fun _ => True := by
  rw [tokens_textMethod, List.append_assoc]
  generalize Text.Quoted.literal value = literal
  have signed : Accepts (signature (grammar (depth + 12)))
      (textSignature "name" ++ ([.group .brace .callSite .callSite [.literal literal .callSite]] ++
        rest)) (.group .brace .callSite .callSite [.literal literal .callSite] :: rest)
      fun _ => True := by
    rintro ⟨_, _, _, leftover⟩
    cases leftover <;> exact ⟨_, rfl, trivial⟩
  have within : Accepts (grammar (depth + 12)).statements [.literal literal .callSite] []
      fun _ => True := accepts_literalBody
  have whole := accepts_implementedItem .hidden signed rfl within
  exact whole

/-- Literals with a comma between each two. -/
theorem lists_texts (values : List String) :
    Listed (expressionCode (grammar (depth + 2)))
      (Code.tokens (Template.listed (values.map Template.text))) := by
  induction values with
  | nil => exact .nil
  | cons value values hypothesis =>
    cases values with
    | nil =>
      exact .last (accepts_expressionCode (accepts_operand_of_atom rfl accepts_literal .nil) .nil)
    | cons second others =>
      exact .next accepts_literalArgument (length_lt_of_comma [.literal _ .callSite] _) hypothesis

/-- The inputs and the output of the method that lists the interfaces. -/
def interfacesSignature : List Token :=
  [Token.keyword "fn" .callSite, Token.keyword "interfaces" .callSite,
    .group .parenthesis .callSite .callSite
      [.mark '&' false .callSite, Token.keyword "self" .callSite]] ++
    Token.operator "->" .callSite ++
      [.mark '&' false .callSite, .lifetime ⟨"'static", .callSite⟩,
        .group .bracket .callSite .callSite staticText.tokens]

/-- A reference to a list of texts. -/
def textsBody (values : List String) : List Token :=
  [.mark '&' false .callSite, .group .bracket .callSite .callSite
    (Code.tokens (Template.listed (values.map Template.text)))]

/-- The method that answers the interfaces is a signature with their texts in braces. -/
theorem tokens_interfacesMethod (values : List String) :
    (textsMethod "interfaces" values).tokens =
      interfacesSignature ++ [.group .brace .callSite .callSite (textsBody values)] := rfl

/-- The texts of interfaces are read as statements. -/
theorem accepts_textsBody (values : List String) :
    Accepts (statements (grammar (depth + 5))) (textsBody values) [] fun _ => True := by
  have list : Accepts (operand (grammar (depth + 2)) true) ((textsBody values).drop 1) []
      Expression.IsValue :=
    accepts_operand_of_atom rfl (accepts_atom_list (lists_texts values)) .nil
  exact ListsStatements.accepts (.last rfl (accepts_statement_last
    ⟨⟨rfl, .of_eq fun _ => rfl, rfl, rfl⟩, fun _ => .of_eq fun _ => rfl⟩
    (accepts_reference rfl rfl list)))

/-- The method that answers the interfaces is read as an item of an implementation. -/
theorem accepts_interfacesMethod (values : List String) :
    Accepts (implementedItem (grammar (depth + 16)))
      ((textsMethod "interfaces" values).tokens ++ rest) rest fun _ => True := by
  rw [tokens_interfacesMethod, List.append_assoc]
  have within : Accepts (grammar (depth + 16)).statements (textsBody values) [] fun _ => True :=
    accepts_textsBody values
  have unmarked : (Peek.mark "#" (textsBody values) &&
      Peek.mark "!" ((textsBody values).drop 1)) = false := rfl
  generalize textsBody values = inner at within unmarked
  have signed : Accepts (signature (grammar (depth + 16)))
      (interfacesSignature ++ ([.group .brace .callSite .callSite inner] ++ rest))
      (.group .brace .callSite .callSite inner :: rest) fun _ => True := by
    rintro ⟨_, _, _, leftover⟩
    cases leftover <;> exact ⟨_, rfl, trivial⟩
  have whole := accepts_implementedItem .hidden signed unmarked within
  exact whole

/-! Lookups. -/

/-- A path of two names. -/
theorem accepts_path_pair {grammar : Grammar} {style : PathStyle} {first last : Name}
    (plain : first.IsPlain) (ended : last.IsPlain) (alone : opensAngled style rest = false)
    (ends : continuesPath rest = false) :
    Accepts (path grammar style)
      (.word first :: (Token.operator "::" .callSite ++ .word last :: rest)) rest
      fun _ => True := by
  have angleless : opensAngled style (Token.operator "::" .callSite ++ .word last :: rest) =
      false := by cases style <;> rfl
  have goesOn (found : SegmentPath) : Accepts (pathRest grammar style found)
      (Token.pathTo [] (.word last :: rest)) rest fun _ => True :=
    .look (accepts_pathRestFrom rfl (accepts_segment ended alone) ends (Nat.lt_succ_self _) found)
  refine (accepts_markCode?_of_absent rfl).bind ?_
  rintro _ rfl
  exact (accepts_segment plain angleless).skip fun _ => goesOn _

/-- The call that hands the handle on. -/
def clonedHandle : List Token :=
  Token.pathTo ["core", "clone", "Clone"] [Token.keyword "clone" .callSite,
    .group .parenthesis .callSite .callSite [Token.keyword "handle" .callSite]]

/-- The call of the constructor of an implementation. -/
def constructed (implementation : Name) : List Token :=
  .word implementation :: (Token.operator "::" .callSite ++ [Token.keyword "new" .callSite,
    .group .parenthesis .callSite .callSite clonedHandle])

/-- The comparison of the wanted interface with the one of an entry. -/
def lookupTest (interface : Name) (rest : List Token) : List Token :=
  Token.keyword "interface" .callSite :: (Token.operator "==" .callSite ++
    Token.pathTo ["core", "any", "TypeId"] (Token.keyword "of" .callSite ::
      (Token.operator "::" .callSite ++ (Token.object interface ++
        .group .parenthesis .callSite .callSite [] :: rest))))

/-- What is answered when the interface is the wanted one. -/
def returned : List Token :=
  Token.keyword "return" .callSite :: Token.pathTo ["core", "option", "Option"]
    [Token.keyword "Some" .callSite, .group .parenthesis .callSite .callSite
      (Token.pathTo ["std", "boxed", "Box"] [Token.keyword "new" .callSite,
        .group .parenthesis .callSite .callSite [Token.keyword "dao" .callSite]]),
      .mark ';' false .callSite]

/-- The definition of the variable that holds the implementation. -/
def lookupVariable (entry : RegistryEntry) (rest : List Token) : List Token :=
  Token.keyword "let" .callSite :: Token.keyword "dao" .callSite :: .mark ':' false .callSite ::
    Token.pathTo ["std", "boxed"] (Token.keyword "Box" .callSite ::
      ([] ++ (Token.object entry.interface ++ (.mark '=' false .callSite ::
        Token.pathTo ["std", "boxed", "Box"] (Token.keyword "new" .callSite ::
          .group .parenthesis .callSite .callSite (constructed entry.implementation) ::
            .mark ';' false .callSite :: rest)))))

/-- A lookup is a test with the construction in its braces. -/
theorem tokens_lookup (entry : RegistryEntry) : (lookup entry).tokens =
    Token.keyword "if" .callSite :: lookupTest entry.interface
      [.group .brace .callSite .callSite (lookupVariable entry returned)] := by
  simp only [lookup, Code.tokens_append, Template.tokens_braces, List.append_assoc]
  rfl

/-- The test of a lookup is read as a condition, which ends in front of the braces. -/
theorem accepts_lookupTest {interface : Name} {opening closing : Position} {inner : List Token}
    (plain : interface.IsPlain) :
    Accepts (condition (grammar (depth + 5)))
      (lookupTest interface (.group .brace opening closing inner :: rest))
      (.group .brace opening closing inner :: rest) fun _ => True := by
  have of_ : Name.IsPlain ⟨"of", .callSite⟩ := rfl
  have type : Accepts (atom (grammar (depth + 2)) false)
      (Token.pathTo ["core", "any", "TypeId"] (Token.keyword "of" .callSite ::
        (Token.operator "::" .callSite ++ (Token.object interface ++
          .group .parenthesis .callSite .callSite [] ::
            .group .brace opening closing inner :: rest))))
      (.group .parenthesis .callSite .callSite [] :: .group .brace opening closing inner :: rest)
      Expression.IsValue :=
    accepts_atom_absolute (by decide) (accepts_segment_object of_ plain (.inr rfl)) rfl rfl rfl
  exact accepts_comparison
    (accepts_operand rfl type fun _ _ => accepts_trailers_call .nil (.brace _ _ _ _))

/-- The construction of an implementation is read as an expression. -/
theorem accepts_constructed {implementation : Name} (plain : implementation.IsPlain) :
    Accepts (expressionCode (grammar (depth + 12))) (constructed implementation) []
      fun _ => True := by
  have new : Name.IsPlain ⟨"new", .callSite⟩ := rfl
  have cloned : Listed (expressionCode (grammar (depth + 10))) clonedHandle := by
    refine .last ?_
    rintro ⟨_, _, _, leftover⟩
    cases leftover <;> exact ⟨_, rfl, trivial⟩
  have called : Accepts (atom (grammar (depth + 10)) true) (constructed implementation)
      [.group .parenthesis .callSite .callSite clonedHandle] Expression.IsValue :=
    accepts_atom_plain plain rfl (accepts_path_pair plain new rfl rfl) rfl rfl
  exact accepts_expressionCode
    (accepts_operand rfl called fun _ _ => accepts_trailers_call cloned .nil) .nil

/-- The variable that holds what was constructed is read as a statement with its own semicolon. -/
theorem accepts_lookupVariable {entry : RegistryEntry} (interface : entry.interface.IsPlain)
    (implementation : entry.implementation.IsPlain) :
    Accepts (statement (grammar (depth + 14))) (lookupVariable entry rest) rest
      fun found => needsSemicolon found = false := by
  have box : Name.IsPlain ⟨"Box", .callSite⟩ := rfl
  have value : Accepts (expressionCode (grammar (depth + 14)))
      (Token.pathTo ["std", "boxed", "Box"] (Token.keyword "new" .callSite ::
        .group .parenthesis .callSite .callSite (constructed entry.implementation) ::
          .mark ';' false .callSite :: rest)) (.mark ';' false .callSite :: rest)
      fun _ => True :=
    accepts_expressionCode (accepts_call "std" ["boxed", "Box"] (by decide) rfl
      (.last (accepts_constructed implementation)) (.semicolon _ _ _)) (.semicolon _ _ _)
  have type : Accepts (declaredType (grammar (depth + 13)) true)
      (Token.pathTo ["std", "boxed"] (Token.keyword "Box" .callSite ::
        ([] ++ (Token.object entry.interface ++ (.mark '=' false .callSite ::
          Token.pathTo ["std", "boxed", "Box"] (Token.keyword "new" .callSite ::
            .group .parenthesis .callSite .callSite (constructed entry.implementation) ::
              .mark ';' false .callSite :: rest))))))
      (.mark '=' false .callSite :: Token.pathTo ["std", "boxed", "Box"]
        (Token.keyword "new" .callSite :: .group .parenthesis .callSite .callSite
          (constructed entry.implementation) :: .mark ';' false .callSite :: rest))
      fun declared => isPath declared = true :=
    accepts_absoluteType (by decide) (accepts_segment_object box interface (.inl ⟨rfl, rfl⟩))
      (.equals _ _ _)
  exact accepts_statement_let type.any value

/-- The variable is at least one token. -/
theorem length_lt_lookupVariable (entry : RegistryEntry) (rest : List Token) :
    rest.length < (lookupVariable entry rest).length := by
  simp only [lookupVariable, Token.pathTo, List.foldr_cons, List.foldr_nil, List.length_append,
    List.length_cons, List.nil_append]
  omega

set_option maxRecDepth 2000 in
/-- What a lookup answers is read as a statement. -/
theorem accepts_returned :
    Accepts (statement (grammar (depth + 14))) returned [] fun _ => True := by
  rintro ⟨_, _, _, leftover⟩
  cases leftover <;> exact ⟨_, rfl, trivial⟩

/-- The statements of a lookup are the variable and what is answered. -/
theorem lists_lookupBody {entry : RegistryEntry} (interface : entry.interface.IsPlain)
    (implementation : entry.implementation.IsPlain) :
    ListsStatements (grammar (depth + 14)) (lookupVariable entry returned) :=
  .next rfl (accepts_lookupVariable interface implementation)
    (length_lt_lookupVariable entry returned) (.last rfl accepts_returned)

/-- What shows behind a lookup that its condition has ended. -/
structure EndsCondition (rest : List Token) : Prop where
  elseless : Peek.word "else" rest = false
  ended : (startsField rest || Peek.mark "?" rest) = false
  semicolonless : Peek.mark ";" rest = false

/-- A lookup is read as a statement that needs no semicolon. -/
theorem accepts_lookup {entry : RegistryEntry} (interface : entry.interface.IsPlain)
    (implementation : entry.implementation.IsPlain) (ends : EndsCondition rest) :
    Accepts (statement (grammar (depth + 16))) ((lookup entry).tokens ++ rest) rest
      fun found => needsSemicolon found = false := by
  rw [tokens_lookup]
  exact accepts_statement_conditional (accepts_lookupTest interface)
    (lists_lookupBody interface implementation).accepts ends.elseless ends.ended
    ends.semicolonless

/-- The lookups of all entries, and what is answered when none of them is the wanted one. -/
def lookups (entries : List RegistryEntry) : List Token :=
  Code.tokens (entries.flatMap lookup ++ Template.absolute ["core", "option", "Option", "None"])

/-- Lookups follow one another. -/
theorem lookups_cons (entry : RegistryEntry) (entries : List RegistryEntry) :
    lookups (entry :: entries) = (lookup entry).tokens ++ lookups entries := by
  rw [lookups, List.flatMap_cons, List.append_assoc, Code.tokens_append]
  rfl

/-- What follows a lookup ends its condition. -/
theorem endsCondition_lookups (entries : List RegistryEntry) : EndsCondition (lookups entries) := by
  cases entries with
  | nil => exact ⟨rfl, rfl, rfl⟩
  | cons entry entries =>
    rw [lookups_cons]
    exact ⟨rfl, rfl, rfl⟩

/-- Lookups are read as statements, by induction on their entries. -/
theorem lists_lookups {entries : List RegistryEntry}
    (readable : ∀ entry ∈ entries, entry.interface.IsPlain ∧ entry.implementation.IsPlain) :
    ListsStatements (grammar (depth + 16)) (lookups entries) := by
  induction entries with
  | nil =>
    refine .last rfl ?_
    rintro ⟨_, _, _, leftover⟩
    cases leftover <;> exact ⟨_, rfl, trivial⟩
  | cons entry entries hypothesis =>
    obtain ⟨⟨interface, implementation⟩, others⟩ := List.forall_mem_cons.mp readable
    rw [lookups_cons]
    refine .next rfl (accepts_lookup interface implementation (endsCondition_lookups entries)) ?_
      (hypothesis others)
    rw [tokens_lookup, List.length_append]
    exact Nat.lt_add_of_pos_left (Nat.succ_pos _)

/-- The inputs and the output of the method that looks interfaces up. -/
def getSignature : List Token :=
  [Token.keyword "fn" .callSite, Token.keyword "get" .callSite,
    .group .parenthesis .callSite .callSite lookupInputs.tokens] ++
    Token.operator "->" .callSite ++ Token.pathTo ["core", "option"]
      ([Token.keyword "Option" .callSite, .mark '<' false .callSite] ++
        Token.pathTo ["std", "boxed"] ([Token.keyword "Box" .callSite, .mark '<' false .callSite,
          Token.keyword "dyn" .callSite] ++ Token.pathTo ["core", "any"]
            (Token.keyword "Any" .callSite :: Token.operator ">>" .callSite)))

/-- The method that looks up is a signature with its lookups in braces. -/
theorem tokens_lookupMethod (entries : List RegistryEntry) : (lookupMethod entries).tokens =
    getSignature ++ [.group .brace .callSite .callSite (lookups entries)] := by
  simp only [lookupMethod, lookups, Code.tokens_append, Template.tokens_braces, List.append_assoc]
  rfl

/-- Lookups begin with no attribute. -/
theorem lookups_unmarked (entries : List RegistryEntry) :
    (Peek.mark "#" (lookups entries) && Peek.mark "!" ((lookups entries).drop 1)) = false := by
  cases entries with
  | nil => rfl
  | cons entry entries =>
    rw [lookups_cons]
    rfl

set_option maxRecDepth 2000 in
/-- The signature of the method that looks up is read up to its braces. -/
theorem accepts_getSignature (inner rest : List Token) :
    Accepts (signature (grammar (depth + 17)))
      (getSignature ++ ([.group .brace .callSite .callSite inner] ++ rest))
      (.group .brace .callSite .callSite inner :: rest) fun _ => True := by
  rintro ⟨_, _, _, leftover⟩
  cases leftover <;> exact ⟨_, rfl, trivial⟩

/-- The method that looks up is read as an item of an implementation. -/
theorem accepts_lookupMethod {entries : List RegistryEntry}
    (readable : ∀ entry ∈ entries, entry.interface.IsPlain ∧ entry.implementation.IsPlain) :
    Accepts (implementedItem (grammar (depth + 17))) ((lookupMethod entries).tokens ++ rest) rest
      fun _ => True := by
  rw [tokens_lookupMethod, List.append_assoc]
  have within : Accepts (grammar (depth + 17)).statements (lookups entries) [] fun _ => True :=
    (lists_lookups readable).accepts
  have whole := accepts_implementedItem .hidden (accepts_getSignature (lookups entries) rest)
    (lookups_unmarked entries) within
  exact whole

/-! The items of a registry. -/

/-- The code of a registry consists of three items. -/
theorem registry_eq (registry : Registry) : Render.registry registry =
    registryRecord registry ++ registryImplementation registry ++ manifest registry := by
  simp only [Render.registry, registryRecord, registryImplementation, manifest, List.append_assoc]

/-- The struct of a registry is documented and public. -/
theorem tokens_registryRecord (registry : Registry) : (registryRecord registry).tokens =
    documentationTokens "r\" Looks up the implementations generated in this batch.\"" ++
      [Token.keyword "pub" .callSite, Token.keyword "struct" .callSite,
        Token.keyword registry.name .callSite, .mark ';' false .callSite] := by
  simp only [registryRecord, Code.tokens_append, tokens_documentation_spelled, List.append_assoc]
  rfl

/-- The struct of a registry is read as an item. -/
theorem readsItem_registryRecord {registry : Registry} (readable : registry.IsReadable) :
    ReadsItem depth .record (registryRecord registry) := by
  intro rest
  have fields : Accepts (structFields (grammar depth)) (.mark ';' false .callSite :: rest) rest
      fun _ => True := fun _ => ⟨_, rfl, trivial⟩
  have body := accepts_record (.everywhere .callSite) readable.name rfl fields
  rw [tokens_registryRecord, List.append_assoc]
  exact accepts_item (accepts_documentation rfl) body

/-- What a registry looks up is an implementation of the library's trait. -/
theorem tokens_registryImplementation (registry : Registry) :
    (registryImplementation registry).tokens = Token.keyword "impl" .callSite ::
      (Token.pathTo ["dbx"] [Token.keyword "DaoRegistry" .callSite, Token.keyword "for" .callSite,
        Token.keyword registry.name .callSite] ++
        [.group .brace .callSite .callSite (registryMethods registry).tokens]) := rfl

/-- What a registry looks up is read as an implementation. -/
theorem readsImplementation_registry {registry : Registry} (readable : registry.IsReadable) :
    ReadsImplementation (depth + 17) (registryImplementation registry) := by
  let values := registry.entries.map fun entry => entry.interface.text
  have items : Accepts (untilEmpty (implementedItem (grammar (depth + 17))))
      [(textMethod "name" registry.batch.text).tokens, (textsMethod "interfaces" values).tokens,
        (lookupMethod registry.entries).tokens].flatten [] fun _ => True := by
    refine accepts_implementedItems ?_ ?_
    · simp only [List.forall_mem_cons]
      exact ⟨fun _ => accepts_nameMethod _, fun _ => accepts_interfacesMethod _,
        fun _ => accepts_lookupMethod readable.entries, fun _ absent => nomatch absent⟩
    · simp only [List.forall_mem_cons]
      exact ⟨List.cons_ne_nil _ _, List.cons_ne_nil _ _, List.cons_ne_nil _ _,
        fun _ absent => nomatch absent⟩
  have whole : [(textMethod "name" registry.batch.text).tokens,
      (textsMethod "interfaces" values).tokens,
      (lookupMethod registry.entries).tokens].flatten = (registryMethods registry).tokens := by
    simp only [registryMethods, Code.tokens_append, List.flatten_cons, List.flatten_nil,
      List.append_nil, List.append_assoc, values]
  rw [whole] at items
  have known : Name.IsPlain ⟨"DaoRegistry", .callSite⟩ := rfl
  exact .of_subject (tokens_registryImplementation registry) (fun _ => ⟨rfl, rfl, rfl⟩)
    (fun _ => subjects_provided known readable.name) rfl items

/-- The name of a batch and a reference to its registry. -/
def manifestArguments (registry : Registry) : List Token :=
  [.literal (Text.Quoted.literal registry.batch.text) .callSite, .mark ',' false .callSite,
    .mark '&' false .callSite, Token.keyword registry.name .callSite]

/-- The arguments of a manifest are a list of expressions. -/
theorem lists_manifestArguments {registry : Registry} (readable : registry.IsReadable) :
    Listed (expressionCode (grammar (depth + 3))) (manifestArguments registry) := by
  have name : Accepts (operand (grammar depth) true) [Token.keyword registry.name .callSite] []
      Expression.IsValue :=
    accepts_operand_of_atom rfl (accepts_atom_plain readable.name rfl
      (accepts_path readable.name rfl rfl) rfl rfl) .nil
  have mutless : Peek.word "mut" [Token.keyword registry.name .callSite] = false :=
    readable.name.word "mut" rfl
  exact .next accepts_literalArgument (length_lt_of_comma [.literal _ .callSite] _) (.last
    (accepts_expressionCode (accepts_reference mutless (Bool.and_false _) name) .nil))

/-- The constructor of the manifest as it stands in the constant. -/
def manifestValue (registry : Registry) (rest : List Token) : List Token :=
  Token.pathTo ["dbx", "Manifest"] (Token.keyword "new" .callSite ::
    .group .parenthesis .callSite .callSite (manifestArguments registry) ::
      .mark ';' false .callSite :: rest)

/-- A manifest is a documented constant that is public. -/
theorem tokens_manifest (registry : Registry) : (manifest registry).tokens ++ rest =
    documentationTokens "r\" Points the resolver at this batch's registry.\"" ++
      (Token.keyword "pub" .callSite :: Token.keyword "const" .callSite ::
        Token.keyword "MANIFEST" .callSite :: .mark ':' false .callSite ::
          Token.pathTo ["dbx"] (Token.keyword "Manifest" .callSite :: .mark '=' false .callSite ::
            manifestValue registry rest)) := by
  simp only [manifest, Code.tokens_append, tokens_documentation_spelled, List.append_assoc]
  rfl

/-- The path that the manifest has as its type. -/
theorem accepts_manifestType {standing : List Token} :
    Accepts (declaredType (grammar depth) true)
      (Token.pathTo ["dbx"] (Token.keyword "Manifest" .callSite ::
        .mark '=' false .callSite :: standing)) (.mark '=' false .callSite :: standing)
      fun declared => isPath declared = true := by
  have known : Name.IsPlain ⟨"Manifest", .callSite⟩ := rfl
  exact accepts_absoluteType (by decide) (accepts_segment known rfl) (.equals _ _ _)

/-- The value of a manifest is read up to its semicolon. -/
theorem accepts_manifestValue {registry : Registry} (readable : registry.IsReadable) :
    Accepts (expression (grammar (depth + 4)) true) (manifestValue registry rest)
      (.mark ';' false .callSite :: rest) Expression.IsValue :=
  accepts_expression (accepts_call "dbx" ["Manifest"] (by decide) rfl
    (lists_manifestArguments readable) (.semicolon _ _ _)) (.semicolon _ _ _)

/-- A manifest is read as an item. -/
theorem readsItem_manifest {registry : Registry} (readable : registry.IsReadable) :
    ReadsItem (depth + 5) .constant (manifest registry) := by
  intro rest
  have type : Accepts ((grammar (depth + 5)).type true)
      (Token.pathTo ["dbx"] (Token.keyword "Manifest" .callSite :: .mark '=' false .callSite ::
        manifestValue registry rest)) (.mark '=' false .callSite :: manifestValue registry rest)
      fun declared => isPath declared = true := accepts_manifestType
  have value : Accepts ((grammar (depth + 5)).expression true) (manifestValue registry rest)
      (.mark ';' false .callSite :: rest) Expression.IsValue := accepts_manifestValue readable
  rw [tokens_manifest]
  exact accepts_item (accepts_documentation rfl) (accepts_constant type.any value.any)

end Render

end DataAccess
