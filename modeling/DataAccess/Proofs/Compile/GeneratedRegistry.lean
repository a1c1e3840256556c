/-
This file proves that the rendered code of a registry says what the registry lists: the names that
it answers, the interfaces that it looks up and the structs that it constructs are one list.
-/

import DataAccess.Compile.GeneratedRegistry
import DataAccess.Compile.Render
import DataAccess.Proofs.Compile.Rendered
import DataAccess.Proofs.Text.Quoted

namespace DataAccess

namespace Rendered

open DataAccess.Parser (Reads)
open Template

/-- Marks in a row are read one after the other. -/
theorem reads_punctuation (marks : List String) (written : ∀ spelling ∈ marks, spelling ≠ "") :
    Reads (punctuation marks) (Code.tokens (marks.flatMap mark)) () := by
  induction marks with
  | nil => exact Reads.pure ()
  | cons spelling rest hypothesis =>
    rw [punctuation, List.flatMap_cons]
    exact (reads_mark spelling (written spelling List.mem_cons_self)).append
      (hypothesis fun other member => written other (List.mem_cons_of_mem _ member))

/-- Words in a row are read one after the other. -/
theorem reads_spellings (spelled : List String) :
    Reads (spellings spelled) (Code.tokens (words spelled)) () := by
  induction spelled with
  | nil => exact Reads.pure ()
  | cons spelling rest hypothesis =>
    rw [spellings, words, List.flatMap_cons]
    exact (reads_word spelling).append hypothesis

/-- A single mark. -/
theorem reads_point (spelling : String) (written : spelling ≠ "") :
    Reads (punctuation [spelling]) (Code.tokens (mark spelling)) () := by
  have read := reads_punctuation [spelling] (by simpa using written)
  rwa [List.flatMap_cons, List.flatMap_nil, List.append_nil] at read

/-- A single word. -/
theorem reads_spelling (spelling : String) :
    Reads (spellings [spelling]) (Code.tokens (word spelling)) () :=
  reads_spellings [spelling]

/-- A text of a template is read as its value. -/
theorem reads_text (value : String) : Reads text (Code.tokens (Template.text value)) value := by
  apply reads_literalOf
  rw [Text.Quoted.value_literal]

/-- A lifetime of a template is read. -/
theorem reads_lifetime (spelling : String) :
    Reads Parser.lifetime (Code.tokens (lifetime spelling)) ⟨spelling, .callSite⟩ := by
  intro stream rest found
  cases stream
  cases found
  rfl

/-- Documentation is read over, whatever its text says. -/
theorem reads_documentation {literal : Code} {value : String}
    (reads : Reads text literal.tokens value) :
    Reads documentation (Template.documentation literal).tokens () := by
  rw [tokens_documentation]
  exact (reads_mark "#" (by decide)).append ((reads_brackets ((reads_spelling "doc").append
    ((reads_point "=" (by decide)).append reads))).map fun _ => ())

/-- The type of texts that last is read over. -/
theorem reads_staticText : Reads staticText Render.staticText.tokens () := by
  rw [Render.staticText, List.append_assoc]
  exact (reads_point "&" (by decide)).append ((reads_lifetime _).append (reads_spelling "str"))

/-- The reference to the receiver is read over. -/
theorem reads_selfReference :
    Reads selfReference (Code.tokens (mark "&" ++ word "self")) () :=
  (reads_point "&" (by decide)).append (reads_spelling "self")

/-- A method that answers a text is read as the text. -/
theorem reads_textMethod (name value : String) :
    Reads (textMethod name) (Render.textMethod name value).tokens value := by
  simp only [Render.textMethod, textMethod, punctuation, nothing, bind_assoc, pure_bind,
    List.append_assoc]
  exact (reads_spellings _).append ((reads_parentheses reads_selfReference).append
    ((reads_mark "->" (by decide)).append (reads_staticText.append
      ((reads_braces (reads_text value)).map fun found => found.value))))

/-- All parts of a list but the first stand behind a comma. -/
theorem listed_cons (first : Code) (rest : List Code) :
    listed (first :: rest) = first ++ rest.flatMap fun other => mark "," ++ other := by
  induction rest generalizing first with
  | nil => rw [listed, List.flatMap_nil, List.append_nil]
  | cons second others hypothesis =>
    rw [listed, hypothesis, List.flatMap_cons, List.append_assoc, List.append_assoc]
    exact List.cons_ne_nil second others

/-- A text behind a comma. -/
theorem reads_further (value : String) :
    Reads (punctuation [","] >>= fun _ => text)
      (Code.tokens (mark "," ++ Template.text value)) value :=
  (reads_point "," (by decide)).append (reads_text value)

/-- No further text stands where nothing does. -/
theorem further_nil (stream : Stream) :
    ∃ error, (punctuation [","] >>= fun _ => text) { stream with tokens := [] } = .error error :=
  ⟨_, rfl⟩

/-- No text stands where nothing does. -/
theorem text_nil (stream : Stream) :
    ∃ error, text { stream with tokens := [] } = .error error :=
  ⟨_, rfl⟩

/-- Texts in a list are a first one and others behind commas, or none. -/
theorem texts_apply (stream : Stream) :
    texts stream = (Parser.attempt text stream >>= fun pair => (match pair.1 with
      | none => return []
      | some first => do
          let others ← Parser.repeatStep (Parser.attempt do
            punctuation [","]
            text)
          return first :: others : Parser (List String)) pair.2) := rfl

/-- A list of texts is read when nothing stands behind it. -/
theorem readsAll_texts (values : List String) :
    Parser.ReadsAll texts (Code.tokens (listed (values.map Template.text))) values := by
  intro stream found
  cases values with
  | nil =>
    have empty : { stream with tokens := [] } = stream := by
      rw [← show stream.tokens = [] from found]
    obtain ⟨error, fails⟩ := text_nil stream
    rw [empty] at fails ⊢
    rw [texts_apply, Parser.attempt_eq_none fails]
    rfl
  | cons first others =>
    rw [List.map_cons, listed_cons, List.flatMap_map, Code.tokens_append,
      Code.tokens_flatMap] at found
    obtain ⟨error, fails⟩ := further_nil stream
    have read := (reads_text first).attempt stream _ found
    have repeated := Parser.repeatStep_apply (fun value => (reads_further value).attempt)
      (fun _ absent => List.cons_ne_nil _ _ absent) others
      { stream with tokens := others.flatMap fun value =>
          Code.tokens (mark "," ++ Template.text value) }
      (List.append_nil _).symm (Parser.attempt_eq_none fails)
    rw [List.map_id'] at repeated
    rw [texts_apply, read]
    change (Parser.repeatStep _ _ >>= _) = _
    rw [repeated]
    rfl

/-- A method that answers texts is read as the texts. -/
theorem reads_textsMethod (name : String) (values : List String) :
    Reads (textsMethod name) (Render.textsMethod name values).tokens values := by
  simp only [Render.textsMethod, textsMethod, punctuation, nothing, bind_assoc, pure_bind,
    List.append_assoc]
  have answered : Reads (Parser.mark "&" >>= fun _ => Parser.group .bracket texts)
      (Code.tokens (mark "&" ++ brackets (listed (values.map Template.text))))
      ⟨.callSite, .callSite, values⟩ :=
    (reads_mark "&" (by decide)).append ((readsAll_texts values).group .bracket _ _)
  exact (reads_spellings _).append ((reads_parentheses reads_selfReference).append
    ((reads_mark "->" (by decide)).append ((reads_mark "&" (by decide)).append
      ((reads_lifetime _).append ((reads_brackets reads_staticText).append
        ((reads_braces answered).map fun found => found.value.value))))))

/-- The type of a trait object is read as the name of its interface. -/
theorem reads_dynamic (interface : Name) :
    Reads dynamic (Render.dynamic interface).tokens interface :=
  (reads_spelling "dyn").append (reads_named interface)

/-- The construction of an implementation is read as its name. -/
theorem reads_construction (implementation : Name) :
    Reads construction
      (Code.tokens (named implementation ++ (mark "::" ++ (word "new" ++
        parentheses (absolute ["core", "clone", "Clone", "clone"] ++
          parentheses (word "handle")))))) implementation := by
  have cloned : Reads (path ["core", "clone", "Clone", "clone"] >>= fun _ =>
        Parser.group .parenthesis (spellings ["handle"]))
      (Code.tokens (absolute ["core", "clone", "Clone", "clone"] ++ parentheses (word "handle")))
      ⟨.callSite, .callSite, ()⟩ :=
    (reads_path _).append (reads_parentheses (reads_spelling "handle"))
  exact (reads_named implementation).append ((reads_point "::" (by decide)).append
    ((reads_spelling "new").append ((reads_parentheses cloned).map fun _ => implementation)))

/-- What is done for an interface is read as the interface and its implementation. -/
theorem reads_provision (entry : RegistryEntry) :
    Reads provision
      (Code.tokens (words ["let", "dao"] ++ (mark ":" ++ (absolute ["std", "boxed", "Box"] ++
        (mark "<" ++ (Render.dynamic entry.interface ++ (mark ">" ++ (mark "=" ++
          (absolute ["std", "boxed", "Box", "new"] ++
            (parentheses (named entry.implementation ++ (mark "::" ++ (word "new" ++
              parentheses (absolute ["core", "clone", "Clone", "clone"] ++
                parentheses (word "handle"))))) ++ (mark ";" ++ (word "return" ++
                  (absolute ["core", "option", "Option", "Some"] ++
                    (parentheses (absolute ["std", "boxed", "Box", "new"] ++
                      parentheses (word "dao")) ++ mark ";"))))))))))))))
      (entry.interface, entry.implementation) := by
  simp only [provision, punctuation, nothing, bind_assoc, pure_bind]
  have boxed : Reads (path ["std", "boxed", "Box", "new"] >>= fun _ =>
        Parser.group .parenthesis (spellings ["dao"]))
      (Code.tokens (absolute ["std", "boxed", "Box", "new"] ++ parentheses (word "dao")))
      ⟨.callSite, .callSite, ()⟩ :=
    (reads_path _).append (reads_parentheses (reads_spelling "dao"))
  exact (reads_spellings _).append ((reads_mark ":" (by decide)).append ((reads_path _).append
    ((reads_mark "<" (by decide)).append ((reads_dynamic _).append
      ((reads_mark ">" (by decide)).append ((reads_mark "=" (by decide)).append
        ((reads_path _).append ((reads_parentheses (reads_construction _)).append
          ((reads_mark ";" (by decide)).append ((reads_spelling "return").append
            ((reads_path _).append ((reads_parentheses boxed).append
              ((reads_mark ";" (by decide)).map fun _ =>
                (entry.interface, entry.implementation))))))))))))))

/-- The lookup of an entry asks for its interface, boxes it and constructs its implementation. -/
def lookupOf (entry : RegistryEntry) : GeneratedLookup :=
  ⟨entry.interface, entry.interface, entry.implementation⟩

/-- The lookup of an entry is read as what the entry looks up. -/
theorem reads_lookup (entry : RegistryEntry) :
    Reads lookup (Render.lookup entry).tokens (lookupOf entry) := by
  simp only [Render.lookup, lookup, punctuation, nothing, bind_assoc, pure_bind, List.append_assoc]
  exact (reads_spellings _).append ((reads_mark "==" (by decide)).append ((reads_path _).append
    ((reads_mark "::" (by decide)).append ((reads_mark "<" (by decide)).append
      ((reads_dynamic _).append ((reads_mark ">" (by decide)).append
        ((reads_parentheses reads_nothing).append
          ((reads_braces (reads_provision entry)).map fun provided =>
            (⟨entry.interface, provided.value.1, provided.value.2⟩ : GeneratedLookup)))))))))

/-- The path behind the last lookup begins no lookup. -/
theorem lookup_absolute (names : List String) (stream : Stream) (rest : List Token) :
    ∃ error, lookup { stream with tokens := (absolute ("core" :: names)).tokens ++ rest } =
      .error error := by
  rw [absolute_cons, Code.tokens_append, List.append_assoc]
  exact ⟨_, rfl⟩

/-- A lookup is at least one token. -/
theorem lookup_tokens_ne_nil (entry : RegistryEntry) : (Render.lookup entry).tokens ≠ [] := by
  simp [Render.lookup, words]

/-- The lookups of a registry are read entry after entry. -/
theorem reads_lookups (entries : List RegistryEntry) :
    Reads lookups
      (Code.tokens (entries.flatMap Render.lookup ++ absolute ["core", "option", "Option", "None"]))
      (entries.map lookupOf) := by
  intro stream rest found
  rw [Code.tokens_append, Code.tokens_flatMap, List.append_assoc] at found
  obtain ⟨error, fails⟩ := lookup_absolute ["option", "Option", "None"] stream rest
  have repeated := Parser.repeatStep_apply (fun entry => (reads_lookup entry).attempt)
    lookup_tokens_ne_nil entries stream found (Parser.attempt_eq_none fails)
  change (Parser.repeatStep _ stream >>= _) = _
  rw [repeated]
  exact ((reads_path ["core", "option", "Option", "None"]).map fun _ => entries.map lookupOf)
    { stream with tokens := (absolute ["core", "option", "Option", "None"]).tokens ++ rest } rest
    rfl

/-- The inputs of the method that looks up are read over. -/
theorem reads_lookupInputs : Reads lookupInputs Render.lookupInputs.tokens () := by
  simp only [lookupInputs, Render.lookupInputs, selfReference, punctuation, nothing, bind_assoc,
    pure_bind, List.append_assoc]
  exact (reads_mark "&" (by decide)).append ((reads_spelling "self").append
    ((reads_mark "," (by decide)).append ((reads_spelling "interface").append
      ((reads_mark ":" (by decide)).append ((reads_path _).append
        ((reads_mark "," (by decide)).append ((reads_spelling "handle").append
          ((reads_mark ":" (by decide)).append ((reads_mark "&" (by decide)).append
            ((reads_path _).append ((reads_mark "," (by decide)).map fun _ => ())))))))))))

/-- The method that looks up is read as what each of its entries looks up. -/
theorem reads_lookupMethod (entries : List RegistryEntry) :
    Reads lookupMethod (Render.lookupMethod entries).tokens (entries.map lookupOf) := by
  simp only [lookupMethod, Render.lookupMethod, punctuation, nothing, bind_assoc, pure_bind,
    List.append_assoc]
  exact (reads_spellings _).append ((reads_parentheses reads_lookupInputs).append
    ((reads_mark "->" (by decide)).append ((reads_path _).append
      ((reads_mark "<" (by decide)).append ((reads_path _).append
        ((reads_mark "<" (by decide)).append ((reads_spelling "dyn").append
          ((reads_path _).append ((reads_mark ">>" (by decide)).append
            ((reads_braces (reads_lookups entries)).map fun found => found.value))))))))))

/-- The methods of a registry are read as its name, its interfaces and its lookups. -/
theorem reads_registryMethods (registry : Registry) :
    Reads registryMethods (Render.registryMethods registry).tokens
      (registry.batch.text, registry.entries.map (fun entry => entry.interface.text),
        registry.entries.map lookupOf) := by
  rw [Render.registryMethods, List.append_assoc]
  exact (reads_textMethod _ _).append ((reads_textsMethod _ _).append
    ((reads_lookupMethod registry.entries).map fun found =>
      (registry.batch.text, registry.entries.map (fun entry => entry.interface.text), found)))

/-- The arguments of a manifest are read as the names of its batch and its registry. -/
theorem reads_manifestArguments (batch name : String) :
    Reads manifestArguments
      (Code.tokens (Template.text batch ++ (mark "," ++ (mark "&" ++ word name))))
      (batch, name) := by
  simp only [manifestArguments, punctuation, nothing, bind_assoc, pure_bind]
  exact (reads_text batch).append ((reads_mark "," (by decide)).append
    ((reads_mark "&" (by decide)).append
      ((reads_named ⟨name, .callSite⟩).map fun found => (batch, found.text))))

/-- What the rendered code of a registry says. -/
def registryOf (registry : Registry) : GeneratedRegistry where
  name := registry.name
  implementing := registry.name
  batch := registry.batch.text
  interfaces := registry.entries.map fun entry => entry.interface.text
  lookups := registry.entries.map lookupOf
  manifestBatch := registry.batch.text
  manifestRegistry := registry.name

/-- The last of several words is a name of its own. -/
theorem words_concat (spelled : List String) (last : String) :
    words (spelled ++ [last]) = words spelled ++ named ⟨last, .callSite⟩ := by
  rw [words, List.flatMap_append, List.flatMap_cons, List.flatMap_nil, List.append_nil]
  rfl

/-- A documentation text is passed over whatever literal spells it. -/
theorem reads_spelledDocumentation (literal : String) :
    Reads documentation (Template.documentation (spelled literal)).tokens () :=
  reads_documentation (reads_literalOf rfl)

/-- A rendered registry is read as what it lists. -/
theorem reads_registry (listed : Registry) :
    Reads registry (Render.registry listed).tokens (registryOf listed) := by
  have struct : words ["pub", "struct", listed.name] =
      words ["pub", "struct"] ++ named ⟨listed.name, .callSite⟩ :=
    words_concat ["pub", "struct"] listed.name
  have implemented : words ["for", listed.name] =
      words ["for"] ++ named ⟨listed.name, .callSite⟩ :=
    words_concat ["for"] listed.name
  simp only [Render.registry, Render.manifestPath, registry, struct, implemented, punctuation,
    nothing, bind_assoc, pure_bind, List.append_assoc]
  exact (reads_spelledDocumentation _).append ((reads_spellings _).append
    ((reads_named _).append ((reads_mark ";" (by decide)).append
      ((reads_spelling "impl").append ((reads_path _).append ((reads_spellings _).append
        ((reads_named _).append ((reads_braces (reads_registryMethods listed)).append
          ((reads_spelledDocumentation _).append ((reads_spellings _).append
            ((reads_mark ":" (by decide)).append ((reads_path _).append
              ((reads_mark "=" (by decide)).append ((reads_path _).append
                ((reads_mark "::" (by decide)).append ((reads_spelling "new").append
                  ((reads_parentheses (reads_manifestArguments _ _)).append
                    ((reads_mark ";" (by decide)).map fun _ =>
                      registryOf listed))))))))))))))))))

end Rendered

/-- The code of a registry declares it. -/
theorem GeneratedRegistry.read?_registry (listed : Registry) :
    read? (Render.registry listed).tokens = some (Rendered.registryOf listed) := by
  rw [read?, Parser.run, (Rendered.reads_registry listed).all.runWithin]
  rfl

end DataAccess
