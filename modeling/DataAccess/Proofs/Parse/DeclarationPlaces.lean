/-
This file proves that what can be told of a declaration has its place among the tokens that were
read for it.
-/

import DataAccess.Declaration.Places
import DataAccess.Proofs.Parse.TypePlaces

namespace DataAccess

open DataAccess.Parser

/-- The comma behind what ends the inputs of a signature is read later. -/
def Parse.InputOrVariadic.Placed (known : Position → Prop) : Parse.InputOrVariadic → Prop
  | .input read => read.Placed known
  | .variadic read => ∀ comma, ({ read with comma := comma } : Variadic).code.Begins known

namespace Parse

open Code

set_option synthInstance.maxSize 8000

variable {known : Position → Prop} {grammar : Grammar} [Grammar.Forward grammar]

/-! What is told of attributes points to them. -/

/-- A path of names begins where its first name or its leading colons do. -/
theorem namePath_placed {leading : Option Position} {qualifier : List (Name × Position)}
    {last : Name} (leads : ∀ position ∈ leading, known position)
    (segments : ∀ segment ∈ qualifier, known segment.1.position) (at_ : known last.position) :
    known (NamePath.mk leading qualifier last).position ∧
      known (NamePath.mk leading qualifier last).first.position := by
  have first : known (NamePath.mk leading qualifier last).first.position := by
    cases qualifier with
    | nil => exact at_
    | cons segment others => exact segments segment (List.mem_cons_self ..)
  cases leading with
  | none => exact ⟨first, first⟩
  | some position => exact ⟨leads position rfl, first⟩

/-- The names of a path stand where they were read, by induction on how many may still follow. -/
theorem traces_namePathFrom {leading : Option Position} {fuel : Nat}
    {qualifier : List (Name × Position)} :
    Traces known (namePathFrom leading fuel qualifier) fun path =>
      (∀ position ∈ leading, known position) → (∀ segment ∈ qualifier, known segment.1.position) →
        known path.position ∧ known path.first.position := by
  induction fuel generalizing qualifier with
  | zero => exact .failExpected
  | succ fuel hypothesis =>
    unfold namePathFrom
    refine .skip fun _ => .ite (Traces.anyWord.bind fun name => .skip fun _ => .ite ?_ ?_) ?_
    · refine .skip fun colons => hypothesis.imp fun path placed at_ leads segments => ?_
      exact placed leads (List.forall_mem_cons.mpr ⟨at_, segments⟩)
    · refine .pure fun at_ leads segments => namePath_placed leads ?_ at_
      exact fun segment member => segments segment (List.mem_reverse.mp member)
    · refine .ite (Traces.identifier.bind fun name => .pure fun at_ leads _ => ?_) .failExpected
      exact namePath_placed leads (fun _ member => nomatch member) at_

/-- A path of names stands where it was read, and so does its first name. -/
theorem traces_namePath : Traces known namePath fun path =>
    known path.position ∧ known path.first.position := by
  unfold namePath
  refine Traces.mark?.bind fun leading => .skip fun _ => traces_namePathFrom.imp ?_
  exact fun path placed leads => placed leads fun _ member => nomatch member

/-- The path of an attribute stands where it was read, also where it is a keyword. -/
theorem traces_attributePath : Traces known attributePath fun path =>
    known path.position ∧ known path.first.position := by
  unfold attributePath
  refine .skip fun _ => .ite (Traces.anyWord.bind fun name => .pure fun at_ => ⟨at_, at_⟩) ?_
  exact traces_namePath

/-- The content of an attribute stands where it was read, with all tokens inside. -/
theorem traces_attributeContent :
    Traces known (attributeContent grammar) (AttributeContent.Placed known) := by
  unfold attributeContent
  refine fun standing => .look ?_
  split
  next delimiter opening closing inner rest =>
    refine .take ⟨[.group delimiter opening closing inner], rfl, fun all => ?_⟩
    rw [Token.allAt_group] at all
    exact ⟨all.2.2, all.2.1⟩
  next =>
    split
    next =>
      refine (?_ : Traces known _ (AttributeContent.Placed known)) standing
      exact Traces.mark.bind fun equals => .skip fun _ => .pure id
    next => exact .pure ⟨[], rfl, fun _ => trivial⟩

/-- An attribute stands where its parts were read. -/
theorem traces_attributeWith {inner : Bool} :
    Traces known (attributeWith grammar inner) (Attribute.Placed known) := by
  unfold attributeWith
  have inside : Traces known (do
      let path ← attributePath
      let content ← attributeContent grammar
      return (path, content)) fun found =>
        (known found.1.position ∧ known found.1.first.position) ∧ found.2.Placed known :=
    traces_attributePath.bind fun path => traces_attributeContent.bind fun content =>
      .pure fun content path => ⟨path, content⟩
  refine Traces.mark.bind fun pound => ?_
  extract_lets next
  have goesOn (bang : Option Position) :
      Traces known (next bang) fun mark => known pound → mark.Placed known := by
    refine (Traces.group inside.all).bind fun enclosed => .pure fun placed at_ => ?_
    exact ⟨at_, placed.2.2.1.1, placed.2.2.1.2, placed.2.2.2⟩
  clear_value next
  exact .ite (.skip goesOn) (.skip goesOn)

/-- The attributes in front of a declaration stand where they were read. -/
theorem traces_outerAttributes :
    Traces known (outerAttributes grammar) fun marks => ∀ mark ∈ marks, mark.Placed known := by
  unfold outerAttributes
  refine .repeatStep (.skip fun _ => .ite ?_ (.pure fun _ member => nomatch member))
  exact traces_attributeWith.bind fun _ => .pure fun placed _ member =>
    Option.some.inj member ▸ placed

/-- The attributes at the front of a body stand where they were read. -/
theorem traces_innerAttributes :
    Traces known (innerAttributes grammar) fun marks => ∀ mark ∈ marks, mark.Placed known := by
  unfold innerAttributes
  refine .repeatStep (.skip fun _ => .ite ?_ (.pure fun _ member => nomatch member))
  exact traces_attributeWith.bind fun _ => .pure fun placed _ member =>
    Option.some.inj member ▸ placed

/-- An attribute begins with its number sign, also where it is written as documentation. -/
theorem begins_attribute {mark : Attribute} (at_ : known mark.pound) :
    mark.code.Begins known := by
  have written : mark.written.Begins known := (begins_mark (by decide) at_).append.append
  unfold Attribute.code
  split
  next => exact (begins_leaveOut.mpr written).append
  next => exact written

/-- Attributes begin with the first one, if there is one. -/
theorem starts_attributes {marks : List Attribute} (placed : ∀ mark ∈ marks, mark.Placed known) :
    Starts known (marks.flatMap Attribute.code) := by
  cases marks with
  | nil => exact starts_nil
  | cons mark others =>
    exact .inr (begins_attribute (placed mark (List.mem_cons_self ..)).pound).append

/-- The attributes that are written in front are among all of them. -/
theorem starts_outerCode {marks : List Attribute} (placed : ∀ mark ∈ marks, mark.Placed known) :
    (Attribute.outerCode marks).Starts known :=
  starts_attributes fun mark member => placed mark (List.mem_filter.mp member).1

/-- Attributes that are kept as code begin where the first one was read. -/
theorem traces_outerAttributeCode : Traces known (outerAttributeCode grammar) (Starts known) :=
  traces_outerAttributes.bind fun _ => .pure starts_attributes

/-! Generics without parameters have no place. -/

/-- A lifetime parameter begins with its name. -/
theorem traces_lifetimeParameter : Traces known lifetimeParameter (Begins known) := by
  unfold lifetimeParameter
  refine traces_lifetimeCode.bind fun name => .skip fun _ => .ite ?_ (.pure id)
  refine .skip fun colon => .skip fun bounds => .ite (.pure id) (.pure fun begins => ?_)
  exact begins.append.append

/-- A type parameter begins with its name. -/
theorem traces_typeParameter : Traces known (typeParameter grammar) (Begins known) := by
  unfold typeParameter
  refine traces_identifierCode.bind fun name => .skip fun _ => ?_
  extract_lets next
  have goesOn (bounds : Code) :
      Traces known (next bounds) fun result => name.Begins known → result.Begins known := by
    refine .skip fun _ => .ite ?_ ?_
    · exact .skip fun _ => .skip fun _ => .skip fun _ => .pure fun begins => begins.append.append
    · exact .skip fun _ => .pure fun begins => begins.append.append
  clear_value next
  exact .ite (.skip fun _ => .skip fun _ => .skip goesOn) (.skip goesOn)

/-- A constant parameter begins with its keyword. -/
theorem traces_constantParameter : Traces known (constantParameter grammar) (Begins known) := by
  unfold constantParameter
  refine traces_keywordCode.bind fun keyword => .skip fun name => .skip fun colon => ?_
  refine .skip fun declared => .skip fun _ => .ite ?_ ?_
  · refine .skip fun _ => .skip fun _ => .skip fun _ => .pure fun begins => ?_
    exact begins.append.append.append.append
  · exact .skip fun _ => .pure fun begins => begins.append.append.append.append

/-- A generic parameter begins with its attributes or with what they belong to. -/
theorem traces_genericParameter :
    Traces known (genericParameter grammar) fun parameter => parameter.code.Begins known := by
  unfold genericParameter
  refine traces_outerAttributeCode.bind fun attributes => .skip fun _ => .ite ?_ ?_
  · exact traces_lifetimeParameter.bind fun _ => .pure fun begins starts => starts.append begins
  refine .skip fun _ => .ite ?_ (.skip fun _ => .ite ?_ (.skip fun _ => .ite ?_ .failExpected))
  · exact traces_typeParameter.bind fun _ => .pure fun begins starts => starts.append begins
  · exact traces_constantParameter.bind fun _ => .pure fun begins starts => starts.append begins
  · exact traces_anyWordCode.bind fun _ => .pure fun begins starts => starts.append begins

/-- Generic parameters stand where they were read, and so does the angle in front of them. -/
theorem traces_generics :
    Traces known (generics grammar) (Generics.Placed known) := by
  unfold generics
  refine .skip fun _ => .ite ?_
    (.pure ⟨fun present => absurd rfl present, fun _ member => nomatch member⟩)
  refine Traces.mark.bind fun opening => ?_
  refine (Traces.listUntil traces_genericParameter).bind fun list => ?_
  exact .skip fun _ => .pure fun list at_ => ⟨fun _ => at_, list⟩

/-! Parts of traits and their items -/

/-- The code of a path of names begins where the path does. -/
theorem begins_namePath {path : NamePath} (at_ : known path.position) : path.code.Begins known := by
  match path with
  | ⟨some position, _, _⟩ => exact (begins_mark (by decide) at_).append.append
  | ⟨none, [], last⟩ => exact begins_word at_
  | ⟨none, segment :: others, last⟩ =>
    exact begins_append_of_nil rfl ((begins_word at_).append.append) |>.append

/-- A body stands where its braces were read. -/
theorem traces_functionBody :
    Traces known (functionBody grammar) fun found =>
      (∀ mark ∈ found.1, mark.Placed known) ∧ known found.2.opening := by
  have inside : TracesAll known (do
      let attributes ← innerAttributes grammar
      return (attributes, BlockStatement.listCode (← grammar.statements))) fun found =>
        ∀ mark ∈ found.1, mark.Placed known :=
    .front traces_innerAttributes.all fun _ placed _ => Answers.any.bind fun _ _ _ => .pure placed
  unfold functionBody
  exact (Traces.group inside).bind fun _ => .pure fun placed => ⟨placed.2.2, placed.1⟩

/-- A constant begins with its keyword. -/
theorem traces_constant :
    Traces known (constant grammar) fun found => found.code.Begins known := by
  unfold constant
  refine traces_keywordCode.bind fun keyword => .skip fun _ => .skip fun _ => .skip fun _ => ?_
  refine .skip fun _ => .skip fun _ => .skip fun _ => ?_
  extract_lets next
  have goesOn (value : Code) : Traces known (next value) fun found =>
      keyword.Begins known → found.code.Begins known := by
    refine .skip fun _ => .skip fun _ => .pure fun begins => ?_
    exact begins.append.append.append.append.append.append
  clear_value next
  exact .ite (.skip fun _ => .skip fun _ => .skip goesOn) (.skip goesOn)

/-- The definition of a type begins with its keyword, on whichever side its conditions stand. -/
theorem traces_typeDefinition {place : ConditionPlace} :
    Traces known (typeDefinition grammar place) fun found => found.head.Begins known := by
  unfold typeDefinition
  refine traces_keywordCode.bind fun keyword => .skip fun _ => .skip fun _ => .skip fun _ => ?_
  extract_lets stops next
  have goesOn (bounds : Code) : Traces known (next bounds) fun found =>
      keyword.Begins known → found.head.Begins known := by
    refine .either fun early => .skip fun _ => ?_
    extract_lets last
    have ends (definition : Code) : Traces known (last definition) fun found =>
        keyword.Begins known → found.head.Begins known :=
      .either fun late => .skip fun _ => .pure fun begins => begins.append.append
    clear_value last
    exact .ite (.skip fun _ => .skip fun _ => .skip ends) (.skip ends)
  clear_value next
  exact .ite (.skip goesOn) (.skip fun _ => .skip goesOn)

/-- An associated type begins with its keyword. -/
theorem traces_traitType : Traces known (traitType grammar) (Begins known) := by
  unfold traitType
  exact traces_typeDefinition.bind fun _ => .pure fun begins => begins.append.append.append.append

/-- The call of a macro begins with the path to it. -/
theorem traces_itemInvocation : Traces known itemInvocation (Begins known) := by
  unfold itemInvocation
  refine traces_namePath.bind fun path => .skip fun ⟨delimiter, body⟩ => ?_
  exact .either fun _ => .pure fun placed => (begins_namePath placed.1).append.append

/-! What is told of a signature points to a part of it. -/

/-- A receiver begins with its attributes, its ampersand, its keyword or itself. -/
theorem begins_receiver {attributes : List Attribute} {reference : Option (Position × Option Name)}
    {mutability : Option Position} {self : Position} {ascription : Option (Position × DeclaredType)}
    (placed : ∀ mark ∈ attributes, mark.Placed known)
    (referred : ∀ pair ∈ reference, known pair.1)
    (mutable : ∀ position ∈ mutability, known position) (at_ : known self) :
    (Input.receiver attributes reference mutability self ascription).code.Begins known := by
  unfold Input.code
  refine ((starts_append (starts_append (starts_outerCode placed) ?_)
    (starts_keyword? mutable)).append (begins_keyword at_)).append
  match reference with
  | none => exact starts_nil
  | some (ampersand, none) => exact .inr (begins_mark (by decide) (referred _ rfl))
  | some (ampersand, some name) => exact .inr (begins_mark (by decide) (referred _ rfl)).append

/-- A receiver stands where it was read, whether it is typed or not. -/
theorem traces_receiver {attributes : List Attribute} :
    Traces known (receiver grammar attributes) fun input =>
      (∀ mark ∈ attributes, mark.Placed known) → input.Placed known := by
  unfold receiver
  refine .skip fun _ => ?_
  extract_lets next
  have goesOn (reference : Option (Position × Option Name)) :
      Traces known (next reference) fun input =>
        (∀ pair ∈ reference, known pair.1) →
          (∀ mark ∈ attributes, mark.Placed known) → input.Placed known := by
    refine Traces.keyword?.bind fun mutability => Traces.keyword.bind fun self => ?_
    refine .skip fun _ => ?_
    extract_lets typed last
    have ends (colon : Option Position) : Traces known (typed colon) fun input => known self →
        (∀ position ∈ mutability, known position) → (∀ pair ∈ reference, known pair.1) →
          (∀ mark ∈ attributes, mark.Placed known) → input.Placed known := by
      cases colon with
      | none =>
        exact .pure fun at_ mutable referred placed => begins_receiver placed referred mutable at_
      | some position =>
        refine .skip fun _ => .pure fun at_ mutable referred placed => ?_
        exact begins_receiver placed referred mutable at_
    clear_value typed
    exact .ite (.skip fun _ => .ite (.skip ends) (.skip ends)) (.ite (.skip ends) (.skip ends))
  clear_value next
  refine .ite ?_ ?_
  · refine Traces.mark.bind fun ampersand => .skip fun name => ?_
    exact (goesOn (some (ampersand, name))).imp fun _ holds at_ => holds fun _ member =>
      Option.some.inj member ▸ at_
  · exact (goesOn none).imp fun _ holds => holds fun _ member => nomatch member

variable [Grammar.Traced grammar]

omit [Grammar.Forward grammar] in
/-- A typed input stands where it was read, and so do its pattern and its type. -/
theorem traces_typedInput {attributes : List Attribute} :
    Traces known (typedInput grammar attributes) fun found =>
      (∀ mark ∈ attributes, mark.Placed known) → found.Placed known := by
  unfold typedInput
  refine .skip fun _ => .ite ?_ ?_
  · apply Traces.of_passed
    refine fun standing => .positioned fun start starts => ?_
    have reads (known : Position → Prop) : Traces known (grammar.type true) fun declared =>
        declared.code.Begins known :=
      Grammar.Traced.type known true
    refine (Answers.of_traces reads).bind fun declared rest passed => .pure ?_
    obtain ⟨token, consumed, same, begins⟩ := passed.exists_token fun ⟨_, _, _, at_⟩ => at_
    refine ⟨token :: consumed, same, fun known all placed => ?_⟩
    have at_ : known start := starts _ _ same ▸ Token.position_of_allAt all
    have pattern : (Code.keyword "_" start).Begins known := begins_keyword at_
    exact ⟨((starts_outerCode placed).append pattern).append.append, pattern, begins known all⟩
  · refine (Grammar.Traced.pattern known).bind fun pattern => .skip fun colon => ?_
    refine .skip fun _ => .ite ?_ ?_
    · refine .skip fun dots => .pure fun begins placed comma => ?_
      exact ((starts_outerCode placed).append begins.append).append.append
    · refine (Grammar.Traced.type known true).bind fun declared => ?_
      refine .pure fun typed begins placed => ?_
      exact ⟨((starts_outerCode placed).append begins).append.append, begins, typed⟩

/-- An input or what ends the inputs stands where it was read. -/
theorem traces_inputOrVariadic :
    Traces known (inputOrVariadic grammar) (InputOrVariadic.Placed known) := by
  unfold inputOrVariadic
  refine traces_outerAttributes.bind fun attributes => .skip fun _ => .ite ?_ ?_
  · refine Traces.mark.bind fun dots => .pure fun at_ placed comma => ?_
    have begins : (Code.mark "..." dots).Begins known := begins_mark (by decide) at_
    exact ((starts_append (starts_outerCode placed) starts_nil).append begins).append
  · refine (Traces.attempt traces_receiver).bind fun found => ?_
    cases found with
    | some input => exact .pure fun read placed => read input rfl placed
    | none => exact traces_typedInput.imp fun _ holds _ => holds

/-- The inputs of a signature, and what ends them. -/
theorem traces_inputsFrom {fuel : Nat} {found : List (Separated Input)} :
    Traces known (inputsFrom grammar fuel found) fun read =>
      (∀ input ∈ found, input.entry.Placed known) →
        (∀ input ∈ read.1, input.entry.Placed known) ∧
          ∀ variadic ∈ read.2, variadic.code.Begins known := by
  have none_variadic : ∀ variadic ∈ (none : Option Variadic), variadic.code.Begins known :=
    fun _ member => nomatch member
  have reversed {inputs : List (Separated Input)}
      (placed : ∀ input ∈ inputs, input.entry.Placed known) :
      ∀ input ∈ inputs.reverse, input.entry.Placed known :=
    fun input member => placed input (List.mem_reverse.mp member)
  induction fuel generalizing found with
  | zero => exact .pure fun placed => ⟨reversed placed, none_variadic⟩
  | succ fuel hypothesis =>
    unfold inputsFrom
    refine .skip fun _ => .ite (.pure fun placed => ⟨reversed placed, none_variadic⟩) ?_
    refine traces_inputOrVariadic.bind fun next => ?_
    split
    next variadic =>
      refine .skip fun _ => .either fun comma => .pure fun at_ placed => ?_
      exact ⟨reversed placed, fun _ member => Option.some.inj member ▸ at_ comma⟩
    next input =>
      refine .skip fun _ => .skip fun _ => .ite (.pure fun at_ placed => ?_) ?_
      · exact ⟨reversed (List.forall_mem_cons.mpr ⟨at_, placed⟩), none_variadic⟩
      · refine .skip fun comma => hypothesis.imp fun read holds at_ placed => holds ?_
        exact List.forall_mem_cons.mpr ⟨at_, placed⟩

/-- The inputs of a signature stand where they were read. -/
theorem traces_inputs :
    Traces known (inputs grammar) fun read =>
      (∀ input ∈ read.1, input.entry.Placed known) ∧
        ∀ variadic ∈ read.2, variadic.code.Begins known :=
  .skip fun _ => traces_inputsFrom.imp fun _ holds => holds fun _ member => nomatch member

omit [Grammar.Forward grammar] in
/-- The return type of a function stands where it was read, if there is one. -/
theorem traces_returnType :
    Traces known (returnType grammar) fun output =>
      ∀ declared ∈ output, declared.declared.code.Begins known := by
  unfold returnType
  refine .skip fun arrow => ?_
  split
  next =>
    refine (Grammar.Traced.type known true).bind fun _ => .pure fun begins _ member => ?_
    exact Option.some.inj member ▸ begins
  next => exact .pure fun _ => by simp

/-- The parts of a signature stand where they were read. -/
theorem traces_signatureOf {allowSafe : Bool} :
    Traces known (signatureOf grammar allowSafe) fun found => found.1.Placed known := by
  unfold signatureOf
  refine Traces.keyword?.bind fun constness => Traces.keyword?.bind fun asyncness => ?_
  refine Traces.keyword?.bind fun unsafety => ?_
  refine .either fun safe => ?_
  refine traces_abi.bind fun abi => .skip fun keyword => Traces.identifier.bind fun name => ?_
  refine traces_generics.bind fun generics => ?_
  refine (Traces.group traces_inputs.all).bind fun enclosed => ?_
  refine traces_returnType.bind fun output => .skip fun conditions => .pure ?_
  exact fun output inputs generics name abi unsafety asyncness constness =>
    ⟨constness, asyncness, unsafety, abi, name, ⟨generics.opening, generics.parameters⟩,
      inputs.2.2.1, inputs.2.2.2, output⟩

/-- The signature of a method stands where it was read. -/
theorem traces_signature : Traces known (signature grammar) (Signature.Placed known) := by
  unfold signature
  exact traces_signatureOf.bind fun _ => .pure id

/-! What is told of a trait or its items points to a part of it. -/

/-- A method of a trait stands where it was read, with the attributes of its body. -/
theorem traces_traitMethod {attributes : List Attribute} :
    Traces known (traitMethod grammar attributes) fun method =>
      (∀ mark ∈ attributes, mark.Placed known) → method.Placed known := by
  unfold traitMethod
  refine traces_signature.bind fun signature => .skip fun _ => .ite ?_ (.skip fun _ => .ite ?_ ?_)
  · refine traces_functionBody.bind fun ⟨inner, body⟩ => .pure fun ends signature placed => ?_
    refine ⟨fun mark member => ?_, signature, fun _ member => Option.some.inj member ▸ ends.2⟩
    cases List.mem_append.mp member with
    | inl outer => exact placed mark outer
    | inr inner => exact ends.1 mark inner
  · refine .skip fun _ => .pure fun signature placed => ?_
    exact ⟨placed, signature, fun _ member => nomatch member⟩
  · exact .failExpected

/-- An item of a trait cannot stand where nothing is known. -/
theorem not_placed_false (item : TraitItem) : ¬ item.Placed fun _ => False :=
  match item with
  | .method _ => fun placed => placed.signature.name
  | .other _ => fun ⟨_, _, _, at_⟩ => at_

/-- An item of a trait stands where it was read, and tokens that are kept instead of it do so
too. -/
theorem traces_traitItem :
    Traces known (traitItem grammar) (TraitItem.Placed known) := by
  unfold traitItem
  have attributed (known : Position → Prop) :
      Traces known (outerAttributes grammar) fun marks => ∀ mark ∈ marks, mark.Placed known :=
    traces_outerAttributes
  refine .of_passed fun beginning => .look ((Answers.of_traces attributed).bind
    fun attributes _ passed => .skip fun exposure _ before => .skip fun defaultness _ behind => ?_)
  extract_lets plain front unchanged next
  refine .peeked fun _ => .skip fun signed standing behind' => ?_
  have passed := passed.later (behind'.trans (behind.trans before))
  have keeps {rest : List Token} {found : TraitItem}
      (passed : Passed beginning rest fun known => found.Placed known) :
      Answers rest unchanged fun item rest =>
        Passed beginning rest fun known => item.Placed known :=
    (Answers.refusedSince passed (not_placed_false found)).bind fun _ _ kept => .pure kept
  have ends (found : TraitItem) (rest : List Token)
      (passed : Passed beginning rest fun known => found.Placed known) :
      Answers rest (next found) fun item rest =>
        Passed beginning rest fun known => item.Placed known := by
    dsimp only [next]
    split
    next => exact .pure passed
    next => exact keeps passed
  clear_value next unchanged
  have reads {Read : Type} {parser : Parser Read} {convert : Read → TraitItem}
      (traces : ∀ known, Traces known parser fun found =>
        (∀ mark ∈ attributes, mark.Placed known) → (convert found).Placed known) :
      Answers standing (parser >>= fun found => pure (convert found) >>= next) fun item rest =>
        Passed beginning rest fun known => item.Placed known :=
    (Answers.of_traces traces).bind fun found rest further => ends (convert found) rest <|
      (passed.trans further).imp fun _ ⟨placed, holds⟩ => holds placed
  have other {parser : Parser Code} (traces : ∀ known, Traces known parser (Begins known)) :
      Answers standing (parser >>= fun found => pure (TraitItem.other (front ++ found)) >>= next)
        fun item rest => Passed beginning rest fun known => item.Placed known :=
    reads fun known => (traces known).imp fun _ begins placed =>
      (starts_outerCode placed).append begins
  have method : Answers standing (traitMethod grammar attributes >>= fun found =>
      pure (TraitItem.method found) >>= next) fun item rest =>
        Passed beginning rest fun known => item.Placed known :=
    reads fun known => traces_traitMethod
  split
  next => exact method
  next =>
    refine .peeked fun _ => ?_
    split
    next =>
      refine .look ?_
      split
      next =>
        have reads (known : Position → Prop) :
            Traces known (constant grammar) fun found => found.code.Begins known :=
          traces_constant
        refine (Answers.of_traces reads).bind fun found rest further => ?_
        have passed : Passed beginning rest fun known =>
            (TraitItem.other (front ++ found.code)).Placed known :=
          (passed.trans further).imp fun _ ⟨placed, begins⟩ =>
            (starts_outerCode placed).append begins
        split
        next => exact (keeps passed).bind ends
        next => exact ends _ _ passed
      next =>
        split
        next => exact method
        next => exact .skip fun _ _ _ => .failing
    next =>
      refine .peeked fun _ => ?_
      split
      next => exact other fun known => traces_traitType
      next =>
        refine .peeked fun _ => ?_
        split
        next => exact other fun known => traces_itemInvocation
        next =>
          split
          next => exact .failing
          next => exact .failing

omit [Grammar.Forward grammar] in
/-- The traits that a trait extends stand where they were read. -/
theorem traces_supertraits :
    Traces known (supertraits grammar) fun found =>
      ∀ bound ∈ found.2, bound.entry.code.Begins known := by
  unfold supertraits
  refine .skip fun colon => ?_
  split
  next => exact .pure fun _ => by simp
  next =>
    exact (Traces.listUntil (Grammar.Traced.bound known false true)).bind fun _ => .pure id

/-- The rest of a trait stands where it was read. -/
theorem traces_traitRest {attributes : List Attribute} {visibility : Code}
    {unsafety automatic : Option Position} {keyword : Position} {name : Name}
    {generics : Generics} :
    Traces known (traitRest grammar attributes visibility unsafety automatic keyword name generics)
      fun declaration => (∀ position ∈ unsafety, known position) →
        (∀ position ∈ automatic, known position) → generics.Placed known →
          declaration.Placed known := by
  unfold traitRest
  have inside : Traces known (do
      let inner ← innerAttributes grammar
      let items ← untilEmpty (traitItem grammar)
      return (inner, items)) fun found => ∀ item ∈ found.2, item.Placed known :=
    .skip fun _ => (Traces.untilEmpty traces_traitItem).bind fun _ => .pure id
  refine traces_supertraits.bind fun ⟨colon, supertraits⟩ => .skip fun conditions => ?_
  refine (Traces.group inside.all).bind fun enclosed => .pure ?_
  exact fun items bounds unsafety automatic generics =>
    ⟨unsafety, automatic, ⟨generics.opening, generics.parameters⟩, bounds, items.2.2⟩

/-- A trait stands where it was read. -/
theorem traces_traitDeclaration :
    Traces known (traitDeclaration grammar) (TraitDeclaration.Placed known) := by
  unfold traitDeclaration
  refine .skip fun _ => .skip fun _ => Traces.keyword?.bind fun unsafety => ?_
  refine Traces.keyword?.bind fun automatic => .skip fun _ => .skip fun _ => ?_
  refine traces_generics.bind fun generics => traces_traitRest.imp ?_
  exact fun _ placed generics automatic unsafety => placed unsafety automatic generics

end Parse

end DataAccess
