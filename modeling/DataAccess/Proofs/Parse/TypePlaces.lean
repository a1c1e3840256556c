/-
This file proves that types, bounds and patterns begin at tokens that were read for them.
-/

import DataAccess.Proofs.Parse.ForwardGrammar
import DataAccess.Proofs.Parse.Traces

namespace DataAccess

open DataAccess.Parser

/-- Types, bounds and patterns begin at tokens that the grammar reads for them. -/
class Grammar.Traced (grammar : Grammar) : Prop where
  type : ∀ known allowPlus,
    Traces known (grammar.type allowPlus) fun declared => declared.code.Begins known
  bound : ∀ known allowCapture allowConstant,
    Traces known (grammar.bound allowCapture allowConstant) fun bound => bound.code.Begins known
  pattern : ∀ known, Traces known grammar.pattern fun pattern => pattern.code.Begins known

namespace Parse

open Code

set_option synthInstance.maxSize 8000

variable {known : Position → Prop} {grammar : Grammar} [Grammar.Forward grammar]

/-- The code of a mark begins where the mark was read. -/
theorem traces_markCode {spelling : String} (nonempty : spelling.toList ≠ []) :
    Traces known (markCode spelling) (Begins known) :=
  Traces.mark.bind fun _ => .pure (begins_mark nonempty)

/-- The code of a mark that can be absent begins where it was read, if it was. -/
theorem traces_markCode? {spelling : String} (nonempty : spelling.toList ≠ []) :
    Traces known (markCode? spelling) (Starts known) := by
  refine .skip fun _ => ?_
  split
  next => exact (traces_markCode nonempty).imp fun _ => .inr
  next => exact .pure starts_nil

/-- The code of a keyword begins where the keyword was read. -/
theorem traces_keywordCode {spelling : String} :
    Traces known (keywordCode spelling) (Begins known) :=
  Traces.keyword.bind fun _ => .pure begins_keyword

/-- The code of a keyword that can be absent begins where it was read, if it was. -/
theorem traces_keywordCode? {spelling : String} :
    Traces known (keywordCode? spelling) (Starts known) := by
  refine .skip fun _ => ?_
  split
  next => exact traces_keywordCode.imp fun _ => .inr
  next => exact .pure starts_nil

/-- The code of an identifier begins where the identifier was read. -/
theorem traces_identifierCode : Traces known identifierCode (Begins known) :=
  Traces.identifier.bind fun _ => .pure begins_word

/-- The code of a word begins where the word was read. -/
theorem traces_anyWordCode : Traces known anyWordCode (Begins known) :=
  Traces.anyWord.bind fun _ => .pure begins_word

/-- The code of a lifetime begins where the lifetime was read. -/
theorem traces_lifetimeCode : Traces known lifetimeCode (Begins known) :=
  Traces.lifetime.bind fun _ => .pure begins_lifetime

/-- The code of a group begins where its opening delimiter was read. -/
theorem traces_groupCode {delimiter : Delimiter} {inside : Parser Code} :
    Traces known (groupCode delimiter inside) (Begins known) :=
  Traces.delimiters.bind fun _ => .pure fun at_ => begins_group at_.1

/-- The code of a literal begins where it was read, also if it is kept because nothing knows it. -/
theorem traces_literalCode : Traces known literalCode (Begins known) := by
  have reads : Traces known literal fun read =>
      ∃ first more, read = first :: more ∧ known first.position := by
    refine fun _ => Answers.literal.imp ?_
    rintro _ _ ⟨_, _, same, behind, first, more, read, at_⟩
    exact Traces.of_head same behind fun known => ⟨first, more, read, at_ ▸ known⟩
  refine reads.bind fun read => ?_
  split
  next =>
    split
    next =>
      refine .pure ?_
      rintro ⟨first, more, same, at_⟩
      cases same
      exact begins_refuse at_
    next =>
      refine .pure ?_
      rintro ⟨first, more, same, at_⟩
      cases same
      exact ⟨_, _, rfl, at_⟩
  next =>
    refine .pure ?_
    rintro ⟨first, more, same, at_⟩
    cases same
    exact ⟨_, _, rfl, at_⟩

/-! Paths begin at their first names. -/

/-- A segment is placed by its name. -/
theorem traces_segment {style : PathStyle} :
    Traces known (segment grammar style) fun found => known found.1.position := by
  unfold segment
  refine .skip fun _ => ?_
  split
  next => exact Traces.anyWord.bind fun _ => .pure id
  next =>
    refine .skip fun _ => .branch _ .anyWord .identifier fun name => .skip fun _ => ?_
    split
    next => exact .skip fun _ => .pure id
    next => exact .pure id

/-- What qualifies the last segment of a path begins at a known place. -/
def SegmentPath.Placed (known : Position → Prop) (path : SegmentPath) : Prop :=
  path.qualifier.Starts known ∧ known path.last.position

/-- A path that is placed begins at a known place, however its arguments are written. -/
theorem SegmentPath.Placed.begins {path : SegmentPath} (placed : path.Placed known)
    (style : PathStyle) : (path.code style).Begins known :=
  (placed.1.append (begins_word placed.2)).append

/-- Further segments leave a path placed, by induction on how many may still follow. -/
theorem traces_pathRestFrom {style : PathStyle} {fuel : Nat} {found : SegmentPath} :
    Traces known (pathRestFrom grammar style fuel found) fun path =>
      found.Placed known → path.Placed known := by
  induction fuel generalizing found with
  | zero => exact .pure id
  | succ fuel hypothesis =>
    unfold pathRestFrom
    refine .skip fun _ => ?_
    split
    next =>
      refine .skip fun colons => traces_segment.bind fun segment => ?_
      exact hypothesis.imp fun path holds last placed => holds
        ⟨.inr (placed.begins style).append, last⟩
    next => exact .pure id

/-- A path is placed by its leading colons or its first name. -/
theorem traces_path {style : PathStyle} :
    Traces known (path grammar style) (SegmentPath.Placed known) := by
  unfold path
  refine (traces_markCode? (by decide)).bind fun leading => traces_segment.bind fun segment => ?_
  refine .skip fun _ => traces_pathRestFrom.imp fun path holds last leads => holds ⟨leads, last⟩

/-- A path that begins with a qualified type begins with the opening angle. -/
theorem traces_qualifiedPath {style : PathStyle} :
    Traces known (qualifiedPath grammar style) (Begins known) := by
  unfold qualifiedPath
  refine (traces_markCode (by decide)).bind fun opening => .skip fun this => .skip fun _ => ?_
  extract_lets next
  have goesOn (trait : Code) :
      Traces known (next trait) fun result => opening.Begins known → result.Begins known := by
    refine .skip fun closing => .skip fun colons => .skip fun ⟨name, arguments⟩ => .skip fun _ => ?_
    exact .skip fun rest => .pure fun opens =>
      opens.append.append.append.append.append.append.append
  clear_value next
  split
  next => exact .skip fun _ => .skip fun _ => .skip goesOn
  next => exact .skip goesOn

/-! Bounds begin at what was read for them. -/

/-- A binder begins with its keyword. -/
theorem traces_binder : Traces known (binder grammar) (Begins known) := by
  unfold binder
  refine traces_keywordCode.bind fun keyword => .skip fun opening => .skip fun list => ?_
  exact .skip fun closing => .pure fun begins => begins.append.append.append

/-- A binder that can be absent begins with its keyword, if it is there. -/
theorem traces_binder? : Traces known (binder? grammar) (Starts known) := by
  unfold binder?
  refine .skip fun _ => ?_
  split
  next => exact traces_binder.imp fun _ => .inr
  next => exact .pure starts_nil

/-- A bound with a name begins with its question mark, its binder or its path, whichever comes
first. -/
theorem begins_named {relaxation : Option Position} {binder : Code} {named : SegmentPath}
    {arguments : Arguments} (relaxed : ∀ position ∈ relaxation, known position)
    (binds : binder.Starts known) (placed : named.Placed known) :
    (Bound.named none relaxation binder named.qualifier named.last
      arguments).code.Begins known := by
  cases relaxation with
  | none =>
    have starts := binds.append (placed.1.append (begins_word placed.2))
    simpa [Bound.code, Code.word] using starts.append
  | some position =>
    exact (begins_mark (by decide) (relaxed position rfl)).append.append.append.append

/-- A bound with a name begins where it was read, wherever its binder stands. -/
theorem traces_namedBound {allowConstant : Bool} :
    Traces known (namedBound grammar allowConstant) fun found => found.1.code.Begins known := by
  unfold namedBound
  refine traces_binder?.bind fun early => .skip fun constant => ?_
  refine Traces.mark?.bind fun relaxation => ?_
  refine .branch (fun binder => early.Starts known → binder.Starts known)
    (traces_binder?.imp fun _ binds _ => binds) (.pure id) fun binder => ?_
  refine traces_path.bind fun named => .skip fun _ => ?_
  extract_lets next
  have goesOn (arguments : Arguments) : Traces known (next arguments) fun result =>
      named.Placed known → (early.Starts known → binder.Starts known) →
        (∀ position ∈ relaxation, known position) → early.Starts known →
          result.1.code.Begins known := by
    dsimp only [next]
    cases relaxation with
    | none =>
      exact .pure fun placed binds relaxed starts => begins_named relaxed (binds starts) placed
    | some position =>
      refine .ite .failAt (.pure fun placed binds relaxed starts => ?_)
      exact begins_named relaxed (binds starts) placed
  clear_value next
  split
  next => exact .skip fun _ => .skip fun _ => .skip goesOn
  next => exact .skip goesOn

/-- A list of captures begins with its keyword. -/
theorem traces_capture {allowed : Bool} : Traces known (capture allowed) (Begins known) := by
  unfold capture
  refine .skip fun start => traces_keywordCode.bind fun keyword => .skip fun opening => ?_
  refine .skip fun _ => .skip fun list => .skip fun closing => ?_
  split
  next => exact .pure fun begins => begins.append.append.append
  next => exact .failAt

/-- Parentheses around a bound take over its beginning where they are kept. -/
theorem begins_withEnclosure {opening closing : Position} {bound : Bound} (at_ : known opening)
    (begins : bound.code.Begins known) :
    (withEnclosure opening closing bound).code.Begins known := by
  cases bound with
  | named => exact begins_group at_
  | constant tokens => exact begins
  | other code => exact begins

/-- A bound begins where it was read, whichever kind it is of. -/
theorem traces_bound {allowCapture allowConstant : Bool} :
    Traces known (bound grammar allowCapture allowConstant) fun bound =>
      bound.code.Begins known := by
  unfold bound
  refine .skip fun _ => .ite (traces_lifetimeCode.bind fun _ => .pure id) (.skip fun _ => ?_)
  refine .ite (traces_capture.bind fun _ => .pure id) ?_
  apply Traces.of_passed
  refine fun start => .look (.peeked fun _ => ?_)
  extract_lets next
  -- A constant bound is printed as it stands, which is not nothing.
  have goesOn (pair : Bound × Bool) (rest : List Token)
      (passed : Passed start rest fun known => pair.1.code.Begins known) :
      Answers rest (next pair) fun result rest =>
        Passed start rest fun known => result.code.Begins known := by
    dsimp only [next]
    split
    next =>
      refine (Answers.sinceStart passed fun ⟨_, _, _, at_⟩ => at_).bind fun tokens left kept => ?_
      exact .pure (kept.imp fun _ ⟨_, _, same, at_⟩ => same ▸ begins_refuse at_)
    next => exact .pure passed
  clear_value next
  split
  next =>
    have reads (known : Position → Prop) :
        Traces known (group .parenthesis (namedBound grammar allowConstant)) fun enclosed =>
          known enclosed.opening ∧ known enclosed.closing ∧
            enclosed.value.1.code.Begins known :=
      Traces.group traces_namedBound.all
    refine (Answers.of_traces reads).bind fun enclosed rest passed => goesOn _ _ ?_
    exact passed.imp fun known placed => begins_withEnclosure placed.1 placed.2.2
  next =>
    have reads (known : Position → Prop) :
        Traces known (namedBound grammar allowConstant) fun found => found.1.code.Begins known :=
      traces_namedBound
    exact (Answers.of_traces reads).bind goesOn

/-- A list of bounds begins with the first one. -/
theorem begins_boundsCode {bound : Bound} {separator : Option Position}
    {rest : List (Separated Bound)} (begins : bound.code.Begins known) :
    (boundsCode (⟨bound, separator⟩ :: rest)).Begins known :=
  begins_separated begins

/-! Types begin at what was read for them. -/

/-- A trait object that is marked as one begins with its keyword. -/
theorem traces_dynType {allowPlus : Bool} :
    Traces known (dynType grammar allowPlus) (Begins known) := by
  unfold dynType
  refine .of_passed fun standing => .look (.positioned fun start _ => ?_)
  have reads (known : Position → Prop) : Traces known (keywordCode "dyn") (Begins known) :=
    traces_keywordCode
  refine (Answers.of_traces reads).bind fun keyword _ passed => ?_
  refine .skip fun star _ before => .skip fun bounds rest behind => ?_
  have passed := passed.later (behind.trans before)
  split
  next => exact .refusedSince passed fun ⟨_, _, _, at_⟩ => at_
  next => exact .pure (passed.imp fun _ begins => begins.append)

/-- An opaque type begins with its keyword. -/
theorem traces_opaqueType {allowPlus : Bool} :
    Traces known (opaqueType grammar allowPlus) (Begins known) := by
  unfold opaqueType
  refine .skip fun _ => traces_keywordCode.bind fun keyword => .skip fun bounds => ?_
  exact .ite (.pure fun begins => begins.append) .failAt

/-- A type in parentheses begins with the opening one. -/
theorem traces_parenthesizedType {allowPlus : Bool} :
    Traces known (parenthesizedType grammar allowPlus) fun reading =>
      reading.type.code.Begins known := by
  unfold parenthesizedType
  refine Traces.delimiters.bind fun enclosed => ?_
  dsimp only
  split
  next => exact .pure fun at_ => begins_group at_.1
  next => exact .pure fun at_ => begins_group at_.1
  next => exact .skip fun _ => .pure fun at_ => (begins_group at_.1).append
  next =>
    refine .skip fun _ => ?_
    split
    next => exact .skip fun _ => .pure fun at_ => (begins_group at_.1).append
    next => exact .pure fun at_ => begins_group at_.1

/-- The name of a calling convention stands where it was read. -/
theorem traces_abi : Traces known abi fun abi => ∀ found ∈ abi, known found.position := by
  unfold abi
  refine Traces.keyword?.bind fun keyword => ?_
  cases keyword with
  | none => exact .pure fun _ _ member => nomatch member
  | some position =>
    refine .skip fun _ => .ite (.skip fun _ => .pure ?_) (.pure ?_)
    · exact fun at_ _ member => Option.some.inj member ▸ at_ _ rfl
    · exact fun at_ _ member => Option.some.inj member ▸ at_ _ rfl

/-- A calling convention begins with its keyword, if it is there. -/
theorem traces_abiCode : Traces known abiCode (Starts known) := by
  unfold abiCode
  refine traces_abi.bind fun abi => ?_
  cases abi with
  | none => exact .pure fun _ => starts_nil
  | some abi => exact .pure fun at_ => .inr (begins_keyword (at_ abi rfl)).append

/-- A function type begins with its first qualifier or its keyword. -/
theorem traces_functionType : Traces known (functionType grammar) (Begins known) := by
  unfold functionType
  refine traces_keywordCode?.bind fun unsafety => traces_abiCode.bind fun abi => ?_
  refine traces_keywordCode.bind fun keyword => .skip fun inputs => .skip fun output => ?_
  exact .pure fun begins abi unsafety => ((starts_append unsafety abi).append begins).append.append

/-- A type that begins with a path begins with the binder in front of it or where the path was
read. -/
theorem traces_namedType {binder : Code} {allowPlus : Bool} :
    Traces known (namedType grammar binder allowPlus) fun reading =>
      binder.Starts known → reading.type.code.Begins known := by
  unfold namedType
  refine .skip fun _ => .ite (traces_qualifiedPath.bind fun _ => .pure fun begins _ => begins) ?_
  refine traces_path.bind fun found => .skip fun _ => .ite ?_ (.skip fun _ => .ite ?_ ?_)
  · exact .skip fun _ => .pure fun placed _ => (placed.begins .type).append
  · refine .skip fun plus => .skip fun further => .pure fun placed binds => ?_
    exact begins_separated (binds.append (placed.begins .type))
  · refine .ite (.pure fun placed binds => ?_) (.pure fun placed _ => placed.begins .type)
    exact binds.append (placed.begins .type)

/-- A pointer type begins with its star. -/
theorem traces_pointerType : Traces known (pointerType grammar) (Begins known) := by
  unfold pointerType
  refine (traces_markCode (by decide)).bind fun star => .skip fun _ => ?_
  extract_lets next
  have goesOn (qualifier : Code) :
      Traces known (next qualifier) fun result => star.Begins known → result.Begins known :=
    .skip fun _ => .pure fun begins => begins.append.append
  clear_value next
  exact .skip fun _ => .ite (.skip goesOn) (.ite (.skip goesOn) (.skip goesOn))

/-- A reference type begins with its ampersand. -/
theorem traces_referenceType :
    Traces known (referenceType grammar) fun declared => declared.code.Begins known := by
  unfold referenceType
  refine Traces.mark.bind fun ampersand => .skip fun _ => .skip fun _ => .skip fun _ => ?_
  refine .pure fun at_ => ?_
  unfold DeclaredType.code
  exact (begins_mark (by decide) at_).append.append.append

/-- A type behind a binder begins with the binder. -/
theorem traces_boundType {allowPlus : Bool} :
    Traces known (boundType grammar allowPlus) fun reading => reading.type.code.Begins known := by
  unfold boundType
  refine traces_binder.bind fun binder => .skip fun _ => .ite ?_ (.skip fun _ => .ite ?_ ?_)
  · exact .skip fun _ => .pure fun binds => binds.append
  · exact traces_namedType.imp fun _ begins binds => begins (.inr binds)
  · exact .failExpected

/-! Patterns begin at what was read for them. -/

/-- A limit of a range begins where it was read. -/
theorem traces_rangeLimit : Traces known (rangeLimit grammar) (Begins known) := by
  unfold rangeLimit
  refine .skip fun next => .ite traces_literalCode (.ite ?_ (.ite traces_qualifiedPath ?_))
  · exact traces_path.bind fun _ => .pure fun placed => placed.begins .expression
  · refine .ite ?_ .failExpected
    exact traces_keywordCode.bind fun _ => .skip fun _ => .pure fun begins => begins.append

/-- The dots of a range stand where they were read. -/
theorem traces_rangeDots : Traces known (rangeDots false) fun dots => dots.code.Begins known := by
  unfold rangeDots
  refine .skip fun start => .skip fun _ => .ite ?_ (.skip fun _ => .ite ?_ ?_)
  · exact (traces_markCode (by decide)).bind fun _ => .pure id
  · exact .failExpected
  · exact (traces_markCode (by decide)).bind fun _ => .pure id

/-- A range pattern without a lower limit begins with its dots. -/
theorem traces_openRangePattern :
    Traces known (openRangePattern grammar) fun pattern => pattern.code.Begins known := by
  have traces_rangeRest :
      Traces known (rangeRest grammar false) fun found => found.1.code.Begins known := by
    refine traces_rangeDots.bind fun dots => .skip fun _ => .ite ?_ ?_
    · exact .ite .failExpected (.pure id)
    · exact .skip fun _ => .pure id
  unfold openRangePattern
  refine traces_rangeRest.bind fun found => ?_
  split
  next => exact .pure id
  next => exact .pure fun begins => begins.append

/-- A range pattern begins with its lower limit. -/
theorem traces_limitPattern {lower : Code} :
    Traces known (limitPattern grammar lower) fun pattern =>
      lower.Begins known → pattern.code.Begins known := by
  unfold limitPattern
  refine .skip fun _ => .ite (.skip fun found => ?_) (.pure id)
  split
  next => exact .pure fun begins => begins.append
  next => exact .pure fun begins => begins.append.append

/-- A pattern that begins with a path begins where the path was read. -/
theorem traces_pathPattern :
    Traces known (pathPattern grammar) fun pattern => pattern.code.Begins known := by
  unfold pathPattern
  refine .skip fun _ => ?_
  extract_lets next
  have goesOn (pair : Code × Bool) : Traces known (next pair) fun pattern =>
      pair.1.Begins known → pattern.code.Begins known := by
    dsimp only [next]
    refine .skip fun _ => .ite ?_ (.skip fun _ => .ite ?_ (.skip fun _ => .ite ?_ ?_))
    · exact .skip fun _ => .pure fun begins => begins.append
    · exact .skip fun _ => .pure fun begins => begins.append
    · exact .skip fun _ => .pure fun begins => begins.append
    · exact traces_limitPattern
  clear_value next
  split
  next => exact traces_qualifiedPath.bind fun _ => goesOn _
  next =>
    refine traces_path.bind fun found => (goesOn _).imp fun _ holds placed => holds ?_
    exact placed.begins .expression

/-- A pattern that binds a name begins with the keywords in front of it or with the name. -/
theorem traces_namedPattern :
    Traces known (namedPattern grammar) fun pattern => pattern.code.Begins known := by
  unfold namedPattern
  refine Traces.keyword?.bind fun reference => Traces.keyword?.bind fun mutability => ?_
  have begins (name : Name) (subpattern : Option Code) (at_ : known name.position)
      (mutable : ∀ position ∈ mutability, known position)
      (referred : ∀ position ∈ reference, known position) :
      (Pattern.named reference mutability name subpattern).code.Begins known :=
    ((starts_append (starts_keyword? referred) (starts_keyword? mutable)).append
      (begins_word at_)).append
  refine .skip fun _ => .branch _ .anyWord .identifier fun name => .skip fun _ => .ite ?_ ?_
  · exact .skip fun _ => .skip fun _ => .pure (begins name _)
  · exact .pure (begins name _)

/-- A reference pattern begins with its ampersand. -/
theorem traces_referencePattern : Traces known (referencePattern grammar) (Begins known) := by
  unfold referencePattern
  refine (traces_markCode (by decide)).bind fun _ => .skip fun _ => .skip fun _ => ?_
  exact .pure fun begins => begins.append.append

/-- A pattern for what is boxed is kept as tokens, of which the first is its keyword. -/
theorem traces_boxedPattern : Traces known (boxedPattern grammar) (Begins known) := by
  unfold boxedPattern
  have reads (known : Position → Prop) : Traces known (keyword "box") known := Traces.keyword
  refine .of_passed fun standing => .look ((Answers.of_traces reads).bind fun _ _ passed => ?_)
  exact .skip fun _ rest behind => .refusedSince (passed.later behind) id

/-- A pattern begins where it was read, whatever it begins with. -/
theorem traces_pattern :
    Traces known (pattern grammar) fun pattern => pattern.code.Begins known := by
  unfold pattern
  refine .skip fun next => .ite traces_pathPattern ?_
  refine .ite (traces_anyWordCode.bind fun _ => .pure id) ?_
  refine .ite (traces_boxedPattern.bind fun _ => .pure id) (.ite ?_ ?_)
  · exact traces_rangeLimit.bind fun _ => traces_limitPattern
  refine .ite traces_namedPattern ?_
  refine .ite (traces_referencePattern.bind fun _ => .pure id) ?_
  refine .ite (traces_groupCode.bind fun _ => .pure id) ?_
  refine .ite (traces_groupCode.bind fun _ => .pure id) ?_
  exact .ite traces_openRangePattern .failExpected

/-! All parts of the grammar, by induction on its depth. -/

variable [Grammar.Traced grammar]

/-- Bounds that are joined by plus signs begin with the first one. -/
theorem traces_someBounds {allowPlus allowCapture allowConstant : Bool} :
    Traces known (someBounds grammar allowPlus allowCapture allowConstant) fun bounds =>
      (boundsCode bounds).Begins known := by
  unfold someBounds
  refine (Grammar.Traced.bound known allowCapture allowConstant).bind fun first => .skip fun _ => ?_
  refine .ite (.skip fun plus => .skip fun rest => .pure ?_) (.pure ?_)
  · exact begins_boundsCode
  · exact begins_boundsCode

/-- The bounds of a trait object begin with the first one. -/
theorem traces_objectBounds {start : Position} {allowPlus : Bool} :
    Traces known (objectBounds grammar start allowPlus) (Begins known) := by
  unfold objectBounds
  exact traces_someBounds.bind fun _ => .ite (.pure id) .failAt

/-- A trait object that begins with a lifetime begins where the lifetime was read. -/
theorem traces_lifetimeObject : Traces known (lifetimeObject grammar) (Begins known) := by
  unfold lifetimeObject
  exact .skip fun _ => traces_objectBounds.bind fun _ => .pure id

/-- A type begins where it was read, whatever it begins with. -/
theorem traces_typeReading {allowPlus : Bool} :
    Traces known (typeReading grammar allowPlus) fun reading =>
      reading.type.code.Begins known := by
  unfold typeReading
  refine .skip fun next => .ite traces_boundType (.ite traces_parenthesizedType ?_)
  refine .ite (traces_functionType.bind fun _ => .pure id) (.ite ?_ ?_)
  · exact traces_namedType.imp fun _ begins => begins starts_nil
  refine .ite (traces_dynType.bind fun _ => .pure id) ?_
  refine .ite (traces_groupCode.bind fun _ => .pure id) ?_
  refine .ite (traces_pointerType.bind fun _ => .pure id) ?_
  refine .ite (traces_referenceType.bind fun _ => .pure id) ?_
  refine .ite ((traces_markCode (by decide)).bind fun _ => .pure id) ?_
  refine .ite (traces_opaqueType.bind fun _ => .pure id) ?_
  refine .ite (traces_anyWordCode.bind fun _ => .pure id) ?_
  exact .ite (traces_lifetimeObject.bind fun _ => .pure id) .failExpected

/-- A declared type begins where it was read. -/
theorem traces_declaredType {allowPlus : Bool} :
    Traces known (declaredType grammar allowPlus) fun declared => declared.code.Begins known := by
  unfold declaredType
  exact traces_typeReading.bind fun _ => .pure id

/-- Types, bounds and patterns begin at tokens that were read for them, however deep the grammar
goes. -/
instance tracedGrammar (depth : Nat) : Grammar.Traced (Parse.grammar depth) := by
  induction depth with
  | zero =>
    exact ⟨fun _ _ => .failExpected, fun _ _ _ => .failExpected, fun _ => .failExpected⟩
  | succ depth hypothesis =>
    exact ⟨fun _ _ => traces_declaredType, fun _ _ _ => traces_bound, fun _ => traces_pattern⟩

end Parse

end DataAccess
