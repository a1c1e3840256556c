/-
This file proves which names, paths and types are read, as far as generated code is made of them.
-/

import DataAccess.Parse.Declaration
import DataAccess.Proofs.Parse.Accepts

namespace DataAccess

open DataAccess.Parser

/-- The word is no keyword, so that it can name something. -/
def Name.IsPlain (name : Name) : Prop :=
  Text.Identifier.isReserved name.text = false

namespace Name.IsPlain

variable {name : Name} {rest : List Token}

/-- A name whose text is no reserved word is plain. -/
theorem of_not_mem (absent : name.text ∉ Text.Identifier.reservedWords) : name.IsPlain := by
  rw [Name.IsPlain, Text.Identifier.isReserved, Bool.eq_false_iff, ne_eq, List.contains_iff_mem]
  exact absent

/-- A plain name is none of the reserved words. -/
theorem word (plain : name.IsPlain) (spelling : String)
    (reserved : Text.Identifier.isReserved spelling = true) :
    Peek.word spelling (.word name :: rest) = false := by
  rw [Peek.word, beq_eq_false_iff_ne]
  rintro rfl
  exact Bool.false_ne_true (plain.symm.trans reserved)

/-- A plain name is none of a list of reserved spellings. -/
theorem anyOf (plain : name.IsPlain) {spellings : List String}
    (reserved : spellings.all Text.Identifier.isReserved = true) :
    Peek.anyOf spellings (.word name :: rest) = false := by
  rw [Peek.anyOf, List.any_eq_false]
  intro spelling listed
  rw [plain.word spelling (List.all_eq_true.mp reserved spelling listed)]
  exact Bool.false_ne_true

/-- A plain name is seen as an identifier. -/
theorem identifier (plain : name.IsPlain) : Peek.identifier (.word name :: rest) = true := by
  rw [Peek.identifier, plain]
  rfl

end Name.IsPlain

/-- The object type of a trait between the brackets of a generic type. -/
def Token.object (interface : Name) : List Token :=
  [.mark '<' false .callSite, Token.keyword "dyn" .callSite, .word interface,
    .mark '>' false .callSite]

/-- The names of a path from the root of all crates in front of its last segment. -/
def Token.pathTo (names : List String) (last : List Token) : List Token :=
  names.foldr
    (fun name rest => Token.operator "::" .callSite ++ Token.keyword name .callSite :: rest)
    (Token.operator "::" .callSite ++ last)

namespace Parse

variable {grammar : Grammar} {depth : Nat} {style : PathStyle} {allowPlus : Bool} {name : Name}
  {position : Position} {standing middle rest : List Token}

/-- A plain name is accepted as an identifier. -/
theorem accepts_identifier (plain : name.IsPlain) :
    Accepts identifier (.word name :: rest) rest fun found => found = name := by
  refine .look ?_
  dsimp only
  rw [plain, if_neg Bool.false_ne_true]
  exact fun _ => ⟨_, rfl, rfl⟩

/-- A plain name is accepted as an identifier whose code is kept. -/
theorem accepts_identifierCode (plain : name.IsPlain) :
    Accepts identifierCode (.word name :: rest) rest fun _ => True :=
  (accepts_identifier plain).map fun _ _ => trivial

/-- A segment of a path that is a name alone. -/
theorem accepts_segment (plain : name.IsPlain) (alone : opensAngled style rest = false) :
    Accepts (segment grammar style) (.word name :: rest) rest fun _ => True := by
  refine .peek_false (plain.anyOf rfl) (.peek_false (plain.word _ rfl) ?_)
  exact (accepts_identifier plain).bind fun found _ => .peek_false alone (.pure trivial)

/-- A path that is a name alone. -/
theorem accepts_path (plain : name.IsPlain) (alone : opensAngled style rest = false)
    (ends : continuesPath rest = false) :
    Accepts (path grammar style) (.word name :: rest) rest fun _ => True := by
  refine (accepts_markCode?_of_absent rfl).bind ?_
  rintro _ rfl
  exact (accepts_segment plain alone).skip fun _ => .look (.peek_false ends (.pure trivial))

/-- What shows behind a type that it has ended. -/
inductive EndsType : List Token → Prop
  | word (name : Name) (rest : List Token) : EndsType (.word name :: rest)
  | close (joint : Bool) (position : Position) (rest : List Token) :
      EndsType (.mark '>' joint position :: rest)
  | equals (joint : Bool) (position : Position) (rest : List Token) :
      EndsType (.mark '=' joint position :: rest)
  | brace (opening closing : Position) (inner rest : List Token) :
      EndsType (.group .brace opening closing inner :: rest)

/-- What ends a type opens no angle brackets. -/
theorem EndsType.opensAngled (ends : EndsType rest) : opensAngled style rest = false := by
  cases ends <;> cases style <;> rfl

/-- What ends a type does not continue a path. -/
theorem EndsType.continuesPath (ends : EndsType rest) : continuesPath rest = false := by
  cases ends <;> rfl

/-- What ends a type does not begin with a plus sign. -/
theorem EndsType.plus (ends : EndsType rest) : Peek.mark "+" rest = false := by
  cases ends <;> rfl

/-- A type that is a path. -/
theorem accepts_namedType (unqualified : Peek.mark "<" standing = false)
    (reads : Accepts (path grammar .type) standing rest fun _ => True) (ends : EndsType rest) :
    Accepts (namedType grammar [] allowPlus) standing rest
      fun reading => isPath reading.type = true := by
  have bangless : startsInvocation rest = false := by cases ends <;> rfl
  refine .peek_false unqualified (reads.skip fun found => ?_)
  exact .guarded bangless (.guarded ends.plus (.pure rfl))

/-- A type that is a name alone. -/
theorem accepts_plainType (plain : name.IsPlain) (ends : EndsType rest) :
    Accepts (declaredType grammar allowPlus) (.word name :: rest) rest
      fun declared => isPath declared = true := by
  have named : startsNamedType (.word name :: rest) = true := by
    rw [startsNamedType, plain.identifier]
    rfl
  have reading : Accepts (typeReading grammar allowPlus) (.word name :: rest) rest
      fun reading => isPath reading.type = true :=
    .look (.ite_false (plain.word _ rfl) (.ite_false rfl (.ite_false (plain.anyOf rfl)
      (.ite_true named (accepts_namedType rfl
        (accepts_path plain ends.opensAngled ends.continuesPath) ends)))))
  exact reading.map fun _ same => same

/-! The object type of a trait. -/

/-- The name of a trait as a bound. -/
theorem accepts_namedBound (plain : name.IsPlain) (ends : EndsType rest) :
    Accepts (namedBound grammar false) (.word name :: rest) rest
      fun found => namesTrait found.1 = true ∧ found.2 = false := by
  have callless : opensCall rest = false := by cases ends <;> rfl
  have unbound : Accepts (binder? grammar) (.word name :: rest) (.word name :: rest)
      fun code => code = [] :=
    .peek_false (plain.word _ rfl) (.pure rfl)
  have inconstant : Accepts (constancy false) (.word name :: rest) (.word name :: rest)
      fun constant => constant = false :=
    .positioned fun _ => .peek_false rfl (.peek_false (plain.word _ rfl) (.pure rfl))
  refine unbound.bind ?_
  rintro _ rfl
  refine inconstant.bind ?_
  rintro _ rfl
  refine (accepts_mark?_of_absent rfl).bind ?_
  rintro _ rfl
  refine .bind (.pure rfl) ?_
  rintro _ rfl
  refine (accepts_path plain ends.opensAngled ends.continuesPath).skip fun named => ?_
  exact .guarded callless (.bind (.pure rfl) fun _ _ => .pure ⟨rfl, rfl⟩)

/-- A plain name is accepted as a bound, which names a trait. -/
theorem accepts_bound (plain : name.IsPlain) (ends : EndsType rest) :
    Accepts (bound grammar false false) (.word name :: rest) rest
      fun found => namesTrait found = true := by
  refine .peek_false rfl (.peek_false (plain.word _ rfl) (.look (.peek_false rfl ?_)))
  refine (accepts_namedBound plain ends).bind ?_
  rintro ⟨found, _⟩ ⟨traits, rfl⟩
  exact .pure traits

/-- A plain name is accepted as the bounds of a trait object. -/
theorem accepts_objectBounds {start : Position} (plain : name.IsPlain) (ends : EndsType rest) :
    Accepts (objectBounds (Parse.grammar (depth + 1)) start allowPlus) (.word name :: rest) rest
      fun _ => True := by
  have first : Accepts ((Parse.grammar (depth + 1)).bound false false) (.word name :: rest) rest
      fun found => namesTrait found = true :=
    accepts_bound plain ends
  have bounds : Accepts (someBounds (Parse.grammar (depth + 1)) allowPlus false false)
      (.word name :: rest) rest
      fun bounds => (bounds.any fun bound => namesTrait bound.entry) = true :=
    first.bind fun found traits => .guarded ends.plus (.pure (by simp [traits]))
  exact bounds.bind fun found traits => .ite_true traits (.pure trivial)

/-- The keyword `dyn` and a plain name are accepted as a type. -/
theorem accepts_dynType (plain : name.IsPlain) (ends : EndsType rest) :
    Accepts (declaredType (Parse.grammar (depth + 1)) allowPlus)
      (Token.keyword "dyn" position :: .word name :: rest) rest
      fun declared => ∃ code, declared = .other code := by
  have object : Accepts (dynType (Parse.grammar (depth + 1)) allowPlus)
      (Token.keyword "dyn" position :: .word name :: rest) rest fun _ => True := by
    refine .look (.positioned fun start => (accepts_keywordCode "dyn").skip fun _ => ?_)
    refine (accepts_mark?_of_absent rfl).bind ?_
    rintro _ rfl
    exact (accepts_objectBounds plain ends).skip fun _ => .pure trivial
  have reading : Accepts (typeReading (Parse.grammar (depth + 1)) allowPlus)
      (Token.keyword "dyn" position :: .word name :: rest) rest
      fun reading => ∃ code, reading.type = .other code :=
    object.map fun _ _ => ⟨_, rfl⟩
  exact reading.map fun _ same => same

/-- The keyword `dyn` and a plain name are accepted as a generic argument. -/
theorem accepts_genericArgument (plain : name.IsPlain) :
    Accepts (genericArgument (Parse.grammar (depth + 2)))
      (Token.keyword "dyn" position :: .word name :: .mark '>' false .callSite :: rest)
      (.mark '>' false .callSite :: rest) fun _ => True := by
  have object : Accepts ((Parse.grammar (depth + 2)).type true)
      (Token.keyword "dyn" position :: .word name :: .mark '>' false .callSite :: rest)
      (.mark '>' false .callSite :: rest) fun declared => ∃ code, declared = .other code :=
    accepts_dynType plain (.close _ _ _)
  refine .peek_false rfl (.peek_false rfl (object.bind ?_))
  rintro _ ⟨code, rfl⟩
  exact .pure trivial

/-- The arguments of a generic type stand behind a double colon in an expression. -/
theorem accepts_angledArguments (plain : name.IsPlain) {colons : List Token}
    (turbofish : colons = [] ∨ colons = Token.operator "::" .callSite) :
    Accepts (angledArguments (Parse.grammar (depth + 2)))
      (colons ++ (Token.object name ++ rest)) rest fun _ => True := by
  have opening : Accepts (mark? "::") (colons ++ (Token.object name ++ rest))
      (Token.object name ++ rest) fun _ => True := by
    obtain rfl | rfl := turbofish <;> exact fun _ => ⟨_, rfl, trivial⟩
  have arguments : Accepts
      (listUntil (Peek.mark ">") "," (genericArgument (Parse.grammar (depth + 2))))
      (Token.keyword "dyn" .callSite :: .word name :: .mark '>' false .callSite :: rest)
      (.mark '>' false .callSite :: rest) fun _ => True :=
    .look (.peek_false rfl ((accepts_genericArgument plain).skip fun _ =>
      .peek_false rfl (.pure trivial)))
  refine opening.skip fun _ => (accepts_mark "<" (by decide)).skip fun _ => ?_
  refine arguments.skip fun _ => ?_
  exact (accepts_mark ">" (by decide)).skip fun _ => .pure trivial

/-- A segment with the object type of a trait as its argument. -/
theorem accepts_segment_object {first : Name} (named : first.IsPlain) (plain : name.IsPlain)
    {colons : List Token}
    (turbofish : colons = [] ∧ style = .type ∨ colons = Token.operator "::" .callSite) :
    Accepts (segment (Parse.grammar (depth + 2)) style)
      (.word first :: (colons ++ (Token.object name ++ rest))) rest fun _ => True := by
  have angled : opensAngled style (colons ++ (Token.object name ++ rest)) = true := by
    obtain ⟨rfl, rfl⟩ | rfl := turbofish
    · rfl
    · cases style <;> rfl
  refine .peek_false (named.anyOf rfl) (.peek_false (named.word _ rfl) ?_)
  refine (accepts_identifier named).bind fun found _ => .peek_true angled ?_
  exact (accepts_angledArguments plain (turbofish.imp_left And.left)).skip fun _ => .pure trivial

/-! Paths from the root of all crates. -/

/-- One more segment of a path. -/
theorem accepts_pathRestFrom_cons {fuel : Nat} {found : SegmentPath}
    (reads : Accepts (segment grammar style) (.word name :: standing) middle fun _ => True)
    (goesOn : ∀ longer, Accepts (pathRestFrom grammar style fuel longer) middle rest
      fun _ => True) :
    Accepts (pathRestFrom grammar style (fuel + 1) found)
      (Token.operator "::" .callSite ++ .word name :: standing) rest fun _ => True :=
  .peek_true rfl ((accepts_markCode "::" (by decide)).skip fun _ => reads.skip fun _ => goesOn _)

/-- A path of names in front of a name opens no angle brackets. -/
theorem opensAngled_pathTo (names : List String) :
    opensAngled style (Token.pathTo names (.word name :: standing)) = false := by
  cases names <;> cases style <;> rfl

/-- A path goes on with names up to its last segment. -/
theorem accepts_pathRestFrom {names : List String}
    (plain : names.all (fun name => !Text.Identifier.isReserved name) = true)
    (reads : Accepts (segment grammar style) (.word name :: standing) rest fun _ => True)
    (ends : continuesPath rest = false) {fuel : Nat}
    (enough : (Token.pathTo names (.word name :: standing)).length < fuel) (found : SegmentPath) :
    Accepts (pathRestFrom grammar style fuel found) (Token.pathTo names (.word name :: standing))
      rest fun _ => True := by
  induction names generalizing fuel found with
  | nil =>
    obtain ⟨fuel, rfl⟩ : ∃ previous, fuel = previous + 2 := by
      refine ⟨fuel - 2, ?_⟩
      have counted : 2 ≤ (Token.pathTo [] (.word name :: standing)).length :=
        Nat.le_add_left 2 _
      omega
    exact accepts_pathRestFrom_cons reads fun longer => .peek_false ends (.pure trivial)
  | cons first names hypothesis =>
    obtain ⟨fuel, rfl⟩ : ∃ previous, fuel = previous + 1 := ⟨fuel - 1, by omega⟩
    rw [List.all_cons, Bool.and_eq_true, Bool.not_eq_true'] at plain
    have named : Name.IsPlain ⟨first, .callSite⟩ := plain.1
    refine accepts_pathRestFrom_cons (accepts_segment named (opensAngled_pathTo names))
      fun longer => hypothesis plain.2 ?_ longer
    change (Token.pathTo names (.word name :: standing)).length + 3 < fuel + 1 at enough
    omega

/-- A path from the root of all crates. -/
theorem accepts_path_absolute {first : String} {names : List String}
    (plain : (first :: names).all (fun name => !Text.Identifier.isReserved name) = true)
    (reads : Accepts (segment grammar style) (.word name :: standing) rest fun _ => True)
    (ends : continuesPath rest = false) :
    Accepts (path grammar style) (Token.pathTo (first :: names) (.word name :: standing)) rest
      fun _ => True := by
  rw [List.all_cons, Bool.and_eq_true, Bool.not_eq_true'] at plain
  have named : Name.IsPlain ⟨first, .callSite⟩ := plain.1
  have leading : Accepts (markCode? "::") (Token.pathTo (first :: names) (.word name :: standing))
      (Token.keyword first .callSite :: Token.pathTo names (.word name :: standing))
      fun _ => True :=
    fun _ => ⟨_, rfl, trivial⟩
  refine leading.skip fun _ => ?_
  refine (accepts_segment named (opensAngled_pathTo names)).skip fun _ => .look ?_
  exact accepts_pathRestFrom plain.2 reads ends (Nat.lt_succ_self _) _

/-- A type that is a path from the root of all crates. -/
theorem accepts_absoluteType {first : String} {names : List String}
    (plain : (first :: names).all (fun name => !Text.Identifier.isReserved name) = true)
    (reads : Accepts (segment grammar .type) (.word name :: standing) rest fun _ => True)
    (ends : EndsType rest) :
    Accepts (declaredType grammar allowPlus)
      (Token.pathTo (first :: names) (.word name :: standing)) rest
      fun declared => isPath declared = true := by
  have reading : Accepts (typeReading grammar allowPlus)
      (Token.pathTo (first :: names) (.word name :: standing)) rest
      fun reading => isPath reading.type = true :=
    .look (.ite_false rfl (.ite_false rfl (.ite_false rfl (.ite_true rfl
      (accepts_namedType rfl (accepts_path_absolute plain reads ends.continuesPath) ends)))))
  exact reading.map fun _ same => same

end Parse

end DataAccess
