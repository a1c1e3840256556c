/-
This file proves of the items of a batch that what can be told of them has its place among the
tokens that were read for them.
-/

import DataAccess.Proofs.Parse.DeclarationPlaces

namespace DataAccess

open DataAccess.Parser

namespace Parse

/-- The attributes of what stands in braces are known; all others come in front. -/
def ItemBody.Placed (known : Position → Prop) : ItemBody → Prop
  | .plain _ _ => True
  | .braced _ _ inner _ => ∀ mark ∈ inner, mark.Placed known
  | .trait declaration => declaration.Placed known
  | .verbatim => True

/-- What can be told of the items that a parser reads has its place among the tokens that it
reads. -/
class ReadsPlaced (parser : Parser ItemBody) : Prop where
  traces : ∀ known, Traces known parser (ItemBody.Placed known)

/-- What is read from a start on is read of the tokens that stood there, also when the stream is set
back to them. -/
class PlacedFrom (start : Stream) (parser : Parser ItemBody) : Prop where
  traces : ∀ known standing, standing <:+ start.tokens →
    Answers standing parser fun body rest => ∃ consumed, start.tokens = consumed ++ rest ∧
      (Token.AllAt known consumed → body.Placed known)

namespace ReadsPlaced

variable {First : Type} {first : Parser First} {second : First → Parser ItemBody}

/-- What comes first only moves forward. -/
instance [Forward first] [goesOn : ∀ found, ReadsPlaced (second found)] :
    ReadsPlaced (first >>= second) where
  traces known := .skip fun found => (goesOn found).traces known

/-- Both branches of a condition place what they read. -/
instance {condition : Prop} [Decidable condition] {one other : Parser ItemBody}
    [ReadsPlaced one] [ReadsPlaced other] : ReadsPlaced (if condition then one else other) := by
  split <;> assumption

/-- What fails reads no item. -/
instance (choices : List Expectation) : ReadsPlaced (failExpected choices) where
  traces _ := .failExpected

/-- Of a plain body nothing can be told. -/
instance (kind : ItemKind) (before : Code) : ReadsPlaced (pure (.plain kind before)) where
  traces _ := .pure trivial

/-- Of tokens that are kept nothing can be told. -/
instance : ReadsPlaced (pure .verbatim) where
  traces _ := .pure trivial

/-- Reading from the start again reads the same tokens. -/
instance {next : Stream → Parser ItemBody} [from_ : ∀ start, PlacedFrom start (next start)] :
    ReadsPlaced (get >>= next) where
  traces known _ := .lookAt fun start stands => by
    subst stands
    exact (from_ start).traces known _ List.suffix_rfl

/-- The inner attributes of what stands in braces are looked for where it was read. -/
theorem braced {Inside : Type} {grammar : Grammar} [Grammar.Forward grammar]
    {inside : List Attribute → Parser (List Attribute × Inside)}
    {ends : Enclosed (List Attribute × Inside) → Parser ItemBody}
    (keeps : ∀ inner standing, Answers standing (inside inner) fun found _ => found.1 = inner)
    (traces : ∀ known enclosed, Traces known (ends enclosed) fun body =>
      (∀ mark ∈ enclosed.value.1, mark.Placed known) → body.Placed known) :
    ReadsPlaced (group .brace (innerAttributes grammar >>= inside) >>= ends) where
  traces known := by
    have attributed : TracesAll known (innerAttributes grammar >>= inside) fun found =>
        ∀ mark ∈ found.1, mark.Placed known :=
      .front traces_innerAttributes.all fun inner placed standing =>
        (keeps inner standing).imp fun _ _ same => same ▸ placed
    refine (Traces.group attributed).bind fun enclosed => ?_
    exact (traces known enclosed).imp fun _ holds placed => holds placed.2.2

end ReadsPlaced

namespace PlacedFrom

variable {First : Type} {start : Stream} {parser : Parser ItemBody}

/-- Reading that does not go back stays behind its start. -/
instance (priority := low) [reads : ReadsPlaced parser] : PlacedFrom start parser where
  traces known standing behind := by
    obtain ⟨before, same⟩ := behind
    refine (reads.traces known standing).imp fun body rest ⟨consumed, same', holds⟩ => ?_
    refine ⟨before ++ consumed, by rw [← same, same', List.append_assoc], fun all => ?_⟩
    exact holds (Token.allAt_append.mp all).2

/-- Once the stream is set back, everything is read from the start on. -/
instance [reads : ReadsPlaced parser] : PlacedFrom start (set start >>= fun _ => parser) where
  traces known standing _ := by
    intro stream rest body _ done
    obtain ⟨_, _, before, behind⟩ := bind_eq_ok done
    cases before
    exact reads.traces known _ _ _ _ rfl behind

/-- What comes first stays behind the start. -/
instance {first : Parser First} {second : First → Parser ItemBody} [Forward first]
    [goesOn : ∀ found, PlacedFrom start (second found)] : PlacedFrom start (first >>= second) where
  traces known _ behind := .skip fun found rest behind' =>
    (goesOn found).traces known rest (behind'.trans behind)

/-- Both branches of a condition place what they read from the start on. -/
instance {condition : Prop} [Decidable condition] {other : Parser ItemBody}
    [PlacedFrom start parser] [PlacedFrom start other] :
    PlacedFrom start (if condition then parser else other) := by
  split <;> assumption

/-- A parser that fails in the end reads nothing. -/
instance {first : Parser First} (choices : List Expectation) :
    PlacedFrom start (first >>= fun _ => failExpected choices) where
  traces _ _ _ := Answers.any.bind fun _ _ _ => .failExpected

end PlacedFrom

set_option synthInstance.maxSize 8000

section

variable {grammar : Grammar} [Grammar.Forward grammar]

/-- The attributes of a function stand in its body. -/
instance : ReadsPlaced (function grammar) := by
  unfold function
  have body (kind : ItemKind) (before : Code) : ReadsPlaced (do
      let (inner, body) ← functionBody grammar
      return .braced kind before inner body) :=
    ⟨fun known => traces_functionBody.bind fun _ => .pure And.left⟩
  infer_instance

/-- The declaration of a crate has no attributes of its own. -/
instance : ReadsPlaced externCrate := by
  unfold externCrate
  infer_instance

/-- A struct has no attributes of its own. -/
instance : ReadsPlaced (structItem grammar) := by
  unfold structItem
  infer_instance

/-- An enumeration has no attributes of its own. -/
instance : ReadsPlaced (enumItem grammar) := by
  unfold enumItem
  infer_instance

/-- A union has no attributes of its own. -/
instance : ReadsPlaced (unionItem grammar) := by
  unfold unionItem
  infer_instance

/-- A type item has no attributes of its own. -/
instance : ReadsPlaced (typeItem grammar) := by
  unfold typeItem
  infer_instance

/-- A use declaration has no attributes of its own. -/
instance : ReadsPlaced useItem := by
  unfold useItem
  infer_instance

/-- A static has no attributes of its own. -/
instance : ReadsPlaced (staticItem grammar) := by
  unfold staticItem
  infer_instance

/-- A constant item has no attributes of its own. -/
instance : ReadsPlaced (constantItem grammar) := by
  unfold constantItem
  infer_instance

/-- The attributes of a module stand in its braces, if it has any. -/
instance : ReadsPlaced (moduleItem grammar) := by
  unfold moduleItem
  have ends (before : Code) : ReadsPlaced (do
      let enclosed ← group .brace do
        let inner ← innerAttributes grammar
        let items ← untilEmpty grammar.item
        return (inner, items.flatMap Item.code)
      return .braced .moduleBlock before enclosed.value.1
        ⟨enclosed.opening, enclosed.closing, enclosed.value.2⟩) :=
    .braced (fun _ _ => Answers.any.bind fun _ _ _ => .pure rfl) fun _ _ => .pure id
  infer_instance

/-- The attributes of a block of foreign items stand in its braces. -/
instance : ReadsPlaced (foreignBlock grammar) := by
  unfold foreignBlock
  have ends (before : Code) : ReadsPlaced (do
      let enclosed ← group .brace do
        let inner ← innerAttributes grammar
        let items ← untilEmpty (foreignItem grammar)
        return (inner, items.flatten)
      return .braced .foreignBlock before enclosed.value.1
        ⟨enclosed.opening, enclosed.closing, enclosed.value.2⟩) :=
    .braced (fun _ _ => Answers.any.bind fun _ _ _ => .pure rfl) fun _ _ => .pure id
  infer_instance

/-- The attributes of an implementation stand in its braces. -/
instance : ReadsPlaced (implementation grammar) := by
  unfold implementation
  have ends (exposure before : Code) (isConstant isForType : Bool) (first : DeclaredType) :
      ReadsPlaced (do
        let enclosed ← group .brace do
          let inner ← innerAttributes grammar
          let items ← untilEmpty (implementedItem grammar)
          return (inner, items.flatten)
        if !exposure.isEmpty || isConstant || (isForType && !isPath first) then return .verbatim
        else
          return .braced .implementation before enclosed.value.1
            ⟨enclosed.opening, enclosed.closing, enclosed.value.2⟩) :=
    .braced (fun _ _ => Answers.any.bind fun _ _ _ => .pure rfl) fun _ _ =>
      .ite (.pure fun _ => trivial) (.pure id)
  have subject (goesOn : Code → Parser ItemBody) [∀ code, ReadsPlaced (goesOn code)]
      (first : DeclaredType) (polarity : Option Position) : ReadsPlaced (match polarity with
        | some position => failAt .negativeImplementation position >>= goesOn
        | none => pure first.code >>= goesOn) := by
    cases polarity <;> infer_instance
  infer_instance

/-- The call of a macro has no attributes of its own. -/
instance : ReadsPlaced invocationItem := by
  unfold invocationItem
  have ends (found : NamePath) (bang : Code) (name? : Option Name) (body : Token)
      (semicolon : Code) : ReadsPlaced (match name?, body with
        | some name, .group _ _ _ inner =>
            let front := found.code ++ bang ++ Code.word name
            if found.isName "macro_rules" then
              pure (ItemBody.plain .invocation
                (front ++ MacroRules.code inner (body :: Code.tokens semicolon)))
            else pure (ItemBody.plain .invocation (front ++ [.token body] ++ semicolon))
        | _, _ => (pure (ItemBody.plain .invocation
            (found.code ++ bang ++ [.token body] ++ semicolon)) : Parser ItemBody)) := by
    split <;> infer_instance
  infer_instance

/-- The definition of a macro has no attributes of its own. -/
instance : ReadsPlaced macroDefinition := by
  unfold macroDefinition
  infer_instance

variable [Grammar.Traced grammar]

/-- A trait is placed, and a name for bounds has no attributes of its own. -/
instance : ReadsPlaced (traitOrAlias grammar) := by
  unfold traitOrAlias
  refine ⟨fun known => ?_⟩
  refine .skip fun exposure => .skip fun keyword => .skip fun name => ?_
  refine traces_generics.bind fun parameters => .skip fun _ => .ite ?_ ?_
  · refine traces_traitRest.bind fun _ => .pure fun placed generics => ?_
    exact placed (fun _ member => nomatch member) (fun _ member => nomatch member) generics
  · apply Traces.imp
    · apply ReadsPlaced.traces
    · exact fun _ placed _ => placed

/-- A trait is placed as an item. -/
instance : ReadsPlaced (do return .trait (← traitDeclaration grammar)) where
  traces _ := traces_traitDeclaration.bind fun _ => .pure id

/-- An item behind `extern` is read again from its start. -/
instance (start : Stream) : PlacedFrom start (externItem grammar start) := by
  unfold externItem
  infer_instance

/-- An item behind `unsafe` is read again from its start. -/
instance (start : Stream) : PlacedFrom start (unsafeItem grammar start) := by
  unfold unsafeItem
  infer_instance

/-- The body of an item is placed, whatever kind of item it is. -/
instance : ReadsPlaced (itemBody grammar) := by
  unfold itemBody
  infer_instance

/-- What can be told of an item has its place among the tokens that were read for it. -/
theorem traces_item {known : Position → Prop} :
    Traces known (item grammar) (Item.Placed known) := by
  unfold item
  refine .skip fun beginning => traces_outerAttributes.bind fun attributes => ?_
  refine (ReadsPlaced.traces known).bind fun body => ?_
  split
  next => exact .pure fun _ placed => placed
  next =>
    refine .pure fun inner placed mark member => ?_
    cases List.mem_append.mp member with
    | inl outer => exact placed mark outer
    | inr within => exact inner mark within
  next =>
    exact .pure fun placed _ =>
      ⟨placed.unsafety, placed.automatic, placed.generics, placed.supertraits, placed.items⟩
  next => exact .skip fun _ => .pure fun _ _ => trivial

end

end Parse

end DataAccess
