/-
This file proves what becomes of markers: of those of an item the first is taken, and of those of
the methods of a marked trait all are.
-/

import DataAccess.Compile.Markers
import DataAccess.Proofs.Compile.Agreement
import DataAccess.Proofs.Compile.Reported
import DataAccess.Proofs.Execution.Meaning

namespace DataAccess

open Declaration (isInterfaceMarker)

/-- Without its first member of a kind a list has the other members of this kind. -/
theorem filter_eraseP {Element : Type} (test : Element → Bool) (elements : List Element) :
    (elements.eraseP test).filter test = (elements.filter test).tail := by
  induction elements with
  | nil => rfl
  | cons first rest hypothesis =>
    cases among : test first with
    | true => rw [List.eraseP_cons_of_pos among, List.filter_cons_of_pos among, List.tail_cons]
    | false =>
      rw [List.eraseP_cons_of_neg (by simp [among]), List.filter_cons_of_neg (by simp [among]),
        List.filter_cons_of_neg (by simp [among]), hypothesis]

namespace Declaration

/-- The first marker is taken, and all other attributes stay. -/
theorem takeMarker_eq (marks : List Attribute) :
    takeMarker marks = (marks.filter isInterfaceMarker).head?.map fun marker =>
      (marker, marks.eraseP isInterfaceMarker) := by
  induction marks with
  | nil => rfl
  | cons first rest hypothesis =>
    rw [takeMarker]
    cases marked : isInterfaceMarker first with
    | true =>
      rw [if_pos rfl, List.filter_cons_of_pos marked, List.eraseP_cons_of_pos marked]
      rfl
    | false =>
      rw [if_neg Bool.false_ne_true, hypothesis, List.filter_cons_of_neg (by simp [marked]),
        List.eraseP_cons_of_neg (by simp [marked]), Option.map_map]
      rfl

end Declaration

namespace Item

/-- The item is emitted as its carrier, and what is generated for it stands behind. -/
theorem tokens_emitted (item : Item) :
    item.emitted.tokens = item.carrier.tokens ++ item.generated.tokens := by
  rw [emitted, carrier, generated, CompiledBatch.compileItem]
  cases Declaration.ofItem item with
  | passthrough passed => exact (List.append_nil _).symm
  | misplaced carrier marker => exact (List.append_nil _).symm
  | interface declaration =>
    dsimp only
    cases CompiledBatch.compileInterface declaration with
    | ok unit => exact Code.tokens_append _ _
    | error errors => exact Code.tokens_append _ _

/-- An item without a marker passes through. -/
theorem ofItem_unmarked {item : Item} (unmarked : item.isKnown → item.markers = []) :
    Declaration.ofItem item = .passthrough item := by
  cases item with
  | verbatim tokens => rfl
  | trait declaration =>
    have absent : declaration.attributes.filter isInterfaceMarker = [] := unmarked rfl
    rw [Declaration.ofItem, Declaration.takeMarker_eq, absent]
    rfl
  | plain plain =>
    have absent : plain.attributes.filter isInterfaceMarker = [] := unmarked rfl
    rw [Declaration.ofItem, Declaration.takeMarker_eq, absent]
    rfl

/-- A marked trait is an interface without its first marker. -/
theorem ofItem_trait {declaration : TraitDeclaration} {marker : Attribute}
    {others : List Attribute} (marked : (Item.trait declaration).markers = marker :: others) :
    Declaration.ofItem (.trait declaration) =
      .interface { declaration with
        attributes := declaration.attributes.eraseP isInterfaceMarker } := by
  rw [markers, attributes] at marked
  rw [Declaration.ofItem, Declaration.takeMarker_eq, marked]
  rfl

/-- A marked item that is no trait is misplaced, without its first marker. -/
theorem ofItem_plain {plain : PlainItem} {marker : Attribute} {others : List Attribute}
    (marked : (Item.plain plain).markers = marker :: others) :
    Declaration.ofItem (.plain plain) =
      .misplaced { plain with attributes := plain.attributes.eraseP isInterfaceMarker }
        marker.path.position := by
  rw [markers, attributes] at marked
  rw [Declaration.ofItem, Declaration.takeMarker_eq, marked]
  rfl

/-- An item that is known is emitted without its first marker. -/
theorem attributes_carrier {item : Item} (known : item.isKnown) :
    item.carrier.attributes = item.attributes.eraseP isInterfaceMarker := by
  cases marked : item.markers with
  | nil =>
    rw [carrier, ofItem_unmarked fun _ => marked, List.eraseP_of_forall_not]
    exact fun mark among => List.filter_eq_nil_iff.mp marked mark among
  | cons marker others =>
    cases item with
    | verbatim tokens => exact nomatch known
    | trait declaration =>
      rw [carrier, ofItem_trait marked]
      rfl
    | plain plain =>
      rw [carrier, ofItem_plain marked]
      rfl

/-- The markers of a known item survive but for the first. -/
theorem markers_carrier {item : Item} (known : item.isKnown) :
    item.carrier.markers = item.markers.tail := by
  rw [markers, attributes_carrier known, filter_eraseP, ← markers]

/-- An item that is kept as tokens is carried as it is. -/
theorem carrier_unknown {item : Item} (unknown : ¬ item.isKnown) : item.carrier = item := by
  rw [carrier, ofItem_unmarked fun known => absurd known unknown]

/-- Nothing is reported of an item that is kept as tokens. -/
theorem reported_unknown {item : Item} (unknown : ¬ item.isKnown) : item.reported = [] := by
  rw [reported, CompiledBatch.compileItem, ofItem_unmarked fun known => absurd known unknown]

/-- A marker survives where the item has a second one, or where the item is kept as tokens. -/
theorem survives_iff (item : Item) :
    item.carrier.markers ≠ [] ↔
      if item.isKnown then 2 ≤ item.markers.length else item.markers ≠ [] := by
  split
  next known =>
    rw [markers_carrier known, ne_eq, ← List.length_eq_zero_iff, List.length_tail]
    omega
  next unknown => rw [carrier_unknown unknown]

end Item

namespace Interface

/-- No method keeps a query. -/
theorem filter_cleanedMethod (method : Method) :
    (cleanedMethod method).attributes.filter isQuery = [] := by
  simp [cleanedMethod, List.filter_filter]

/-- A part of a cleaned trait is a cleaned method, or it stands in the trait. -/
theorem mem_items_cleaned {declaration : TraitDeclaration} {part : TraitItem}
    (among : part ∈ (cleaned declaration).items) :
    (∃ method, part = .method (cleanedMethod method)) ∨ part ∈ declaration.items := by
  obtain ⟨original, member, rfl⟩ := List.mem_map.mp among
  cases original with
  | method declared => exact .inl ⟨declared, rfl⟩
  | other code => exact .inr member

end Interface

namespace Item

/-- A marked trait is emitted without its first marker and without all queries of its methods. -/
theorem carrier_trait {declaration : TraitDeclaration}
    (marked : (Item.trait declaration).markers ≠ []) :
    ∃ emitted : TraitDeclaration, (Item.trait declaration).carrier = .trait emitted ∧
      (∀ method, .method method ∈ emitted.items →
        method.attributes.filter Interface.isQuery = []) ∧
      ∀ part ∈ emitted.items, part.attributes.filter Interface.isQuery ≠ [] →
        part ∈ declaration.items := by
  obtain ⟨marker, others, found⟩ := List.exists_cons_of_ne_nil marked
  refine ⟨_, by rw [carrier, ofItem_trait found], ?_, ?_⟩
  · intro method among
    obtain ⟨original, -, same⟩ := List.mem_map.mp among
    cases original with
    | method declared =>
      obtain rfl := TraitItem.method.inj same
      exact Interface.filter_cleanedMethod declared
    | other code => exact nomatch same
  · intro part among carried
    obtain ⟨method, rfl⟩ | member := Interface.mem_items_cleaned among
    · exact absurd (Interface.filter_cleanedMethod method) carried
    · exact member

/-- The first marker of an item that is no trait is reported. -/
theorem reported_plain {plain : PlainItem} {marker : Attribute}
    (marked : marker ∈ (Item.plain plain).markers.head?) :
    (Item.plain plain).reported = [.markerOnNonTrait marker.path.position plain.kind] := by
  obtain ⟨others, found⟩ := List.head?_eq_some_iff.mp marked
  rw [reported, CompiledBatch.compileItem, ofItem_plain found]

/-- Of every item the markers are taken as the predicate says. -/
theorem markersTaken (item : Item) : item.MarkersTaken where
  taken := attributes_carrier
  untouched unknown := ⟨carrier_unknown unknown, reported_unknown unknown⟩
  survives := survives_iff item
  traits := by
    rintro declaration rfl marked
    exact carrier_trait marked
  misplaced := by
    rintro plain rfl marker marked
    exact reported_plain marked

end Item

namespace CompiledBatch

/-- Every answer holds the items of the batch as they are emitted, each with the code that is
generated for it, and tells what is told of the items; and the markers of each item are taken as far
as its form is looked at and it has only one. Nothing is answered only when a debug file is created
for code that the formatter does not know. -/
theorem markers_consumed (write : String → Option FileFailure) (batch : Batch) :
    (∀ failure, compile write batch = .error failure ↔ Stops write batch failure) ∧
      ∀ compiled, compile write batch = .ok compiled →
        compiled.tokens = enclosed batch.name batch.options.isPublic
          ((batch.items.flatMap fun item => item.carrier.tokens ++ item.generated.tokens) ++
            (Render.registry (registry batch)).tokens) ∧
        ∀ item ∈ batch.items, item.reported <:+: compiled.errors ∧ item.MarkersTaken := by
  refine ⟨compile_eq_error_iff write batch, ?_⟩
  intro compiled answered
  rw [compile_eq_ok answered]
  refine ⟨?_, fun item member => ⟨reported_together write member, item.markersTaken⟩⟩
  simp only [← Item.tokens_emitted]
  exact tokens_module batch

namespace Sample

/-- `#[dao] #[dao] trait Twice { fn all(&self, least: i64) -> Vec<i64>; }`, the method with a
query -/
def twiceMarked : Item :=
  .trait { Meaning.Sample.declaration with attributes := [marker, marker] }

/-- `#[dao] struct Number ;` -/
def markedRecord : Item :=
  .plain ⟨.record, [marker], [.token (.keyword "struct" .callSite), .token (.word (name "Number")),
    .token (.mark ';' false .callSite)], none⟩

/-- `#[dao] pub fn b ( ) ;` -/
def markedHidden : Item :=
  .verbatim (.mark '#' false .callSite ::
    .group .bracket .callSite .callSite [.keyword Declaration.interfaceMarker .callSite] ::
      hiddenTokens)

end Sample

section

open Sample

/-- A second marker of a trait survives, and so does the only one of an item whose form is not
looked at; a struct is told of. -/
theorem markers_consumed_of_sample :
    ∃ compiled, compile (fun _ => none)
        ⟨name "db", ⟨false, none⟩, [twiceMarked, markedRecord, markedHidden]⟩ = .ok compiled ∧
      twiceMarked.carrier.markers ≠ [] ∧ markedHidden.carrier.markers ≠ [] ∧
      markedRecord.carrier.markers = [] ∧ .markerOnNonTrait .callSite .record ∈ compiled.errors := by
  obtain ⟨-, consumed⟩ := (markers_consumed (fun _ => none)
    ⟨name "db", ⟨false, none⟩, [twiceMarked, markedRecord, markedHidden]⟩).2 _ rfl
  have twice := (consumed twiceMarked (by simp)).2
  have hidden := (consumed markedHidden (by simp)).2
  obtain ⟨among, single⟩ := consumed markedRecord (by simp)
  have first : markedHidden.markers = [marker] := by rfl
  refine ⟨_, rfl, twice.survives.mpr (Nat.le_refl 2), hidden.survives.mpr ?_, ?_, ?_⟩
  · rw [if_neg (by simp [markedHidden, Item.isKnown]), first]
    exact List.cons_ne_nil _ _
  · exact not_not.mp (mt single.survives.mp (by decide))
  · apply among.subset
    rw [single.misplaced _ rfl marker rfl]
    exact List.mem_singleton.mpr rfl

end

end CompiledBatch

end DataAccess
