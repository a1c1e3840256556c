/-
This file says what becomes of markers: which attributes the items of a batch and the parts of a
trait have, and as which items they are emitted.
-/

import DataAccess.Compile.Emission

namespace DataAccess

/-- The attributes in front of tokens, none where they cannot be read. -/
def Attribute.inFrontOf (tokens : List Token) : List Attribute :=
  match Parse.outerAttributes (Parse.grammarFor tokens) ⟨tokens, .callSite, none, none⟩ with
  | .ok (attributes, _) => attributes
  | .error _ => []

/-- The attributes of a part of a trait. What is no method, or a method with a visibility, has them
among its tokens. -/
def TraitItem.attributes : TraitItem → List Attribute
  | .method declared => declared.attributes
  | .other code => Attribute.inFrontOf code.tokens

namespace Item

/-- The attributes of an item. One whose form is not looked at has them among its tokens. -/
def attributes : Item → List Attribute
  | .trait declaration => declaration.attributes
  | .plain item => item.attributes
  | .verbatim tokens => Attribute.inFrontOf tokens

/-- The markers that an item carries. -/
def markers (item : Item) : List Attribute :=
  item.attributes.filter Declaration.isInterfaceMarker

/-- The form of the item is looked at. -/
def isKnown : Item → Bool
  | .trait _ => true
  | .plain _ => true
  | .verbatim _ => false

/-- The item as it is emitted. -/
def carrier (item : Item) : Item :=
  match Declaration.ofItem item with
  | .passthrough passed => passed
  | .misplaced carrier _ => .plain carrier
  | .interface declaration => .trait (Interface.cleaned declaration)

/-- The code that is generated for the item and emitted behind it. -/
def generated (item : Item) : Code :=
  match (CompiledBatch.compileItem item).item with
  | .interface _ (some unit) => Render.implementation unit
  | .interface _ none | .passthrough _ => []

end Item

/-- What becomes of the markers of an item and of its parts. Of an item whose form is looked at the
first marker is taken and nothing else, so that a second one survives; any other item stays as it
is, and nothing is told of it. A marked trait is emitted with methods that have no query; what else
it holds stays as it is. A marker that is taken from anything but a trait is told of. -/
structure Item.MarkersTaken (item : Item) : Prop where
  taken : item.isKnown → item.carrier.attributes =
    item.attributes.eraseP Declaration.isInterfaceMarker
  untouched : ¬ item.isKnown → item.carrier = item ∧ item.reported = []
  survives : item.carrier.markers ≠ [] ↔
    if item.isKnown then 2 ≤ item.markers.length else item.markers ≠ []
  traits : ∀ declaration, item = .trait declaration → item.markers ≠ [] →
    ∃ emitted : TraitDeclaration, item.carrier = .trait emitted ∧
      (∀ method, .method method ∈ emitted.items → method.attributes.filter Interface.isQuery = []) ∧
      ∀ part ∈ emitted.items, part.attributes.filter Interface.isQuery ≠ [] →
        part ∈ declaration.items
  misplaced : ∀ plain, item = .plain plain → ∀ marker ∈ item.markers.head?,
    item.reported = [.markerOnNonTrait marker.path.position plain.kind]

end DataAccess
