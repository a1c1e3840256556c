/-
This file proves that registries of one length collide only where the digests of their texts do. To
absorb a word is to permute the states and to permute the words, so that nothing which is absorbed
before or behind can make up for a difference.
-/

import DataAccess.Compile.RegistryName
import DataAccess.Proofs.Text.Quoted

namespace DataAccess

namespace Digest

/-- What the multiplier is multiplied with to give one. -/
def multiplierInverse : UInt64 := 8652704222047563021

/-- The inverse undoes the multiplier. -/
theorem multiplier_mul_inverse : multiplier * multiplierInverse = 1 := by
  decide

/-- Multiplying by the multiplier loses nothing. -/
theorem multiplier_injective {first second : UInt64}
    (same : first * multiplier = second * multiplier) : first = second := by
  have divided := congrArg (· * multiplierInverse) same
  simpa only [UInt64.mul_assoc, multiplier_mul_inverse, UInt64.mul_one] using divided

/-- Distinct states stay distinct when they absorb the same word. -/
theorem absorb_state_inj {first second word : UInt64} :
    absorb first word = absorb second word ↔ first = second := by
  constructor
  · intro same
    exact (UInt64.add_left_inj word).mp (multiplier_injective same)
  · rintro rfl
    rfl

/-- A state tells distinct words apart when it absorbs them. -/
theorem absorb_word_inj {state first second : UInt64} :
    absorb state first = absorb state second ↔ first = second := by
  constructor
  · intro same
    exact (UInt64.add_right_inj state).mp (multiplier_injective same)
  · rintro rfl
    rfl

/-- A text that is absorbed keeps states apart. -/
theorem absorbText_state_inj {first second : UInt64} (text : String) :
    absorbText first text = absorbText second text ↔ first = second := by
  rw [absorbText, absorbText, absorb_state_inj, absorb_state_inj]

/-- From one state, texts are told apart exactly if their own digests are. -/
theorem absorbText_text_inj {state : UInt64} {first second : String} :
    absorbText state first = absorbText state second ↔ ofText first = ofText second := by
  rw [absorbText, absorbText, absorb_state_inj, absorb_word_inj, ofText, ofText]

/-- Distinct states stay distinct, whatever texts they absorb. -/
theorem foldl_absorbText_inj {first second : UInt64} (texts : List String) :
    texts.foldl absorbText first = texts.foldl absorbText second ↔ first = second := by
  induction texts generalizing first second with
  | nil => rfl
  | cons text rest hypothesis =>
    rw [List.foldl_cons, List.foldl_cons, hypothesis, absorbText_state_inj]

/-- To finish a digest is to rotate it. -/
theorem toBitVec_finish (state : UInt64) :
    (finish state).toBitVec = state.toBitVec.rotateLeft 26 := by
  rw [finish, rotateLeft, BitVec.rotateLeft_def]
  rfl

/-- A rotation is undone by the rotation the other way. -/
theorem rotateRight_rotateLeft (word : BitVec 64) :
    (word.rotateLeft 26).rotateRight 26 = word := by
  apply BitVec.eq_of_getLsbD_eq
  intro index inRange
  simp only [BitVec.getLsbD_rotateRight, BitVec.getLsbD_rotateLeft]
  grind

/-- Finishing a digest keeps states apart. -/
theorem finish_inj {first second : UInt64} : finish first = finish second ↔ first = second := by
  constructor
  · intro same
    apply UInt64.toBitVec_inj.mp
    rw [← rotateRight_rotateLeft first.toBitVec, ← toBitVec_finish, same, toBitVec_finish,
      rotateRight_rotateLeft]
  · rintro rfl
    rfl

/-- One differing text between equal ones shows in the digest exactly if it has another digest. -/
theorem ofTexts_around_inj (before after : List String) {first second : String} :
    ofTexts (before ++ first :: after) = ofTexts (before ++ second :: after) ↔
      ofText first = ofText second := by
  rw [ofTexts, ofTexts, finish_inj, List.foldl_append, List.foldl_append, List.foldl_cons,
    List.foldl_cons, foldl_absorbText_inj, absorbText_text_inj]

/-- Absorbing a word is arithmetic modulo the size of words. -/
theorem toNat_absorb (state word : UInt64) :
    (absorb state word).toNat = absorbed state.toNat word.toNat := by
  rw [absorb, UInt64.toNat_mul, UInt64.toNat_add, Nat.mod_mul_mod]
  rfl

/-- Absorbing texts is arithmetic on their digests, each followed by the byte that ends it. -/
theorem toNat_foldl_absorbText (texts : List String) (state : UInt64) :
    (texts.foldl absorbText state).toNat =
      texts.foldl (fun state text => absorbed (absorbed state (ofText text).toNat) 0xff)
        state.toNat := by
  induction texts generalizing state with
  | nil => rfl
  | cons text rest hypothesis =>
    rw [List.foldl_cons, List.foldl_cons, hypothesis, absorbText, toNat_absorb, toNat_absorb,
      ofText]
    rfl

/-- The digest of texts is their state in whole numbers, rotated. -/
theorem toBitVec_ofTexts (texts : List String) :
    (ofTexts texts).toBitVec = (BitVec.ofNat 64 (stateOf texts)).rotateLeft 26 := by
  have state : stateOf texts = (texts.foldl absorbText 0).toNat :=
    (toNat_foldl_absorbText texts 0).symm
  rw [ofTexts, toBitVec_finish, state, UInt64.toNat, BitVec.ofNat_toNat, BitVec.setWidth_eq]

/-- A word has at most sixteen digits to the base of sixteen. -/
theorem length_toDigits_le (word : UInt64) : (Nat.toDigits 16 word.toNat).length ≤ 16 :=
  (Nat.length_toDigits_le_iff (by decide) (by decide)).mpr word.toNat_lt

/-- The digits of a word are filled up with zeros in front. -/
theorem toList_hexadecimal (word : UInt64) :
    (hexadecimal word).toList = List.replicate (16 - (Nat.toDigits 16 word.toNat).length) '0' ++
      Nat.toDigits 16 word.toNat := by
  rw [hexadecimal, String.toList_ofList]

/-- Every word is written with sixteen digits. -/
theorem length_hexadecimal (word : UInt64) : (hexadecimal word).length = 16 := by
  have short := length_toDigits_le word
  rw [← String.length_toList, toList_hexadecimal, List.length_append, List.length_replicate]
  omega

/-- Every digit to the base of sixteen is one of sixteen characters. -/
theorem digitChar_mem (digit : Fin 16) : digit.val.digitChar ∈ "0123456789abcdef".toList := by
  revert digit
  decide

/-- The characters of a written word are such digits. -/
theorem mem_hexadecimal {word : UInt64} {digit : Char}
    (member : digit ∈ (hexadecimal word).toList) : digit ∈ "0123456789abcdef".toList := by
  rw [toList_hexadecimal, List.mem_append] at member
  obtain zero | significant := member
  · rw [List.eq_of_mem_replicate zero]
    decide
  · obtain ⟨value, rfl⟩ := Text.Quoted.exists_digit_of_mem_toDigits significant
    exact digitChar_mem value

/-- The digits are read as the word, zeros in front of it included. -/
theorem hexadecimalNumber_hexadecimal (word : UInt64) :
    Text.Quoted.hexadecimalNumber (hexadecimal word).toList = word.toNat := by
  have zeros (count : Nat) (digits : List Char) :
      Text.Quoted.hexadecimalNumber (List.replicate count '0' ++ digits) =
        Text.Quoted.hexadecimalNumber digits := by
    induction count with
    | zero => rfl
    | succ count hypothesis => exact hypothesis
  rw [toList_hexadecimal, zeros, Text.Quoted.hexadecimalNumber_toDigits]

/-- Words are told apart by their digits. -/
theorem hexadecimal_inj {first second : UInt64} :
    hexadecimal first = hexadecimal second ↔ first = second := by
  constructor
  · intro same
    apply UInt64.toNat_inj.mp
    rw [← hexadecimalNumber_hexadecimal first, same, hexadecimalNumber_hexadecimal]
  · rintro rfl
    rfl

end Digest

namespace Registry

/-- Where two sequences differ in one place, they are the same before it and behind it. -/
theorem DifferAt.split {texts others : List String} {place : Nat} {text other : String}
    (differ : DifferAt texts others place text other) :
    ∃ before after, texts = before ++ text :: after ∧ others = before ++ other :: after := by
  have around {list : List String} {value : String} (found : list[place]? = some value) :
      list = list.take place ++ value :: list.drop (place + 1) := by
    obtain ⟨inRange, rfl⟩ := List.getElem?_eq_some_iff.mp found
    rw [← List.drop_eq_getElem_cons inRange, List.take_append_drop]
  have before : others.take place = texts.take place := by
    apply List.ext_getElem?
    intro index
    rw [List.getElem?_take, List.getElem?_take]
    split
    next early => exact (differ.elsewhere index (Nat.ne_of_lt early)).symm
    next => rfl
  have after : others.drop (place + 1) = texts.drop (place + 1) := by
    apply List.ext_getElem?
    intro index
    rw [List.getElem?_drop, List.getElem?_drop]
    exact (differ.elsewhere _ (by omega)).symm
  refine ⟨texts.take place, texts.drop (place + 1), around differ.here, ?_⟩
  rw [← before, ← after]
  exact around differ.there

/-- The name of a registry is its prefix with the digits of the digest. -/
theorem name_ofUnits (batch : Name) (units : List ImplementationUnit) :
    (ofUnits batch units).name =
      "DaoRegistry" ++ Digest.hexadecimal (Digest.ofTexts (textsOf batch units)) := rfl

/-- Equal names come from equal digests. -/
theorem name_inj {batch other : Name} {units others : List ImplementationUnit} :
    (ofUnits batch units).name = (ofUnits other others).name ↔
      Digest.ofTexts (textsOf batch units) = Digest.ofTexts (textsOf other others) := by
  rw [name_ofUnits, name_ofUnits, String.append_right_inj, Digest.hexadecimal_inj]

/-- What is written behind the prefix is what names a registry. -/
theorem isNamedBy_hexadecimal (word : UInt64) :
    IsNamedBy ("DaoRegistry" ++ Digest.hexadecimal word) (Digest.hexadecimal word) :=
  ⟨rfl, Digest.length_hexadecimal word, fun _ member => Digest.mem_hexadecimal member⟩

/-- The digest of a registry begins with the name of its batch. -/
theorem textsOf_cons (batch : Name) (units : List ImplementationUnit) :
    textsOf batch units = batch.text :: (ofUnits batch units).entries.flatMap fun entry =>
      [entry.interface.text, entry.implementation.text] := rfl

/-- Registries collide only through the digests of single texts. Two registries whose texts differ
in exactly one place have the same name exactly if the two texts there have the same digest; in
particular, two batches with the same entries have it exactly if their names have the same digest.
A name is always a fixed word and sixteen digits, which write the digest of all texts: equal names
mean equal digests. The digest absorbs text after text in whole numbers modulo the size of a word,
and is rotated at the end. -/
theorem names_collide_through_digests (batch other : Name)
    (units others : List ImplementationUnit) :
    (∀ place text differing,
      DifferAt (textsOf batch units) (textsOf other others) place text differing →
        ((ofUnits batch units).name = (ofUnits other others).name ↔
          Digest.ofText text = Digest.ofText differing)) ∧
    ((ofUnits batch units).name = (ofUnits other units).name ↔
      Digest.ofText batch.text = Digest.ofText other.text) ∧
    (∃ digits, IsNamedBy (ofUnits batch units).name digits) ∧
    ((ofUnits batch units).name = (ofUnits other others).name ↔
      Digest.ofTexts (textsOf batch units) = Digest.ofTexts (textsOf other others)) ∧
    (Digest.ofTexts (textsOf batch units)).toBitVec =
      (BitVec.ofNat 64 (Digest.stateOf (textsOf batch units))).rotateLeft 26 := by
  refine ⟨?_, ?_, ?_, name_inj, Digest.toBitVec_ofTexts _⟩
  · intro place text differing differ
    obtain ⟨before, after, here, there⟩ := differ.split
    rw [name_inj, here, there, Digest.ofTexts_around_inj]
  · rw [name_inj, textsOf_cons, textsOf_cons]
    exact Digest.ofTexts_around_inj [] _
  · exact ⟨_, isNamedBy_hexadecimal _⟩

/-- A single implementation, as a batch emits it for an interface without methods. -/
def ofSingle (interface implementation : String) : List ImplementationUnit :=
  [⟨⟨implementation, .callSite⟩, ⟨interface, .callSite⟩, [], []⟩]

/-- Another interface behind the same implementation gives another name. -/
theorem names_collide_through_digests_of_renamed :
    DifferAt (textsOf ⟨"db", .callSite⟩ (ofSingle "T" "TImpl"))
        (textsOf ⟨"db", .callSite⟩ (ofSingle "U" "TImpl")) 1 "T" "U" ∧
      (ofUnits ⟨"db", .callSite⟩ (ofSingle "T" "TImpl")).name ≠
        (ofUnits ⟨"db", .callSite⟩ (ofSingle "U" "TImpl")).name := by
  have differ : DifferAt (textsOf ⟨"db", .callSite⟩ (ofSingle "T" "TImpl"))
      (textsOf ⟨"db", .callSite⟩ (ofSingle "U" "TImpl")) 1 "T" "U" := by
    refine ⟨rfl, rfl, rfl, by decide, ?_⟩
    rintro (_ | _ | _ | _) other
    · rfl
    · exact absurd rfl other
    · rfl
    · rfl
  refine ⟨differ, ?_⟩
  rw [Ne, (names_collide_through_digests _ _ _ _).1 1 "T" "U" differ]
  decide +kernel

end Registry

end DataAccess
