/-
This file proves that sets agree with lists: they fail alike, and otherwise hold the first of each
class of equal elements of the list.
-/

import DataAccess.Proofs.Row.Listing
import DataAccess.Proofs.Row.OffsetRoundTrip
import DataAccess.Proofs.Row.SortedSet
import DataAccess.Row.Distinct

namespace DataAccess

/-- A converted result fails as the result does. -/
theorem Except.map_eq_error_iff {Error First Second : Type} {result : Except Error First}
    {convert : First → Second} {error : Error} :
    result.map convert = .error error ↔ result = .error error := by
  cases result <;> simp [Except.map]

section

variable {Element : Type} [Ord Element]

/-- The first of each class of a list is its head, or the first of a class of the tail that the head
does not belong to. -/
theorem mem_firstOfEach_cons {element first : Element} {rest : List Element} :
    element ∈ firstOfEach (first :: rest) ↔
      element = first ∨ element ∈ firstOfEach rest ∧ compare first element ≠ .eq := by
  rw [firstOfEach, List.mem_cons, List.mem_filter, bne_iff_ne]

/-- An element is the first of its class when nothing before it is equal to it. -/
theorem mem_firstOfEach_iff {element : Element} {elements : List Element} :
    element ∈ firstOfEach elements ↔ ∃ before behind, elements = before ++ element :: behind ∧
      ∀ earlier ∈ before, compare earlier element ≠ .eq := by
  induction elements with
  | nil => simp [firstOfEach]
  | cons first rest hypothesis =>
    rw [mem_firstOfEach_cons, hypothesis]
    constructor
    · rintro (rfl | ⟨⟨before, behind, rfl, different⟩, other⟩)
      · exact ⟨[], rest, rfl, List.forall_mem_nil _⟩
      · exact ⟨first :: before, behind, rfl, List.forall_mem_cons.mpr ⟨other, different⟩⟩
    · rintro ⟨before, behind, split, different⟩
      cases before with
      | nil => exact .inl (List.cons.inj split).1.symm
      | cons head before =>
        obtain ⟨rfl, rfl⟩ := List.cons.inj split
        obtain ⟨other, different⟩ := List.forall_mem_cons.mp different
        exact .inr ⟨⟨before, behind, rfl, different⟩, other⟩

/-- No two of the first elements are equal. -/
theorem pairwise_firstOfEach (elements : List Element) :
    (firstOfEach elements).Pairwise fun one other => compare one other ≠ .eq := by
  induction elements with
  | nil => exact .nil
  | cons first rest hypothesis =>
    refine .cons (fun other member => ?_) (hypothesis.filter _)
    exact bne_iff_ne.mp (List.mem_filter.mp member).2

/-- Every element is equal to the first of its class. -/
theorem exists_mem_firstOfEach [Std.TransOrd Element] {element : Element} {elements : List Element}
    (member : element ∈ elements) :
    ∃ kept ∈ firstOfEach elements, compare kept element = .eq := by
  induction elements with
  | nil => exact nomatch member
  | cons first rest hypothesis =>
    by_cases equal : compare first element = .eq
    · exact ⟨first, mem_firstOfEach_cons.mpr (.inl rfl), equal⟩
    · obtain rfl | behind := List.mem_cons.mp member
      · exact absurd Std.ReflCmp.compare_self equal
      · obtain ⟨kept, among, same⟩ := hypothesis behind
        refine ⟨kept, mem_firstOfEach_cons.mpr (.inr ⟨among, fun alike => equal ?_⟩), same⟩
        exact Std.TransCmp.eq_trans alike same

end

/-- Dates that compare as equal are equal. -/
instance : Std.LawfulEqOrd Date where
  eq_of_compare := by
    rintro ⟨year, month, day, valid⟩ ⟨otherYear, otherMonth, otherDay, otherValid⟩ equal
    change compareLex (compareOn Date.year) (compareLex (compareOn Date.month)
      (compareOn Date.day)) _ _ = .eq at equal
    simp only [compareLex_eq_eq, compareOn, Std.compare_eq_iff_eq] at equal
    obtain ⟨rfl, rfl, rfl⟩ := equal
    rfl

/-- Times of day that compare as equal are equal. -/
instance : Std.LawfulEqOrd Time where
  eq_of_compare := by
    rintro ⟨hour, minute, second, nanosecond, valid⟩
      ⟨otherHour, otherMinute, otherSecond, otherNanosecond, otherValid⟩ equal
    change compareLex (compareOn Time.secondOfDay) (compareOn Time.nanosecond) _ _ = .eq at equal
    simp only [compareLex_eq_eq, compareOn, Std.compare_eq_iff_eq, Time.secondOfDay] at equal
    obtain ⟨-, minutes, seconds, -⟩ := valid
    obtain ⟨-, otherMinutes, otherSeconds, -⟩ := otherValid
    obtain ⟨rfl, rfl, rfl⟩ : hour = otherHour ∧ minute = otherMinute ∧ second = otherSecond := by
      omega
    obtain rfl := equal.2
    rfl

/-- Dates with a time that compare as equal are equal. -/
instance : Std.LawfulEqOrd DateTime where
  eq_of_compare := by
    rintro ⟨date, time⟩ ⟨otherDate, otherTime⟩ equal
    change compareLex (compareOn DateTime.date) (compareOn DateTime.time) _ _ = .eq at equal
    simp only [compareLex_eq_eq, compareOn, Std.compare_eq_iff_eq] at equal
    obtain ⟨rfl, rfl⟩ := equal
    rfl

/-- Moments of universal time that compare as equal are equal. -/
instance : Std.LawfulEqOrd Instant where
  eq_of_compare := by
    rintro ⟨universal⟩ ⟨otherUniversal⟩ equal
    change compareOn Instant.universal _ _ = .eq at equal
    simp only [compareOn, Std.compare_eq_iff_eq] at equal
    rw [equal]

/-- The order of a type tells which of its values are equal. -/
theorem ValueType.equality_iff {type : ValueType} {order : Ord type.Carrier}
    (ordered : type.order? = some order) (one other : type.Carrier) :
    type.equality one other ↔ compare one other = .eq := by
  cases type <;> simp only [order?, reduceCtorEq, Option.some.injEq] at ordered <;> subst ordered
  case offsetDateTime =>
    rw [OffsetDateTime.compare_eq_eq_iff]
    exact Prod.mk_inj
  all_goals exact Std.compare_eq_iff_eq.symm

section

variable {Element : Type} {equality : Setoid Element} {elements members : List Element}

/-- Unequal members with an equal one for each element are as many as there are classes. -/
theorem length_eq_ncard_classes (distinct : members.Pairwise fun one other => ¬ equality one other)
    (among : ∀ member ∈ members, member ∈ elements)
    (covered : ∀ element ∈ elements, ∃ member ∈ members, equality member element) :
    members.length =
      (Set.image (Quotient.mk equality) {element | element ∈ elements}).ncard := by
  classical
  have classes : Set.image (Quotient.mk equality) {element | element ∈ elements} =
      (members.map (Quotient.mk equality)).toFinset := by
    ext kind
    simp only [Set.mem_image, Set.mem_ofPred_eq, List.coe_toFinset, List.mem_map]
    constructor
    · rintro ⟨element, member, rfl⟩
      obtain ⟨kept, held, equal⟩ := covered element member
      exact ⟨kept, held, Quotient.sound equal⟩
    · rintro ⟨kept, held, rfl⟩
      exact ⟨kept, among kept held, rfl⟩
  have unlike : (members.map (Quotient.mk equality)).Nodup :=
    List.pairwise_map.mpr (distinct.imp fun apart same => apart (Quotient.exact same))
  rw [classes, Set.ncard_coe_finset, List.toFinset_card_of_nodup unlike, List.length_map]

/-- Whatever the order of the members, they are the first elements of their classes. -/
theorem holdsFirsts_of_perm [Ord Element] [Std.TransOrd Element]
    (told : ∀ one other, equality one other ↔ compare one other = .eq)
    (same : members.Perm (firstOfEach elements)) : HoldsFirsts equality elements members := by
  have distinct : members.Pairwise fun one other => ¬ equality one other := by
    refine (same.pairwise_iff fun apart equal => apart (Setoid.symm equal)).mpr ?_
    exact (pairwise_firstOfEach elements).imp fun different equal => different ((told _ _).mp equal)
  have covered : ∀ element ∈ elements, ∃ member ∈ members, equality member element := by
    intro element listed
    obtain ⟨kept, held, equal⟩ := exists_mem_firstOfEach listed
    exact ⟨kept, same.mem_iff.mpr held, (told kept element).mpr equal⟩
  have first : ∀ member ∈ members, ∃ before behind, elements = before ++ member :: behind ∧
      ∀ earlier ∈ before, ¬ equality earlier member := by
    intro member held
    obtain ⟨before, behind, split, different⟩ := mem_firstOfEach_iff.mp (same.mem_iff.mp held)
    exact ⟨before, behind, split, fun earlier listed equal =>
      different earlier listed ((told earlier member).mp equal)⟩
  have among : ∀ member ∈ members, member ∈ elements := by
    intro member held
    obtain ⟨before, behind, rfl, _⟩ := first member held
    exact List.mem_append_right before List.mem_cons_self
  refine ⟨first, fun element listed => ?_, distinct,
    length_eq_ncard_classes distinct among covered⟩
  obtain ⟨kept, held, equal⟩ := covered element listed
  refine ⟨kept, ⟨held, equal⟩, fun other both => ?_⟩
  have alike : compare other kept = .eq :=
    (told other kept).mp (Setoid.trans both.2 (Setoid.symm equal))
  exact eq_of_mem_firstOfEach (same.mem_iff.mp both.1) (same.mem_iff.mp held) alike

end

namespace ResultSet

open ResultSource

section

variable {Result : Type} [Ord Result] [Std.TransOrd Result]

/-- A hashed set keeps the first of each class of what the pending rows hold. -/
theorem toHashedSet_eq (set : ResultSet) (column : Nat) (reader : Reader Result) :
    toHashedSet set column reader =
      ((set.pending.mapM (value column reader)).map fun results => ⟨firstOfEach results⟩,
        drained column reader set.pending) := by
  have inserted (results : List Result) :
      results.foldl Collection.insert (⟨[]⟩ : HashedSet Result) = ⟨firstOfEach results⟩ :=
    congrArg HashedSet.mk (HashedSet.elements_foldl_insert_nil results)
  rw [toHashedSet, drain_pending]
  simp only [inserted]

/-- A sorted set is made of what the pending rows hold, in their order. -/
theorem toSortedSet_eq (set : ResultSet) (column : Nat) (reader : Reader Result) :
    toSortedSet set column reader =
      ((set.pending.mapM (value column reader)).map SortedSet.ofList,
        drained column reader set.pending) := by
  have inserted (results : List Result) :
      results.foldl Collection.insert (⟨[]⟩ : SortedSet Result) = .ofList results :=
    SortedSet.foldl_insert_nil results
  rw [toSortedSet, drain_pending]
  simp only [inserted]

end

/-- Sets agree with lists, for the accessor of every type that sets can be made of. A set of a
column fails exactly when the list fails, with the same error, and the source is left alike.
Otherwise the hashed and the sorted set hold the same elements: the first of each class of equal
elements of the list. -/
theorem sets_hold_firsts_of_list (set : ResultSet) (column : Nat) {accessor : Accessor}
    [order : Ord accessor.type.Carrier] (ordered : accessor.type.order? = some order) :
    let listed := toList set column accessor.read
    let hashed := toHashedSet set column accessor.read
    let sorted := toSortedSet set column accessor.read
    hashed.2 = listed.2 ∧ sorted.2 = listed.2 ∧
    (∀ error, (hashed.1 = .error error ↔ listed.1 = .error error) ∧
      (sorted.1 = .error error ↔ listed.1 = .error error)) ∧
    ∀ values, listed.1 = .ok values → ∃ members ascending,
      hashed.1 = .ok ⟨members⟩ ∧ sorted.1 = .ok ⟨ascending⟩ ∧
      HoldsFirsts accessor.type.equality values.toList members ∧
      HoldsFirsts accessor.type.equality values.toList ascending ∧
      members.Perm ascending ∧ SortedSet.IsSorted ascending := by
  have transitive := ValueType.transOrd_of_order? ordered
  have told := ValueType.equality_iff ordered
  dsimp only
  rw [toList_eq, toHashedSet_eq, toSortedSet_eq]
  refine ⟨rfl, rfl, fun error => ?_, fun values answered => ?_⟩
  · simp only [Except.map_eq_error_iff, true_and]
  · cases read : set.pending.mapM (value column accessor.read) with
    | error error =>
      rw [read] at answered
      exact nomatch answered
    | ok results =>
      rw [read] at answered
      obtain rfl := Except.ok.inj answered
      have merged : (SortedSet.ofList results).elements.Perm (firstOfEach results) :=
        List.mergeSort_perm _ _
      have sorted : SortedSet.IsSorted (SortedSet.ofList results).elements := by
        rw [← SortedSet.foldl_insert_nil]
        exact SortedSet.isSorted_foldl_insert results ⟨[]⟩ .nil
      exact ⟨_, _, rfl, rfl, holdsFirsts_of_perm told (List.Perm.refl _),
        holdsFirsts_of_perm told merged, merged.symm, sorted⟩

section

open OffsetDateTime (reader)

/-- Noon in universal time. -/
def noonHere : OffsetDateTime := ⟨OffsetDateTime.noon, 0, by decide⟩

/-- The same moment, told two hours to the east. -/
def noonThere : OffsetDateTime :=
  ⟨⟨OffsetDateTime.noon.date, ⟨14, 0, 0, 0, by decide⟩⟩, 7200, by decide⟩

/-- Of three values that tell one moment both kinds of sets hold the first. -/
theorem sets_hold_firsts_of_list_of_one_moment :
    let row (told : OffsetDateTime) : Row := [(Bindable.typed .offsetDateTime told).held]
    let set := ofRows [row noonHere, row noonThere, row noonHere]
    ∃ members ascending, (toHashedSet set 1 reader).1 = .ok ⟨members⟩ ∧
      (toSortedSet set 1 reader).1 = .ok ⟨ascending⟩ ∧ members.Perm ascending ∧
      noonHere ∈ members ∧ ∀ member ∈ members, member = noonHere := by
  intro row set
  have read {told : OffsetDateTime} (whole : 60 ∣ told.offset) :
      value 1 reader (row told) = .ok told :=
    OffsetDateTime.get_held_eq_ok_iff.mpr (OffsetDateTime.reread_of_dvd whole)
  have listed : (toList set 1 reader).1 = .ok #[noonHere, noonThere, noonHere] := by
    have all : set.pending.mapM (value 1 reader) = .ok [noonHere, noonThere, noonHere] :=
      Except.mapM_eq_ok_iff.mpr
        (.cons (read (by decide)) (.cons (read (by decide)) (.cons (read (by decide)) .nil)))
    rw [toList_eq, all]
    rfl
  obtain ⟨members, ascending, hashed, sorted, holds, _, same, _⟩ :=
    (@sets_hold_firsts_of_list set 1 .offsetDateTime (inferInstanceAs (Ord OffsetDateTime))
      rfl).2.2.2 _ listed
  have alike : ∀ told ∈ [noonHere, noonThere, noonHere],
      ValueType.offsetDateTime.equality noonHere told := by
    have there : noonHere.universalSecond = noonThere.universalSecond := by decide
    refine List.forall_mem_cons.mpr ⟨rfl, List.forall_mem_cons.mpr ⟨?_, ?_⟩⟩
    · exact Prod.ext there rfl
    · exact List.forall_mem_singleton.mpr rfl
  have only : ∀ member ∈ members, member = noonHere := by
    intro member held
    obtain ⟨before, behind, split, different⟩ := holds.first member held
    cases before with
    | nil => exact (List.cons.inj split).1.symm
    | cons earlier before =>
      have among : member ∈ [noonHere, noonThere, noonHere] := by
        rw [show [noonHere, noonThere, noonHere] = _ from split]
        exact List.mem_append_right (earlier :: before) List.mem_cons_self
      obtain rfl := (List.cons.inj split).1
      exact absurd (alike member among) (different noonHere List.mem_cons_self)
  obtain ⟨kept, ⟨held, _⟩, _⟩ := holds.single noonHere List.mem_cons_self
  exact ⟨members, ascending, hashed, sorted, same, only kept held ▸ held, only⟩

end

end ResultSet

end DataAccess
