/-
This file proves that inserting elements one by one makes the set of a list: the first of each class
of equal elements, in ascending order.
-/

import DataAccess.Execution.Meaning

namespace DataAccess

/-- Dates are ordered transitively. -/
instance : Std.TransOrd Date :=
  inferInstanceAs (Std.TransCmp (compareLex _ (compareLex _ _)))

/-- Times of day are ordered transitively. -/
instance : Std.TransOrd Time :=
  inferInstanceAs (Std.TransCmp (compareLex _ _))

/-- Dates with a time are ordered transitively. -/
instance : Std.TransOrd DateTime :=
  inferInstanceAs (Std.TransCmp (compareLex _ _))

/-- Moments of universal time are ordered transitively. -/
instance : Std.TransOrd Instant :=
  inferInstanceAs (Std.TransCmp (compareOn _))

/-- Dates with a time and an offset are ordered transitively. -/
instance : Std.TransOrd OffsetDateTime :=
  inferInstanceAs (Std.TransCmp (compareLex _ _))

/-- The order of every type that can be collected into a set is transitive. -/
theorem ValueType.transOrd_of_order? {type : ValueType} {order : Ord type.Carrier}
    (ordered : type.order? = some order) : Std.TransOrd type.Carrier := by
  cases type <;> simp only [order?, reduceCtorEq, Option.some.injEq] at ordered <;>
    subst ordered <;> exact inferInstance

section

variable {Element : Type} [Ord Element]

/-- Elements are dropped by class when one element of a class is dropped with all its equals. -/
theorem firstOfEach_filter (keep : Element → Bool)
    (classwise : ∀ first second, compare first second = .eq → keep first = keep second)
    (elements : List Element) :
    firstOfEach (elements.filter keep) = (firstOfEach elements).filter keep := by
  induction elements with
  | nil => rfl
  | cons element rest hypothesis =>
    cases kept : keep element with
    | true =>
      rw [List.filter_cons_of_pos kept, firstOfEach, hypothesis, firstOfEach,
        List.filter_cons_of_pos kept, List.filter_filter, List.filter_filter]
      congr 2
      funext other
      exact Bool.and_comm _ _
    | false =>
      have dropped : ¬keep element = true := by
        rw [kept]
        exact Bool.false_ne_true
      rw [List.filter_cons_of_neg dropped, hypothesis, firstOfEach,
        List.filter_cons_of_neg dropped, List.filter_filter]
      apply List.filter_congr
      intro other _
      cases keeps : keep other with
      | false => rfl
      | true =>
        have different : compare element other ≠ .eq := by
          intro equal
          rw [classwise element other equal, keeps] at kept
          exact nomatch kept
        simp [different]

/-- An insertion adds nothing but its element. -/
theorem SortedSet.mem_insertInto {element other : Element} {elements : List Element}
    (member : other ∈ insertInto element elements) : other = element ∨ other ∈ elements := by
  induction elements with
  | nil => exact List.mem_cons.mp member
  | cons first rest hypothesis =>
    rw [insertInto] at member
    split at member
    · exact List.mem_cons.mp member
    · exact .inr member
    · rcases List.mem_cons.mp member with rfl | behind
      · exact .inr List.mem_cons_self
      · rcases hypothesis behind with new | old
        · exact .inl new
        · exact .inr (List.mem_cons_of_mem first old)

/-- Two sets that differ only in order take up the same elements. -/
theorem HashedSet.insert_perm_congr {first second : List Element} (same : first.Perm second)
    (element : Element) :
    (HashedSet.insert ⟨first⟩ element).elements.Perm
      (HashedSet.insert ⟨second⟩ element).elements := by
  have found : first.any (fun member => compare member element == .eq) =
      second.any (fun member => compare member element == .eq) := same.any_eq
  rw [HashedSet.insert, HashedSet.insert, found]
  split
  · exact same
  · exact same.append_right [element]

variable [Std.TransOrd Element]

/-- No two elements that are kept are equal. -/
theorem eq_of_mem_firstOfEach {first second : Element} {elements : List Element}
    (firstKept : first ∈ firstOfEach elements) (secondKept : second ∈ firstOfEach elements)
    (equal : compare first second = .eq) : first = second := by
  induction elements with
  | nil => exact nomatch firstKept
  | cons element rest hypothesis =>
    rcases List.mem_cons.mp firstKept with rfl | firstBehind
    · rcases List.mem_cons.mp secondKept with rfl | secondBehind
      · rfl
      · have different := (List.mem_filter.mp secondBehind).2
        simp [equal] at different
    · rcases List.mem_cons.mp secondKept with rfl | secondBehind
      · have different := (List.mem_filter.mp firstBehind).2
        simp [Std.OrientedCmp.eq_symm equal] at different
      · exact hypothesis (List.mem_filter.mp firstBehind).1 (List.mem_filter.mp secondBehind).1

namespace HashedSet

/-- An element is in the set, as far as equality tells. -/
def holds (set : HashedSet Element) (element : Element) : Bool :=
  set.elements.any fun member => compare member element == .eq

/-- Behind the elements that a set already has, it gets the first of each class that it lacks. -/
theorem elements_foldl_insert (elements : List Element) (set : HashedSet Element) :
    (elements.foldl insert set).elements =
      set.elements ++ firstOfEach (elements.filter fun element => !set.holds element) := by
  induction elements generalizing set with
  | nil => simp [firstOfEach]
  | cons element rest hypothesis =>
    rw [List.foldl_cons, hypothesis]
    cases present : set.holds element with
    | true =>
      have same : set.insert element = set := if_pos present
      rw [same, List.filter_cons_of_neg (by simp [present])]
    | false =>
      have absent : ¬set.holds element = true := by
        rw [present]
        exact Bool.false_ne_true
      have longer : set.insert element = ⟨set.elements ++ [element]⟩ := if_neg absent
      have lacking : (fun other => !(set.insert element).holds other) = fun other =>
          (compare element other != .eq) && !set.holds other := by
        funext other
        rw [longer]
        simp only [holds, List.any_append, List.any_cons, List.any_nil, Bool.or_false,
          Bool.not_or, bne]
        exact Bool.and_comm _ _
      have classwise : ∀ first second, compare first second = .eq →
          (compare element first != .eq) = (compare element second != .eq) := by
        intro first second equal
        rw [Std.TransCmp.congr_right equal]
      rw [lacking, longer, List.filter_cons_of_pos (by simp [present]), firstOfEach,
        List.append_assoc, List.singleton_append, ← firstOfEach_filter _ classwise,
        List.filter_filter]

/-- A set that elements were put into one by one keeps the first of each class. -/
theorem elements_foldl_insert_nil (elements : List Element) :
    (elements.foldl insert ⟨[]⟩).elements = firstOfEach elements := by
  have lacking : (elements.filter fun element => !holds ⟨[]⟩ element) = elements :=
    List.filter_eq_self.mpr fun _ _ => rfl
  rw [elements_foldl_insert, lacking, List.nil_append]

end HashedSet

namespace SortedSet

/-- The elements are in ascending order, and no two of them are equal. -/
def IsSorted (elements : List Element) : Prop :=
  elements.Pairwise fun first second => compare first second = .lt

/-- Insertion keeps the order. -/
theorem isSorted_insertInto {elements : List Element} (sorted : IsSorted elements)
    (element : Element) : IsSorted (insertInto element elements) := by
  induction elements with
  | nil => exact List.pairwise_singleton _ _
  | cons first rest hypothesis =>
    obtain ⟨before, tail⟩ := List.pairwise_cons.mp sorted
    rw [insertInto]
    split
    next less =>
      refine List.Pairwise.cons (fun other member => ?_) sorted
      rcases List.mem_cons.mp member with rfl | behind
      · exact less
      · exact Std.TransCmp.lt_trans less (before other behind)
    next => exact sorted
    next greater =>
      refine List.Pairwise.cons (fun other member => ?_) (hypothesis tail)
      rcases mem_insertInto member with rfl | old
      · exact Std.OrientedCmp.lt_of_gt greater
      · exact before other old

/-- An element below all others is none of them. -/
theorem insert_of_below {elements : List Element} {element : Element}
    (below : ∀ member ∈ elements, compare element member = .lt) :
    HashedSet.insert ⟨elements⟩ element = ⟨elements ++ [element]⟩ := by
  have absent : ¬elements.any (fun member => compare member element == .eq) = true := by
    intro found
    obtain ⟨member, among, equal⟩ := List.any_eq_true.mp found
    rw [beq_iff_eq, Std.OrientedCmp.eq_comm, below member among] at equal
    exact nomatch equal
  rw [HashedSet.insert, if_neg absent]

/-- Insertion in order adds what insertion in the order of arrival adds. -/
theorem insertInto_perm {elements : List Element} (sorted : IsSorted elements)
    (element : Element) :
    (insertInto element elements).Perm (HashedSet.insert ⟨elements⟩ element).elements := by
  induction elements with
  | nil => exact List.Perm.refl _
  | cons first rest hypothesis =>
    obtain ⟨before, tail⟩ := List.pairwise_cons.mp sorted
    rw [insertInto]
    split
    next less =>
      have below : ∀ member ∈ first :: rest, compare element member = .lt := by
        intro member among
        rcases List.mem_cons.mp among with rfl | behind
        · exact less
        · exact Std.TransCmp.lt_trans less (before member behind)
      rw [insert_of_below below]
      exact (List.perm_append_singleton element (first :: rest)).symm
    next equal =>
      have present : (first :: rest).any (fun member => compare member element == .eq) = true := by
        rw [List.any_cons, Std.OrientedCmp.eq_symm equal]
        rfl
      rw [HashedSet.insert, if_pos present]
    next greater =>
      have different : (compare first element == .eq) = false := by
        rw [Std.OrientedCmp.lt_of_gt greater]
        rfl
      have behind := (hypothesis tail).cons first
      rw [HashedSet.insert] at behind ⊢
      rw [List.any_cons, different, Bool.false_or]
      split at behind
      next present => rwa [if_pos present]
      next absent => rwa [if_neg absent]

/-- Insertions keep a sorted set sorted. -/
theorem isSorted_foldl_insert (elements : List Element) (set : SortedSet Element)
    (sorted : IsSorted set.elements) : IsSorted (elements.foldl insert set).elements := by
  induction elements generalizing set with
  | nil => exact sorted
  | cons element rest hypothesis =>
    exact hypothesis (set.insert element) (isSorted_insertInto sorted element)

/-- A sorted set holds what a hashed set holds of the same insertions. -/
theorem foldl_insert_perm (elements : List Element) (set : SortedSet Element)
    (arrived : HashedSet Element) (sorted : IsSorted set.elements)
    (same : set.elements.Perm arrived.elements) :
    (elements.foldl insert set).elements.Perm
      (elements.foldl HashedSet.insert arrived).elements := by
  induction elements generalizing set arrived with
  | nil => exact same
  | cons element rest hypothesis =>
    refine hypothesis (set.insert element) (arrived.insert element)
      (isSorted_insertInto sorted element) ?_
    exact (insertInto_perm sorted element).trans (HashedSet.insert_perm_congr same element)

/-- Any two elements are in order one way or the other. -/
theorem isLE_total (first second : Element) :
    ((compare first second).isLE || (compare second first).isLE) = true := by
  have swapped : compare first second = (compare second first).swap := Std.OrientedCmp.eq_swap
  rw [swapped]
  cases compare second first <;> rfl

/-- Elements that are inserted one by one make the set of their list. -/
theorem foldl_insert_nil (elements : List Element) :
    elements.foldl insert (⟨[]⟩ : SortedSet Element) = ofList elements := by
  have sorted := isSorted_foldl_insert elements ⟨[]⟩ List.Pairwise.nil
  have same := foldl_insert_perm elements ⟨[]⟩ ⟨[]⟩ List.Pairwise.nil (List.Perm.refl [])
  rw [HashedSet.elements_foldl_insert_nil] at same
  have merged := List.mergeSort_perm (firstOfEach elements)
    fun first second => (compare first second).isLE
  have ascending : (ofList elements).elements.Pairwise fun first second =>
      (compare first second).isLE = true :=
    List.pairwise_mergeSort (fun _ _ _ => Std.TransCmp.isLE_trans) isLE_total _
  suffices equal : (elements.foldl insert (⟨[]⟩ : SortedSet Element)).elements =
      (ofList elements).elements by
    exact congrArg SortedSet.mk equal
  refine List.Perm.eq_of_pairwise ?_ (sorted.imp ?_) ascending (same.trans merged.symm)
  · intro first second firstMember secondMember above below
    exact eq_of_mem_firstOfEach (same.subset firstMember) (merged.subset secondMember)
      (Std.OrientedCmp.isLE_antisymm above below)
  · intro first second less
    rw [less]
    rfl

end SortedSet

end

end DataAccess
