/-
This file proves that types are recognised by their form: each step that looks at a declared type
answers for exactly the types of one form.
-/

import DataAccess.Mapping.Support

namespace DataAccess

/-- In a table whose keys differ, looking up a key finds its row. -/
theorem lookup_eq_some_iff_mem {Value : Type} {table : List (String × Value)} {key : String}
    {value : Value} (distinct : (table.map Prod.fst).Nodup) :
    table.lookup key = some value ↔ (key, value) ∈ table := by
  induction table with
  | nil => simp
  | cons row rest hypothesis =>
    obtain ⟨first, found⟩ := row
    rw [List.map_cons, List.nodup_cons] at distinct
    rw [List.lookup_cons, List.mem_cons]
    by_cases same : key = first
    · subst same
      have absent : (key, value) ∉ rest := fun member =>
        distinct.1 (List.mem_map.mpr ⟨(key, value), member, rfl⟩)
      simp [absent, eq_comm]
    · simp [beq_false_of_ne same, same, hypothesis distinct.2]

/-- The forms of arguments are those of the types among them. -/
theorem argumentForms_eq (list : List Argument) :
    argumentForms list = (list.filterMap Argument.type?).map DeclaredType.form := by
  induction list with
  | nil => rfl
  | cons argument rest hypothesis =>
    cases argument with
    | type => simp [argumentForms, Argument.type?, hypothesis]
    | lifetime => simpa [argumentForms, List.filterMap_cons, Argument.type?] using hypothesis
    | other => simpa [argumentForms, List.filterMap_cons, Argument.type?] using hypothesis

namespace Mapping

open TypeForm

/-- The form of a path is told by its last segment. -/
def Segment.form (segment : Segment) : TypeForm :=
  segment.arguments.form segment.name

/-- Parentheses and invisible groups do not change the form of a type. -/
theorem form_strip (declared : DeclaredType) : (strip declared).form = declared.form := by
  fun_induction strip declared <;> simp_all [DeclaredType.form]

/-- A type that is a path has the form of its last segment. -/
theorem form_of_segment? {declared : DeclaredType} {segment : Segment}
    (found : segment? declared = some segment) : declared.form = segment.form := by
  rw [← form_strip]
  unfold segment? at found
  split at found
  next last arguments stripped =>
    rw [stripped, ← Option.some.inj found]
    rfl
  next => exact nomatch found

/-- Only paths have forms with a name. -/
theorem exists_segment? {declared : DeclaredType} {name : String}
    (named : declared.form = .bare name ∨ ∃ forms, declared.form = .applied name forms) :
    ∃ segment, segment? declared = some segment := by
  -- The form and the segment both look through parentheses, as stripping does.
  fun_induction strip declared with
  | case1 _ _ inner hypothesis => exact hypothesis named
  | case2 _ _ inner hypothesis => exact hypothesis named
  | case5 => exact ⟨_, rfl⟩
  | case3 | case4 | case6 => simp [DeclaredType.form] at named

/-- A type has the form of a bare name exactly if its last segment is that name without
arguments. -/
theorem form_eq_bare_iff {declared : DeclaredType} {name : String} :
    declared.form = .bare name ↔
      ∃ segment, segment? declared = some segment ∧ segment.name = name ∧
        segment.isBare = true := by
  have told (segment : Segment) :
      segment.form = .bare name ↔ segment.name = name ∧ segment.isBare = true := by
    obtain ⟨last, arguments⟩ := segment
    cases arguments <;> simp [Segment.form, Arguments.form, Segment.isBare]
  constructor
  · intro formed
    obtain ⟨segment, found⟩ := exists_segment? (.inl formed)
    exact ⟨segment, found, (told segment).mp (form_of_segment? found ▸ formed)⟩
  · rintro ⟨segment, found, plain⟩
    rw [form_of_segment? found, told]
    exact plain

/-- A path has a form with arguments where it has an argument list. -/
theorem form_eq_applied_iff {declared : DeclaredType} {name : String} {forms : List TypeForm}
    (present : forms ≠ []) :
    declared.form = .applied name forms ↔
      ∃ segment, segment? declared = some segment ∧ segment.name = name ∧
        segment.types.map DeclaredType.form = forms := by
  have told (segment : Segment) : segment.form = .applied name forms ↔
      segment.name = name ∧ segment.types.map DeclaredType.form = forms := by
    obtain ⟨last, arguments⟩ := segment
    cases arguments <;>
      simp [Segment.form, Arguments.form, Segment.types, argumentForms_eq, present.symm]
  constructor
  · intro formed
    obtain ⟨segment, found⟩ := exists_segment? (.inr ⟨forms, formed⟩)
    exact ⟨segment, found, (told segment).mp (form_of_segment? found ▸ formed)⟩
  · rintro ⟨segment, found, applied⟩
    rw [form_of_segment? found, told]
    exact applied

/-- A segment with types among its arguments is not bare. -/
theorem not_isBare_of_types {segment : Segment} (present : segment.types ≠ []) :
    segment.isBare = false := by
  obtain ⟨last, arguments⟩ := segment
  cases arguments <;> simp_all [Segment.types, Segment.isBare]

/-- A type is plain exactly if its form is the bare name. -/
theorem isPlain_iff {declared : DeclaredType} {name : String} :
    isPlain declared name = true ↔ declared.form = .bare name := by
  rw [form_eq_bare_iff, isPlain]
  cases found : segment? declared <;> simp [Segment.isPlain]

/-- Cursors are told by their form. -/
theorem isCursor_iff {declared : DeclaredType} :
    isCursor declared = true ↔ declared.form = cursor :=
  isPlain_iff

/-- The unit is told by its form. -/
theorem isUnit_iff {declared : DeclaredType} :
    isUnit declared = true ↔ declared.form = .unit := by
  fun_induction strip declared with
  | case1 _ _ inner hypothesis => exact hypothesis
  | case2 _ _ inner hypothesis => exact hypothesis
  | case3 | case4 | case6 => simp [DeclaredType.form, isUnit, strip]
  | case5 _ _ arguments =>
    cases arguments <;> simp [DeclaredType.form, Arguments.form, isUnit, strip]

/-- A type whose list of type arguments has one element, seen as a form. -/
theorem form_eq_applied_singleton_iff {declared : DeclaredType} {name : String}
    {element : TypeForm} :
    declared.form = .applied name [element] ↔
      ∃ segment argument, segment? declared = some segment ∧ segment.name = name ∧
        segment.types = [argument] ∧ argument.form = element := by
  rw [form_eq_applied_iff (List.cons_ne_nil element [])]
  simp only [List.map_eq_singleton_iff, exists_and_left]

/-- Bytes are told by their form. -/
theorem isBlob_iff {declared : DeclaredType} :
    isBlob declared = true ↔ declared.form = blob := by
  rw [blob, form_eq_applied_singleton_iff, isBlob]
  cases found : segment? declared with
  | none => simp
  | some segment =>
    simp only [Bool.and_eq_true, beq_iff_eq, Option.some.injEq, exists_and_left, exists_eq_left',
      ← isPlain_iff]
    refine and_congr_right fun _ => ?_
    split
    next element single => simp [single]
    next several =>
      simp only [Bool.false_eq_true, false_iff]
      rintro ⟨element, single, -⟩
      exact several element single

/-- A time zone is told by the bare name of its form. -/
theorem timezone?_eq_some_iff {declared : DeclaredType} {value : ValueType} :
    timezone? declared = some value ↔
      ∃ name, (name, value) ∈ timezoneNames ∧ declared.form = .bare name := by
  have distinct : (timezoneNames.map Prod.fst).Nodup := by decide
  simp only [form_eq_bare_iff, timezone?, ← lookup_eq_some_iff_mem distinct]
  cases found : segment? declared with
  | none => simp
  | some segment =>
    simp only [Option.some.injEq, exists_eq_left', Option.bind_eq_bind, Option.bind_some,
      Option.ite_none_right_eq_some]
    constructor
    · rintro ⟨plain, zone⟩
      exact ⟨segment.name, zone, rfl, plain⟩
    · rintro ⟨_, zone, rfl, plain⟩
      exact ⟨plain, zone⟩

/-- A path stands for a value exactly if its form is in the tables. -/
theorem pathValue?_eq_some_iff {declared : DeclaredType} {value : ValueType} :
    (segment? declared).bind pathValue? = some value ↔
      (∃ name, (name, value) ∈ scalarNames ∧ declared.form = .bare name) ∨
        ∃ zone, (zone, value) ∈ timezoneNames ∧
          declared.form = .applied "DateTime" [.bare zone] := by
  have distinct : (scalarNames.map Prod.fst).Nodup := by decide
  simp only [form_eq_bare_iff, form_eq_applied_singleton_iff, ← lookup_eq_some_iff_mem distinct]
  cases found : segment? declared with
  | none => simp
  | some segment =>
    simp only [Option.some.injEq, exists_and_left, exists_eq_left', Option.bind_some, pathValue?]
    constructor
    · intro valued
      split at valued
      next plain => exact .inl ⟨segment.name, valued, rfl, plain⟩
      next =>
        split at valued
        next dated =>
          split at valued
          next timezone single =>
            obtain ⟨zone, listed, formed⟩ := timezone?_eq_some_iff.mp valued
            exact .inr ⟨zone, listed, beq_iff_eq.mp dated, timezone, single,
              form_eq_bare_iff.mp formed⟩
          next => exact nomatch valued
        next => exact nomatch valued
    · rintro (⟨_, valued, rfl, plain⟩ | ⟨zone, listed, dated, timezone, single, formed⟩)
      · rw [if_pos plain]
        exact valued
      · have applied : segment.isBare = false := not_isBare_of_types (by simp [single])
        simp only [applied, dated, single, beq_self_eq_true, Bool.false_eq_true, if_true, if_false]
        exact timezone?_eq_some_iff.mpr ⟨zone, listed, form_eq_bare_iff.mpr formed⟩

/-- Only references have the form of one. -/
theorem exists_reference {declared : DeclaredType} {mutable : Bool} {form : TypeForm}
    (formed : declared.form = .reference mutable form) :
    ∃ ampersand lifetime mutability referent,
      strip declared = .reference ampersand lifetime mutability referent := by
  fun_induction strip declared with
  | case1 _ _ inner hypothesis => exact hypothesis formed
  | case2 _ _ inner hypothesis => exact hypothesis formed
  | case3 | case6 => simp [DeclaredType.form] at formed
  | case4 ampersand lifetime mutability referent =>
    exact ⟨ampersand, lifetime, mutability, referent, rfl⟩
  | case5 _ _ arguments => cases arguments <;> simp [DeclaredType.form, Arguments.form] at formed

/-- A form is that of a container exactly if it applies the container's name to one element. -/
theorem isContainer_iff {form element : TypeForm} {kind : ContainerKind} :
    IsContainer form kind element ↔
      ∃ name, (name, kind) ∈ containerNames ∧ form = .applied name [element] := by
  constructor
  · intro container
    cases container <;> exact ⟨_, by simp [containerNames], rfl⟩
  · rintro ⟨name, named, rfl⟩
    simp only [containerNames, List.mem_cons, Prod.mk.injEq, List.not_mem_nil, or_false] at named
    obtain ⟨rfl, rfl⟩ | ⟨rfl, rfl⟩ | ⟨rfl, rfl⟩ | ⟨rfl, rfl⟩ := named
    · exact .vector element
    · exact .queue element
    · exact .hashSet element
    · exact .treeSet element

/-- A type has the form of a container exactly if it is recognised as one. -/
theorem isContainer_form_iff {declared : DeclaredType} {kind : ContainerKind} {form : TypeForm} :
    IsContainer declared.form kind form ↔
      ∃ element, container? declared = some (kind, element) ∧ element.form = form := by
  have distinct : (containerNames.map Prod.fst).Nodup := by decide
  simp only [isContainer_iff, form_eq_applied_singleton_iff, container?,
    ← lookup_eq_some_iff_mem distinct]
  constructor
  · rintro ⟨_, listed, segment, argument, found, rfl, single, formed⟩
    exact ⟨argument, by simp [found, listed, single], formed⟩
  · rintro ⟨element, contained, formed⟩
    obtain ⟨segment, found, rest⟩ := Option.bind_eq_some_iff.mp contained
    obtain ⟨found', listed, rest⟩ := Option.bind_eq_some_iff.mp rest
    split at rest
    next argument single =>
      obtain ⟨rfl, rfl⟩ := Prod.mk.inj (Option.some.inj rest)
      exact ⟨segment.name, listed, segment, argument, found, rfl, single, formed⟩
    next => exact nomatch rest

/-- A recognised container has the form of one. -/
theorem isContainer_form_of_container? {declared element : DeclaredType} {kind : ContainerKind}
    (contained : container? declared = some (kind, element)) :
    IsContainer declared.form kind element.form :=
  isContainer_form_iff.mpr ⟨element, contained, rfl⟩

/-- A type that is recognised as no container has the form of none. -/
theorem container?_eq_none_iff {declared : DeclaredType} :
    container? declared = none ↔ ∀ kind element, ¬ IsContainer declared.form kind element := by
  simp [isContainer_form_iff, Option.eq_none_iff_forall_ne_some]

/-- A type answers a form exactly if it is recognised as a result with that form inside. -/
theorem answers_form_iff {declared : DeclaredType} {form : TypeForm} :
    Answers declared.form form ↔
      ∃ answer, resultInner? declared = some answer ∧ answer.form = form := by
  constructor
  · intro answers
    generalize formed : declared.form = outer at answers
    cases answers with
    | alone =>
      obtain ⟨segment, argument, found, named, single, rfl⟩ :=
        form_eq_applied_singleton_iff.mp formed
      exact ⟨argument, by simp [resultInner?, found, named, single], rfl⟩
    | orError _ error =>
      obtain ⟨segment, found, named, listed⟩ :=
        (form_eq_applied_iff (List.cons_ne_nil form [error])).mp formed
      obtain ⟨argument, rest, parts, rfl, mapped⟩ := List.map_eq_cons_iff.mp listed
      obtain ⟨other, rfl, rfl⟩ := List.map_eq_singleton_iff.mp mapped
      exact ⟨argument, by simp [resultInner?, found, named, parts], rfl⟩
  · rintro ⟨answer, inner, rfl⟩
    obtain ⟨segment, found, rest⟩ := Option.bind_eq_some_iff.mp inner
    split at rest
    next named =>
      have applied (forms : List TypeForm) (present : forms ≠ [])
          (listed : segment.types.map DeclaredType.form = forms) :
          declared.form = .applied "Result" forms :=
        (form_eq_applied_iff present).mpr ⟨segment, found, beq_iff_eq.mp named, listed⟩
      split at rest
      next single =>
        rw [← Option.some.inj rest, applied _ (List.cons_ne_nil _ _) (congrArg _ single)]
        exact .alone _
      next error pair =>
        rw [← Option.some.inj rest, applied _ (List.cons_ne_nil _ _) (congrArg _ pair)]
        exact .orError _ _
      next => exact nomatch rest
    next => exact nomatch rest

/-- A type that is recognised as no result answers no form. -/
theorem resultInner?_eq_none_iff {declared : DeclaredType} :
    resultInner? declared = none ↔ ∀ answer, ¬ Answers declared.form answer := by
  simp [answers_form_iff, Option.eq_none_iff_forall_ne_some]

end Mapping

end DataAccess
