/-
This file proves that exactly the supported types are accepted. What is accepted, and why the rest
is refused, is told by the form of a type and by the table of supported types.
-/

import DataAccess.Proofs.Mapping.Form

namespace DataAccess.Mapping

open TypeForm

/-- How the types of the table are recognised: by a name, by a name and a time zone, or as one of
two composed types. -/
inductive Recognised : TypeForm → ValueType → Prop
  | scalar {name : String} {value : ValueType} : (name, value) ∈ scalarNames →
      Recognised (.bare name) value
  | zoned {zone : String} {value : ValueType} : (zone, value) ∈ timezoneNames →
      Recognised (.applied "DateTime" [.bare zone]) value
  | borrowed : Recognised (.reference false (.bare "str")) .borrowed
  | blob : Recognised blob .blob

/-- A form is recognised exactly if it is in the table of supported types. -/
theorem recognised_iff {form : TypeForm} {value : ValueType} :
    Recognised form value ↔
      ∃ supported ∈ supportedTypes, supported.form = form ∧ supported.value = value := by
  constructor
  · intro recognised
    cases recognised with
    | scalar listed =>
      have rows : ∀ row ∈ scalarNames, ∃ supported ∈ supportedTypes,
          supported.form = .bare row.1 ∧ supported.value = row.2 := by
        simp [scalarNames, supportedTypes]
      exact rows _ listed
    | zoned listed =>
      have rows : ∀ row ∈ timezoneNames, ∃ supported ∈ supportedTypes,
          supported.form = .applied "DateTime" [.bare row.1] ∧ supported.value = row.2 := by
        simp [timezoneNames, supportedTypes]
      exact rows _ listed
    | borrowed => simp [supportedTypes]
    | blob => simp [supportedTypes]
  · rintro ⟨supported, listed, rfl, rfl⟩
    revert supported
    simp only [supportedTypes, List.forall_mem_cons, List.not_mem_nil]
    repeat' apply And.intro
    all_goals first
      | exact .borrowed
      | exact .blob
      | exact .scalar (by decide)
      | exact .zoned (by decide)
      | simp

/-- What is classified is recognised by its form. -/
theorem recognised_of_classify {declared : DeclaredType} {value : ValueType}
    (classified : classify declared = some value) : Recognised declared.form value := by
  unfold classify at classified
  split at classified
  next mutability referent stripped =>
    rw [← form_strip, stripped, DeclaredType.form]
    split at classified
    next shared =>
      rw [Bool.and_eq_true, Option.isNone_iff_eq_none] at shared
      rw [← Option.some.inj classified, shared.1, isPlain_iff.mp shared.2]
      exact .borrowed
    next => contradiction
  next =>
    split at classified
    next binary =>
      rw [← Option.some.inj classified, isBlob_iff.mp binary]
      exact .blob
    next =>
      obtain ⟨name, listed, formed⟩ | ⟨zone, listed, formed⟩ :=
        pathValue?_eq_some_iff.mp classified
      · exact formed ▸ .scalar listed
      · exact formed ▸ .zoned listed

/-- A reference to a string slice is classified as borrowed text. -/
theorem classify_of_reference {declared : DeclaredType}
    (formed : declared.form = .reference false (.bare "str")) :
    classify declared = some .borrowed := by
  obtain ⟨ampersand, lifetime, mutability, referent, stripped⟩ := exists_reference formed
  rw [← form_strip, stripped, DeclaredType.form, TypeForm.reference.injEq, ← isPlain_iff] at formed
  simp only [classify, stripped]
  rw [if_pos]
  simpa using formed

/-- A type that is no reference is a blob or the type of a path. -/
theorem classify_of_named {declared : DeclaredType} {name : String}
    (named : declared.form = .bare name ∨ ∃ forms, declared.form = .applied name forms) :
    classify declared =
      if isBlob declared then some .blob else (segment? declared).bind pathValue? := by
  unfold classify
  split
  next stripped =>
    rw [← form_strip, stripped] at named
    simp [DeclaredType.form] at named
  next => rfl

/-- A type has the value that stands beside its form in the table. -/
theorem classify_eq_some_iff {declared : DeclaredType} {value : ValueType} :
    classify declared = some value ↔ Recognised declared.form value := by
  refine ⟨recognised_of_classify, fun recognised => ?_⟩
  -- Each row of the table is recognised by another branch, and blobs before all paths.
  generalize formed : declared.form = form at recognised
  cases recognised with
  | borrowed => exact classify_of_reference formed
  | blob => rw [classify_of_named (.inr ⟨_, formed⟩), if_pos (isBlob_iff.mpr formed)]
  | scalar listed =>
    have other : isBlob declared ≠ true := by simp [isBlob_iff, formed, blob]
    rw [classify_of_named (.inl formed), if_neg other]
    exact pathValue?_eq_some_iff.mpr (.inl ⟨_, listed, formed⟩)
  | zoned listed =>
    have other : isBlob declared ≠ true := by simp [isBlob_iff, formed, blob]
    rw [classify_of_named (.inr ⟨_, formed⟩), if_neg other]
    exact pathValue?_eq_some_iff.mpr (.inr ⟨_, listed, formed⟩)

/-- Recognised types bind with the tag and are extracted with the accessor of their value. -/
theorem supported_eq {supported : SupportedType} (listed : supported ∈ supportedTypes) :
    supported.tag? = supported.value.binding? ∧
      supported.accessor? = supported.value.accessor? := by
  revert supported
  simp [supportedTypes, ValueType.binding?, ValueType.accessor?]

/-- A form binds exactly if it is recognised as a value that has a tag. -/
theorem binds_iff {form : TypeForm} {value : ValueType} {tag : WireTag} :
    form.Binds value tag ↔ Recognised form value ∧ value.binding? = some tag := by
  rw [recognised_iff]
  constructor
  · rintro ⟨supported, listed, rfl, rfl, tagged⟩
    exact ⟨⟨supported, listed, rfl, rfl⟩, (supported_eq listed).1 ▸ tagged⟩
  · rintro ⟨⟨supported, listed, rfl, rfl⟩, tagged⟩
    exact ⟨supported, listed, rfl, rfl, (supported_eq listed).1.trans tagged⟩

/-- A form is extracted exactly if it is recognised as a value that has an accessor. -/
theorem extracts_iff {form : TypeForm} {value : ValueType} :
    form.Extracts value ↔ Recognised form value ∧ value.accessor?.isSome = true := by
  rw [recognised_iff]
  constructor
  · rintro ⟨supported, listed, rfl, rfl, extracted⟩
    exact ⟨⟨supported, listed, rfl, rfl⟩, (supported_eq listed).2 ▸ extracted⟩
  · rintro ⟨⟨supported, listed, rfl, rfl⟩, extracted⟩
    exact ⟨supported, listed, rfl, rfl, (supported_eq listed).2 ▸ extracted⟩

/-- Among the values that can be extracted the equality table has no other gaps. -/
theorem hasTotalEquality_of_extracts {form : TypeForm} {value : ValueType}
    (extracted : form.Extracts value) :
    value.hasTotalEquality = false ↔ LacksTotalEquality value := by
  have present := (extracts_iff.mp extracted).2
  cases value <;> simp_all [ValueType.hasTotalEquality, LacksTotalEquality, ValueType.accessor?]

/-- A container other than that of bytes is no value. -/
theorem not_recognised_of_container {form element : TypeForm} {kind : ContainerKind}
    (container : IsContainer form kind element) (other : form ≠ blob) (value : ValueType) :
    ¬ Recognised form value := by
  intro recognised
  obtain ⟨name, listed, rfl⟩ := isContainer_iff.mp container
  generalize formed : TypeForm.applied name [element] = form at recognised other
  cases recognised with
  | zoned =>
    obtain ⟨rfl, -⟩ := TypeForm.applied.inj formed
    simp [containerNames] at listed
  | blob => exact other rfl
  | scalar | borrowed => simp at formed

/-- What is not classified is not recognised. -/
theorem classify_eq_none_iff {declared : DeclaredType} :
    classify declared = none ↔ ∀ value, ¬ Recognised declared.form value := by
  simp [← classify_eq_some_iff, Option.eq_none_iff_forall_ne_some]

/-- A type is accepted as a parameter exactly if its form binds. -/
theorem resolveParameter_eq_ok_iff {declared : DeclaredType} {value : ValueType} {tag : WireTag} :
    resolveParameter declared = .ok (value, tag) ↔ declared.form.Binds value tag := by
  rw [binds_iff, ← classify_eq_some_iff, resolveParameter]
  cases classified : classify declared with
  | none =>
    simp only [reduceCtorEq, false_and, iff_false]
    split <;> simp
  | some found =>
    simp only [Option.some.injEq]
    split
    next bound tabled =>
      simp only [Except.ok.injEq, Prod.mk.injEq]
      constructor
      · rintro ⟨rfl, rfl⟩
        exact ⟨rfl, tabled⟩
      · rintro ⟨rfl, tagged⟩
        exact ⟨rfl, Option.some.inj (tabled.symm.trans tagged)⟩
    next untabled =>
      refine ⟨fun bound => (nomatch bound), ?_⟩
      rintro ⟨rfl, bound⟩
      exact nomatch untabled.symm.trans bound

/-- A type is for returns alone exactly if it is a value that cannot be bound, a cursor or a
container. -/
theorem isReturnOnly_iff {declared : DeclaredType} :
    declared.form.IsReturnOnly ↔
      (∃ value, classify declared = some value ∧ value.binding? = none) ∨
        isCursor declared = true ∨ (container? declared).isSome = true := by
  have valued : (∃ supported ∈ supportedTypes, supported.form = declared.form ∧
      supported.tag? = none) ↔ ∃ value, classify declared = some value ∧ value.binding? = none := by
    simp only [classify_eq_some_iff, recognised_iff]
    constructor
    · rintro ⟨supported, listed, formed, untagged⟩
      exact ⟨supported.value, ⟨supported, listed, formed, rfl⟩, (supported_eq listed).1 ▸ untagged⟩
    · rintro ⟨_, ⟨supported, listed, formed, rfl⟩, untabled⟩
      exact ⟨supported, listed, formed, (supported_eq listed).1.trans untabled⟩
  have contained : (container? declared).isSome = true ↔
      ∃ kind element, IsContainer declared.form kind element := by
    rw [Option.isSome_iff_ne_none, Ne, container?_eq_none_iff]
    simp
  rw [IsReturnOnly, valued, isCursor_iff, contained]

/-- Cursors are no values. -/
theorem not_recognised_cursor (value : ValueType) : ¬ Recognised cursor value := by
  intro recognised
  generalize formed : cursor = form at recognised
  cases recognised with
  | scalar listed =>
    rw [cursor, TypeForm.bare.injEq] at formed
    simp [← formed, scalarNames] at listed
  | zoned | borrowed | blob => simp [cursor, blob] at formed

/-- A list of bytes is classified as bytes, not as a list. -/
theorem classify_eq_blob {declared : DeclaredType} (formed : declared.form = blob) :
    classify declared = some .blob :=
  classify_eq_some_iff.mpr (formed ▸ .blob)

/-- A type that is for returns alone is refused as such. -/
theorem resolveParameter_of_isReturnOnly {declared : DeclaredType}
    (returned : declared.form.IsReturnOnly) : resolveParameter declared = .error .returnOnly := by
  rw [isReturnOnly_iff] at returned
  rcases returned with ⟨value, classified, untabled⟩ | raw | contained
  · simp [resolveParameter, classified, untabled]
  · have unclassified : classify declared = none := by
      rw [classify_eq_none_iff, isCursor_iff.mp raw]
      exact not_recognised_cursor
    simp [resolveParameter, unclassified, raw]
  · obtain ⟨⟨kind, element⟩, found⟩ := Option.isSome_iff_exists.mp contained
    by_cases binary : declared.form = blob
    · simp [resolveParameter, classify_eq_blob binary, ValueType.binding?]
    · have unclassified : classify declared = none := classify_eq_none_iff.mpr
        (not_recognised_of_container (isContainer_form_of_container? found) binary)
      simp [resolveParameter, unclassified, contained]

/-- A type that neither binds nor is for returns is refused as unknown. -/
theorem resolveParameter_of_unknown {declared : DeclaredType}
    (unreturned : ¬ declared.form.IsReturnOnly)
    (unbound : ∀ value tag, ¬ declared.form.Binds value tag) :
    resolveParameter declared = .error .unknown := by
  simp only [isReturnOnly_iff, not_or, not_exists, not_and, Bool.not_eq_true] at unreturned
  obtain ⟨tabled, uncalled, uncontained⟩ := unreturned
  have unclassified : classify declared = none := by
    rw [Option.eq_none_iff_forall_ne_some]
    intro value classified
    obtain ⟨tag, bound⟩ := Option.ne_none_iff_exists'.mp (tabled value classified)
    exact unbound value tag (binds_iff.mpr ⟨classify_eq_some_iff.mp classified, bound⟩)
  simp [resolveParameter, unclassified, uncalled, uncontained]

/-- A type is refused as a parameter exactly for the reason of its form. -/
theorem resolveParameter_eq_error_iff {declared : DeclaredType} {reason : Rejection} :
    resolveParameter declared = .error reason ↔ RefusesParameter declared.form reason := by
  constructor
  · intro refused
    by_cases returned : declared.form.IsReturnOnly
    · rw [resolveParameter_of_isReturnOnly returned] at refused
      exact Except.error.inj refused ▸ .returnOnly returned
    · have unbound (value : ValueType) (tag : WireTag) : ¬ declared.form.Binds value tag :=
        fun bound => nomatch refused.symm.trans (resolveParameter_eq_ok_iff.mpr bound)
      rw [resolveParameter_of_unknown returned unbound] at refused
      exact Except.error.inj refused ▸ .unknown returned unbound
  · intro refused
    cases refused with
    | returnOnly returned => exact resolveParameter_of_isReturnOnly returned
    | unknown unreturned unbound => exact resolveParameter_of_unknown unreturned unbound

/-- The element of a container as the extraction table sees it. -/
theorem extractable_eq_some_iff {element : DeclaredType} {value : ValueType} :
    ((classify element).filter fun value => value.accessor?.isSome) = some value ↔
      element.form.Extracts value := by
  rw [Option.filter_eq_some_iff, classify_eq_some_iff, extracts_iff]

/-- An element cannot be extracted exactly if its form is not. -/
theorem extractable_eq_none_iff {element : DeclaredType} :
    ((classify element).filter fun value => value.accessor?.isSome) = none ↔
      ∀ value, ¬ element.form.Extracts value := by
  simp [← extractable_eq_some_iff, Option.eq_none_iff_forall_ne_some]

/-- The element is a container again, and no blob. -/
theorem isNested_iff {element : DeclaredType} :
    ((container? element).isSome && !isBlob element) = true ↔
      (∃ kind innermost, IsContainer element.form kind innermost) ∧ element.form ≠ blob := by
  rw [Bool.and_eq_true, Option.isSome_iff_ne_none, Ne, container?_eq_none_iff, Bool.not_eq_true',
    ← Bool.not_eq_true, isBlob_iff]
  simp

/-- A container inside a container is refused. -/
theorem resolveCollection_of_nested {kind inner : ContainerKind} {element : DeclaredType}
    {innermost : TypeForm} (nested : IsContainer element.form inner innermost)
    (other : element.form ≠ blob) : resolveCollection kind element = .error .nestedContainer := by
  rw [resolveCollection, if_pos (isNested_iff.mpr ⟨⟨inner, innermost, nested⟩, other⟩)]

/-- A container of values is accepted, unless it is a set of values without total equality. -/
theorem resolveCollection_of_single {kind : ContainerKind} {element : DeclaredType}
    {value : ValueType} (extracted : element.form.Extracts value) :
    resolveCollection kind element =
      if kind = .set && !value.hasTotalEquality then .error (.setElement value)
      else .ok (.collection kind value) := by
  have flat : ¬ ((container? element).isSome && !isBlob element) = true := by
    rw [isNested_iff]
    rintro ⟨⟨kind, innermost, nested⟩, other⟩
    exact not_recognised_of_container nested other value (extracts_iff.mp extracted).1
  rw [resolveCollection, if_neg flat, extractable_eq_some_iff.mpr extracted]

/-- A container of anything else is refused. -/
theorem resolveCollection_of_unsupported {kind : ContainerKind} {element : DeclaredType}
    (flat : ∀ inner innermost, ¬ IsContainer element.form inner innermost)
    (unsupported : ∀ value, ¬ element.form.Extracts value) :
    resolveCollection kind element = .error .containerElement := by
  have flat : ¬ ((container? element).isSome && !isBlob element) = true := by
    rw [isNested_iff]
    rintro ⟨⟨inner, innermost, nested⟩, -⟩
    exact flat inner innermost nested
  rw [resolveCollection, if_neg flat, extractable_eq_none_iff.mpr unsupported]

/-- A container that is no blob is resolved by its element. -/
theorem resolveShape_of_container {declared element : DeclaredType} {kind : ContainerKind}
    (contained : container? declared = some (kind, element)) (other : declared.form ≠ blob) :
    resolveShape declared = resolveCollection kind element := by
  have container := isContainer_form_of_container? contained
  have unclassified : classify declared = none :=
    classify_eq_none_iff.mpr (not_recognised_of_container container other)
  obtain ⟨name, -, formed⟩ := isContainer_iff.mp container
  have unnamed : ¬ isCursor declared = true := by simp [isCursor_iff, formed, cursor]
  have inhabited : ¬ isUnit declared = true := by simp [isUnit_iff, formed]
  rw [resolveShape, if_neg inhabited, if_neg unnamed, unclassified]
  simp only [contained]

/-- A value is returned if it has an accessor, and is for parameters alone otherwise. -/
theorem resolveShape_of_classify {declared : DeclaredType} {value : ValueType}
    (classified : classify declared = some value) :
    resolveShape declared =
      if value.accessor?.isSome then .ok (.scalar value) else .error .parameterOnly := by
  have recognised := classify_eq_some_iff.mp classified
  have unnamed : ¬ isCursor declared = true := fun raw =>
    not_recognised_cursor value (isCursor_iff.mp raw ▸ recognised)
  have inhabited : ¬ isUnit declared = true := by
    rw [isUnit_iff]
    intro formed
    rw [formed] at recognised
    cases recognised
  rw [resolveShape, if_neg inhabited, if_neg unnamed, classified]

/-- A container of values is not the list of bytes. -/
theorem not_blob_of_extracts {form element : TypeForm} {kind : ContainerKind} {value : ValueType}
    (container : IsContainer form kind element) (extracted : element.Extracts value) :
    form ≠ blob := by
  rintro rfl
  generalize formed : blob = form at container
  obtain ⟨name, -, rfl⟩ := isContainer_iff.mp container
  obtain ⟨-, single⟩ := TypeForm.applied.inj formed
  rw [← List.singleton_inj.mp single, extracts_iff] at extracted
  cases extracted.1 with
  | scalar listed => simp [scalarNames] at listed

/-- A container of containers is not the list of bytes. -/
theorem not_blob_of_nested {form element innermost : TypeForm} {outer inner : ContainerKind}
    (container : IsContainer form outer element) (nested : IsContainer element inner innermost) :
    form ≠ blob := by
  rintro rfl
  generalize formed : blob = form at container
  obtain ⟨name, -, rfl⟩ := isContainer_iff.mp container
  obtain ⟨-, single⟩ := TypeForm.applied.inj formed
  rw [← List.singleton_inj.mp single] at nested
  cases nested

/-- A container is resolved by the form of its element. -/
theorem resolveShape_of_form {declared : DeclaredType} {form : TypeForm} {kind : ContainerKind}
    (container : IsContainer declared.form kind form) (other : declared.form ≠ blob) :
    ∃ element, element.form = form ∧ resolveShape declared = resolveCollection kind element := by
  obtain ⟨element, contained, formed⟩ := isContainer_form_iff.mp container
  exact ⟨element, formed, resolveShape_of_container contained other⟩

/-- A form that returns a shape is resolved to the shape. -/
theorem resolveShape_of_returns {declared : DeclaredType} {shape : ReturnShape}
    (returned : Returns declared.form shape) : resolveShape declared = .ok shape := by
  generalize formed : declared.form = form at returned
  cases returned with
  | void => rw [resolveShape, if_pos (isUnit_iff.mpr formed)]
  | cursor =>
    have inhabited : ¬ isUnit declared = true := by simp [isUnit_iff, formed, cursor]
    rw [resolveShape, if_neg inhabited, if_pos (isCursor_iff.mpr formed)]
  | scalar extracted =>
    rw [← formed, extracts_iff, ← classify_eq_some_iff] at extracted
    rw [resolveShape_of_classify extracted.1, if_pos extracted.2]
  | list container extracted =>
    obtain ⟨element, rfl, resolved⟩ :=
      resolveShape_of_form (formed ▸ container) (formed ▸ not_blob_of_extracts container extracted)
    rw [resolved, resolveCollection_of_single extracted]
    rfl
  | set container extracted total =>
    obtain ⟨element, rfl, resolved⟩ :=
      resolveShape_of_form (formed ▸ container) (formed ▸ not_blob_of_extracts container extracted)
    rw [← hasTotalEquality_of_extracts extracted, Bool.not_eq_false] at total
    rw [resolved, resolveCollection_of_single extracted, total]
    rfl

/-- A form that is refused is refused for its reason. -/
theorem resolveShape_of_refusesReturn {declared : DeclaredType} {reason : Rejection}
    (refused : RefusesReturn declared.form reason) : resolveShape declared = .error reason := by
  -- Nesting is looked for before the element is classified, and blobs are no containers.
  generalize formed : declared.form = form at refused
  cases refused with
  | parameterOnly =>
    rw [resolveShape_of_classify (classify_of_reference formed)]
    rfl
  | nestedContainer container nested flat =>
    obtain ⟨element, rfl, resolved⟩ :=
      resolveShape_of_form (formed ▸ container) (formed ▸ not_blob_of_nested container nested)
    rw [resolved, resolveCollection_of_nested nested flat]
  | containerElement other container flat unsupported =>
    obtain ⟨element, rfl, resolved⟩ := resolveShape_of_form (formed ▸ container) (formed ▸ other)
    rw [resolved, resolveCollection_of_unsupported flat unsupported]
  | setElement container extracted lacking =>
    obtain ⟨element, rfl, resolved⟩ :=
      resolveShape_of_form (formed ▸ container) (formed ▸ not_blob_of_extracts container extracted)
    rw [← hasTotalEquality_of_extracts extracted] at lacking
    rw [resolved, resolveCollection_of_single extracted, lacking]
    rfl
  | unknown unlisted inhabited unnamed uncontained =>
    have unclassified : classify declared = none := by
      simp only [classify_eq_none_iff, recognised_iff, not_exists, not_and]
      intro value supported listed same
      exact absurd (same.trans formed) (unlisted supported listed)
    rw [← formed, Ne, ← isUnit_iff] at inhabited
    rw [← formed, Ne, ← isCursor_iff] at unnamed
    rw [← formed, ← container?_eq_none_iff] at uncontained
    rw [resolveShape, if_neg inhabited, if_neg unnamed, unclassified]
    simp only [uncontained]

/-- What cannot be extracted, though it is recognised, is a borrowed text. -/
theorem borrowed_of_not_extracts {form : TypeForm} {value : ValueType}
    (recognised : Recognised form value) (kept : ¬ form.Extracts value) :
    form = .reference false (.bare "str") := by
  have inextricable : value = .borrowed := by
    rw [extracts_iff, not_and, Bool.not_eq_true, Option.isSome_eq_false_iff] at kept
    have missing := kept recognised
    cases value <;> simp_all [ValueType.accessor?]
  subst inextricable
  generalize borrowed : ValueType.borrowed = value at recognised
  cases recognised with
  | scalar listed =>
    subst borrowed
    simp [scalarNames] at listed
  | zoned listed =>
    subst borrowed
    simp [timezoneNames] at listed
  | borrowed => rfl
  | blob => exact nomatch borrowed

/-- A container returns a shape or is refused for a reason. -/
theorem returns_or_refusesReturn_of_container {form element : TypeForm} {kind : ContainerKind}
    (container : IsContainer form kind element) (other : form ≠ blob) :
    (∃ shape, Returns form shape) ∨ ∃ reason, RefusesReturn form reason := by
  by_cases extracted : ∃ value, element.Extracts value
  · obtain ⟨value, extracted⟩ := extracted
    cases kind with
    | list => exact .inl ⟨_, .list container extracted⟩
    | set =>
      by_cases lacking : LacksTotalEquality value
      · exact .inr ⟨_, .setElement container extracted lacking⟩
      · exact .inl ⟨_, .set container extracted lacking⟩
  · rw [not_exists] at extracted
    by_cases nested : ∃ inner innermost, IsContainer element inner innermost
    · obtain ⟨inner, innermost, nested⟩ := nested
      have flat : element ≠ blob := by
        rintro rfl
        exact extracted .blob (extracts_iff.mpr ⟨.blob, rfl⟩)
      exact .inr ⟨_, .nestedContainer container nested flat⟩
    · simp only [not_exists] at nested
      exact .inr ⟨_, .containerElement other container nested extracted⟩

/-- Every type is returned or refused for one of the reasons. -/
theorem returns_or_refusesReturn (form : TypeForm) :
    (∃ shape, Returns form shape) ∨ ∃ reason, RefusesReturn form reason := by
  by_cases inhabited : form = .unit
  · exact .inl ⟨.void, inhabited ▸ .void⟩
  by_cases named : form = cursor
  · exact .inl ⟨.cursor, named ▸ .cursor⟩
  by_cases listed : ∃ value, Recognised form value
  · obtain ⟨value, recognised⟩ := listed
    by_cases extracted : form.Extracts value
    · exact .inl ⟨.scalar value, .scalar extracted⟩
    · have borrowed := borrowed_of_not_extracts recognised extracted
      exact .inr ⟨_, borrowed ▸ RefusesReturn.parameterOnly⟩
  by_cases contained : ∃ kind element, IsContainer form kind element
  · obtain ⟨kind, element, container⟩ := contained
    have other : form ≠ blob := fun binary => listed ⟨.blob, binary ▸ .blob⟩
    exact returns_or_refusesReturn_of_container container other
  · simp only [not_exists] at contained
    have unlisted (supported : SupportedType) (row : supported ∈ supportedTypes) :
        supported.form ≠ form := fun same =>
      listed ⟨supported.value, recognised_iff.mpr ⟨supported, row, same, rfl⟩⟩
    exact .inr ⟨_, .unknown unlisted inhabited named contained⟩

/-- A declared result is resolved by its answer, and passes failures on. -/
theorem resolveReturn_of_answers {declared inner : DeclaredType}
    (answers : resultInner? declared = some inner)
    (single : ∀ innermost, ¬ Answers inner.form innermost) :
    resolveReturn (some declared) =
      (resolveShape inner).map fun shape => ⟨shape, .propagate⟩ := by
  rw [← resultInner?_eq_none_iff] at single
  simp [resolveReturn, answers, single]

/-- A type that is no result is resolved without a failure mode of its own. -/
theorem resolveReturn_of_plain {declared : DeclaredType}
    (plain : ∀ answer, ¬ Answers declared.form answer) :
    resolveReturn (some declared) =
      (resolveShape declared).map fun shape => ⟨shape, .unchecked⟩ := by
  rw [← resultInner?_eq_none_iff] at plain
  simp [resolveReturn, plain]

/-- A result inside a result is refused. -/
theorem resolveReturn_of_nested {declared inner : DeclaredType} {form : TypeForm}
    (answers : resultInner? declared = some inner) (nested : Answers inner.form form) :
    resolveReturn (some declared) = .error .nestedResult := by
  obtain ⟨innermost, found, -⟩ := answers_form_iff.mp nested
  simp [resolveReturn, answers, found]

/-- A declared type that returns something is resolved to it. -/
theorem resolveReturn_of_returnsWith {declared : DeclaredType} {returned : ReturnDescriptor}
    (described : ReturnsWith declared.form returned) :
    resolveReturn (some declared) = .ok returned := by
  cases described with
  | propagate answers single returned =>
    obtain ⟨inner, found, rfl⟩ := answers_form_iff.mp answers
    rw [resolveReturn_of_answers found single, resolveShape_of_returns returned]
    rfl
  | unchecked plain returned =>
    rw [resolveReturn_of_plain plain, resolveShape_of_returns returned]
    rfl

/-- A declared type that is refused is refused for its reason. -/
theorem resolveReturn_of_refusesDeclared {declared : DeclaredType} {reason : Rejection}
    (refused : RefusesDeclared declared.form reason) :
    resolveReturn (some declared) = .error reason := by
  cases refused with
  | nestedResult answers nested =>
    obtain ⟨inner, found, rfl⟩ := answers_form_iff.mp answers
    exact resolveReturn_of_nested found nested
  | answer answers single refused =>
    obtain ⟨inner, found, rfl⟩ := answers_form_iff.mp answers
    rw [resolveReturn_of_answers found single, resolveShape_of_refusesReturn refused]
    rfl
  | plain plain refused =>
    rw [resolveReturn_of_plain plain, resolveShape_of_refusesReturn refused]
    rfl

/-- Every form returns something or is refused for a reason. -/
theorem returnsWith_or_refusesDeclared (form : TypeForm) :
    (∃ returned, ReturnsWith form returned) ∨ ∃ reason, RefusesDeclared form reason := by
  by_cases answered : ∃ answer, Answers form answer
  · obtain ⟨answer, answers⟩ := answered
    by_cases nested : ∃ inner, Answers answer inner
    · obtain ⟨inner, nested⟩ := nested
      exact .inr ⟨_, .nestedResult answers nested⟩
    · rw [not_exists] at nested
      obtain ⟨shape, returned⟩ | ⟨reason, refused⟩ := returns_or_refusesReturn answer
      · exact .inl ⟨_, .propagate answers nested returned⟩
      · exact .inr ⟨reason, .answer answers nested refused⟩
  · rw [not_exists] at answered
    obtain ⟨shape, returned⟩ | ⟨reason, refused⟩ := returns_or_refusesReturn form
    · exact .inl ⟨_, .unchecked answered returned⟩
    · exact .inr ⟨reason, .plain answered refused⟩

/-- A return type is accepted exactly if its form returns something. -/
theorem resolveReturn_eq_ok_iff {declared : DeclaredType} {returned : ReturnDescriptor} :
    resolveReturn (some declared) = .ok returned ↔ ReturnsWith declared.form returned := by
  refine ⟨fun resolved => ?_, resolveReturn_of_returnsWith⟩
  obtain ⟨other, described⟩ | ⟨reason, refused⟩ := returnsWith_or_refusesDeclared declared.form
  · rw [resolveReturn_of_returnsWith described] at resolved
    exact Except.ok.inj resolved ▸ described
  · rw [resolveReturn_of_refusesDeclared refused] at resolved
    exact nomatch resolved

/-- A return type is refused exactly for the reason of its form. -/
theorem resolveReturn_eq_error_iff {declared : DeclaredType} {reason : Rejection} :
    resolveReturn (some declared) = .error reason ↔ RefusesDeclared declared.form reason := by
  refine ⟨fun resolved => ?_, resolveReturn_of_refusesDeclared⟩
  obtain ⟨returned, described⟩ | ⟨other, refused⟩ := returnsWith_or_refusesDeclared declared.form
  · rw [resolveReturn_of_returnsWith described] at resolved
    exact nomatch resolved
  · rw [resolveReturn_of_refusesDeclared refused] at resolved
    exact Except.error.inj resolved ▸ refused

/-- Exactly the supported types are accepted: a parameter is bound, returned or refused by the form
of its type alone, as the table says. -/
theorem supported_exactly :
    (∀ declared value tag, resolveParameter declared = .ok (value, tag) ↔
        declared.form.Binds value tag) ∧
      (∀ declared reason, resolveParameter declared = .error reason ↔
        RefusesParameter declared.form reason) ∧
      resolveReturn none = .ok ⟨.void, .unchecked⟩ ∧
      (∀ declared returned, resolveReturn (some declared) = .ok returned ↔
        ReturnsWith declared.form returned) ∧
      ∀ declared reason, resolveReturn (some declared) = .error reason ↔
        RefusesDeclared declared.form reason :=
  ⟨fun _ _ _ => resolveParameter_eq_ok_iff, fun _ _ => resolveParameter_eq_error_iff, rfl,
    fun _ _ => resolveReturn_eq_ok_iff, fun _ _ => resolveReturn_eq_error_iff⟩

end DataAccess.Mapping
