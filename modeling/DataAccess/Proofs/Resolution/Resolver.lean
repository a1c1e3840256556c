/-
This file proves that a resolver answers what the first registry constructs that really has an
implementation of the interface, and that this is stable under reordering and registering.
-/

import DataAccess.Resolution.Resolver
import Mathlib.Data.List.Perm.Basic

namespace DataAccess

variable {Interface Handle Object : Type}

namespace Manifest

/-- For the handle the registry constructs the object, which really implements the interface. -/
def Constructs (manifest : Manifest Interface Handle Object) (interface : Interface)
    (handle : Handle) (object : Object) : Prop :=
  manifest.registry.construct? interface handle = some ⟨interface, object⟩

/-- The registry constructs an implementation of the interface. -/
def Provides (manifest : Manifest Interface Handle Object) (interface : Interface)
    (handle : Handle) : Prop :=
  ∃ object, manifest.Constructs interface handle object

variable [DecidableEq Interface] {manifest : Manifest Interface Handle Object}
  {interface : Interface} {handle : Handle}

/-- What a registry answers is taken exactly if it implements the interface. -/
theorem provided?_eq_some_iff {object : Object} :
    manifest.provided? interface handle = some object ↔
      manifest.Constructs interface handle object := by
  rw [provided?, Constructs]
  cases manifest.registry.construct? interface handle with
  | none => simp
  | some found =>
    obtain ⟨implemented, constructed⟩ := found
    by_cases same : implemented = interface <;> simp [same]

/-- A manifest gives no object where it does not provide the interface. -/
theorem provided?_eq_none_iff :
    manifest.provided? interface handle = none ↔ ¬ manifest.Provides interface handle := by
  rw [Provides, Option.eq_none_iff_forall_ne_some]
  simp only [ne_eq, provided?_eq_some_iff, not_exists]

end Manifest

namespace Resolver

/-- Manifests are registered one after the other. -/
def registerAll (resolver : Resolver Interface Handle Object)
    (registered : List (Manifest Interface Handle Object)) : Resolver Interface Handle Object :=
  registered.foldl register resolver

/-- Manifests that are registered together come behind the others, in their order. -/
theorem manifests_registerAll (resolver : Resolver Interface Handle Object)
    (registered : List (Manifest Interface Handle Object)) :
    (resolver.registerAll registered).manifests = resolver.manifests ++ registered := by
  induction registered generalizing resolver with
  | nil => exact (List.append_nil resolver.manifests).symm
  | cons manifest rest hypothesis =>
    rw [registerAll, List.foldl_cons, ← registerAll, hypothesis, register, List.append_assoc,
      List.singleton_append]

/-- All manifests that provide the interface have one registry. -/
def ProvidedOnce (manifests : List (Manifest Interface Handle Object)) (interface : Interface)
    (handle : Handle) : Prop :=
  ∀ first ∈ manifests, ∀ second ∈ manifests, first.Provides interface handle →
    second.Provides interface handle → first.registry = second.registry

/-- What is provided once is provided once in every other order. -/
theorem ProvidedOnce.perm {manifests others : List (Manifest Interface Handle Object)}
    {interface : Interface} {handle : Handle} (once : ProvidedOnce manifests interface handle)
    (permuted : others.Perm manifests) : ProvidedOnce others interface handle :=
  fun first amongFirst second amongSecond =>
    once first (permuted.mem_iff.mp amongFirst) second (permuted.mem_iff.mp amongSecond)

variable [DecidableEq Interface]

variable {resolver : Resolver Interface Handle Object} {interface : Interface} {handle : Handle}

/-- A resolver answers the first object that a manifest provides. -/
theorem resolve_eq (resolver : Resolver Interface Handle Object) (interface : Interface)
    (handle : Handle) :
    resolver.resolve interface handle =
      match resolver.manifests.findSome? fun manifest => manifest.provided? interface handle with
      | some object => .ok object
      | none => .error ⟨interface⟩ := by
  rw [resolve]
  induction resolver.manifests with
  | nil => rfl
  | cons manifest rest hypothesis =>
    rw [resolveIn, List.findSome?_cons]
    cases manifest.provided? interface handle with
    | some object => rfl
    | none => exact hypothesis

/-- An object is answered where it is the first that a manifest provides. -/
theorem resolve_eq_ok_iff {object : Object} :
    resolver.resolve interface handle = .ok object ↔
      (resolver.manifests.findSome? fun manifest => manifest.provided? interface handle) =
        some object := by
  rw [resolve_eq]
  cases resolver.manifests.findSome? fun manifest => manifest.provided? interface handle <;> simp

/-- The object of the first manifest that provides the interface is answered. -/
theorem resolve_eq_ok_iff_first {object : Object} :
    resolver.resolve interface handle = .ok object ↔
      ∃ passed manifest rest, resolver.manifests = passed ++ manifest :: rest ∧
        manifest.Constructs interface handle object ∧
        ∀ other ∈ passed, ¬ other.Provides interface handle := by
  rw [resolve_eq_ok_iff, List.findSome?_eq_some_iff]
  simp only [Manifest.provided?_eq_some_iff, Manifest.provided?_eq_none_iff]

/-- Nothing is found exactly if no manifest provides the interface. -/
theorem resolve_eq_error_iff {error : ResolutionError Interface} :
    resolver.resolve interface handle = .error error ↔
      error = ⟨interface⟩ ∧
        ∀ manifest ∈ resolver.manifests, ¬ manifest.Provides interface handle := by
  simp only [← Manifest.provided?_eq_none_iff, ← List.findSome?_eq_none_iff]
  rw [resolve_eq]
  cases resolver.manifests.findSome? fun manifest => manifest.provided? interface handle with
  | none => simp [eq_comm]
  | some object => simp

/-- Where one registry provides the interface, its object is answered wherever it stands. -/
theorem resolve_eq_ok_iff_of_once
    (once : ProvidedOnce resolver.manifests interface handle) {object : Object} :
    resolver.resolve interface handle = .ok object ↔
      ∃ manifest ∈ resolver.manifests, manifest.Constructs interface handle object := by
  rw [resolve_eq_ok_iff_first]
  constructor
  · rintro ⟨passed, manifest, rest, split, constructs, -⟩
    refine ⟨manifest, ?_, constructs⟩
    rw [split]
    exact List.mem_append_right _ List.mem_cons_self
  · rintro ⟨manifest, among, constructs⟩
    cases resolved : resolver.resolve interface handle with
    | error error =>
      exact absurd ⟨object, constructs⟩ ((resolve_eq_error_iff.mp resolved).2 manifest among)
    | ok answered =>
      obtain ⟨passed, first, rest, split, constructed, unprovided⟩ :=
        resolve_eq_ok_iff_first.mp resolved
      have same : first.registry = manifest.registry := by
        refine once first ?_ manifest among ⟨answered, constructed⟩ ⟨object, constructs⟩
        rw [split]
        exact List.mem_append_right _ List.mem_cons_self
      refine ⟨passed, first, rest, split, ?_, unprovided⟩
      rw [Manifest.Constructs, same]
      exact constructs

/-- Where one registry provides the interface, the order of the manifests is of no account. -/
theorem resolve_perm {other : Resolver Interface Handle Object}
    (once : ProvidedOnce resolver.manifests interface handle)
    (permuted : other.manifests.Perm resolver.manifests) :
    other.resolve interface handle = resolver.resolve interface handle := by
  cases resolved : resolver.resolve interface handle with
  | ok object =>
    obtain ⟨manifest, among, constructs⟩ := (resolve_eq_ok_iff_of_once once).mp resolved
    exact (resolve_eq_ok_iff_of_once (once.perm permuted)).mpr
      ⟨manifest, permuted.mem_iff.mpr among, constructs⟩
  | error error =>
    obtain ⟨told, unprovided⟩ := resolve_eq_error_iff.mp resolved
    exact resolve_eq_error_iff.mpr
      ⟨told, fun manifest among => unprovided manifest (permuted.mem_iff.mp among)⟩

/-- What an interface resolves to is not changed by further manifests. -/
theorem resolve_registerAll {object : Object}
    (resolved : resolver.resolve interface handle = .ok object)
    (further : List (Manifest Interface Handle Object)) :
    (resolver.registerAll further).resolve interface handle = .ok object := by
  obtain ⟨passed, manifest, rest, split, constructs, unprovided⟩ :=
    resolve_eq_ok_iff_first.mp resolved
  refine resolve_eq_ok_iff_first.mpr ⟨passed, manifest, rest ++ further, ?_, constructs, unprovided⟩
  rw [manifests_registerAll, split, List.append_assoc, List.cons_append]

/-- Resolution finds the right implementation and is stable. A resolver over given manifests, with
others registered behind them, answers the object that the first of all manifests constructs for the
handle that provides the interface, and that nothing provides it exactly if none does. If one
registry provides it, every resolver over the same manifests in another order answers the same; and
what is found stays found, whatever else is registered. -/
theorem resolution_finds_first (given registered : List (Manifest Interface Handle Object))
    (interface : Interface) (handle : Handle) :
    let manifests := given ++ registered
    let resolver := (ofManifests given).registerAll registered
    (∀ object, resolver.resolve interface handle = .ok object ↔
      ∃ passed manifest rest, manifests = passed ++ manifest :: rest ∧
        manifest.Constructs interface handle object ∧
        ∀ other ∈ passed, ¬ other.Provides interface handle) ∧
    (∀ error, resolver.resolve interface handle = .error error ↔
      error = ⟨interface⟩ ∧ ∀ manifest ∈ manifests, ¬ manifest.Provides interface handle) ∧
    (ProvidedOnce manifests interface handle →
      ∀ other : Resolver Interface Handle Object, other.manifests.Perm manifests →
        other.resolve interface handle = resolver.resolve interface handle) ∧
    (∀ object, resolver.resolve interface handle = .ok object →
      ∀ further, (resolver.registerAll further).resolve interface handle = .ok object) := by
  intro manifests resolver
  have gathered : resolver.manifests = manifests :=
    manifests_registerAll (ofManifests given) registered
  rw [← gathered]
  exact ⟨fun _ => resolve_eq_ok_iff_first, fun _ => resolve_eq_error_iff,
    fun once _ permuted => resolve_perm once permuted,
    fun _ resolved further => resolve_registerAll resolved further⟩

/-- A registry that answers every lookup with an implementation of one interface. -/
def answering (interface : String) : Manifest String Nat Nat :=
  ⟨interface, interface, [interface], fun _ handle => some ⟨interface, handle⟩⟩

/-- Of two manifests only the second one provides the sample interface. -/
theorem providedOnce_answering :
    ProvidedOnce [answering "Bye", answering "Hello"] "Hello" 5 := by
  have unprovided : ¬ (answering "Bye").Provides "Hello" 5 := by
    rintro ⟨object, constructs⟩
    simp [Manifest.Constructs, answering] at constructs
  intro first amongFirst second amongSecond providesFirst providesSecond
  have only (manifest : Manifest String Nat Nat)
      (among : manifest ∈ [answering "Bye", answering "Hello"])
      (provides : manifest.Provides "Hello" 5) : manifest = answering "Hello" := by
    obtain rfl | rfl : manifest = answering "Bye" ∨ manifest = answering "Hello" := by
      simpa using among
    · exact absurd provides unprovided
    · rfl
  rw [only first amongFirst providesFirst, only second amongSecond providesSecond]

/-- The first registry answers with an implementation of another interface, and is passed over. -/
theorem resolution_finds_first_of_mismatch :
    let resolver := (ofManifests [answering "Bye"]).registerAll [answering "Hello"]
    resolver.resolve "Hello" 5 = .ok 5 ∧
      ProvidedOnce [answering "Bye", answering "Hello"] "Hello" 5 ∧
      (ofManifests [answering "Hello", answering "Bye"]).resolve "Hello" 5 =
        resolver.resolve "Hello" 5 ∧
      (resolver.registerAll [answering "Hello"]).resolve "Hello" 5 = .ok 5 := by
  intro resolver
  have resolved : resolver.resolve "Hello" 5 = .ok 5 := by decide
  obtain ⟨-, -, permuted, kept⟩ :=
    resolution_finds_first [answering "Bye"] [answering "Hello"] "Hello" 5
  exact ⟨resolved, providedOnce_answering,
    permuted providedOnce_answering _ (List.Perm.swap _ _ _), kept 5 resolved _⟩

end Resolver

end DataAccess
