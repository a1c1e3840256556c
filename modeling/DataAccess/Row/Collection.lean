/-
This file drains sources of rows into values and collections. A problem with any row is the answer
of the whole operation, and the source then stands on that row.
-/

import DataAccess.Row.ResultSet

namespace DataAccess

/-- What elements can be added to, one after the other. -/
class Collection (Container : Type) (Element : outParam Type) where
  empty : Container
  insert : Container → Element → Container

/-- A list keeps every element. -/
instance {Element : Type} : Collection (Array Element) Element where
  empty := #[]
  insert := Array.push

/-- A set that keeps its elements in the order of their arrival. -/
structure HashedSet (Element : Type) where
  elements : List Element

namespace HashedSet

variable {Element : Type}

/-- Of equal elements the first one stays. -/
def insert [Ord Element] (set : HashedSet Element) (element : Element) : HashedSet Element :=
  if set.elements.any fun member => compare member element == .eq then set
  else ⟨set.elements ++ [element]⟩

instance [Ord Element] : Collection (HashedSet Element) Element where
  empty := ⟨[]⟩
  insert := insert

end HashedSet

/-- A set that keeps its elements in ascending order. -/
structure SortedSet (Element : Type) where
  elements : List Element

namespace SortedSet

variable {Element : Type}

def insertInto [Ord Element] (element : Element) : List Element → List Element
  | [] => [element]
  | member :: rest =>
      match compare element member with
      | .lt => element :: member :: rest
      | .eq => member :: rest
      | .gt => member :: insertInto element rest

/-- Of equal elements the first one stays. -/
def insert [Ord Element] (set : SortedSet Element) (element : Element) : SortedSet Element :=
  ⟨insertInto element set.elements⟩

instance [Ord Element] : Collection (SortedSet Element) Element where
  empty := ⟨[]⟩
  insert := insert

def ofHashed [Ord Element] (set : HashedSet Element) : SortedSet Element :=
  set.elements.foldl insert ⟨[]⟩

end SortedSet

namespace ResultSource

variable {Source : Type} [ResultSource Source] {Result Container : Type}

/-- Advances a source to its end and adds a column of every row to a container. -/
def drain [Collection Container Result] (column : Nat) (reader : Reader Result)
    (container : Container) (source : Source) : Except ExecutionError Container × Source :=
  match advanced : advance source with
  | (.error error, after) => (.error error, after)
  | (.ok false, after) => (.ok container, after)
  | (.ok true, after) =>
      have : unread after < unread source := by
        simpa [advanced] using unread_advance source (by simp [advanced])
      match get after column reader with
      | .error error => (.error error, after)
      | .ok result => drain column reader (Collection.insert container result) after
termination_by unread source

/-- A list of a column of all remaining rows. -/
def toList (source : Source) (column : Nat) (reader : Reader Result) :
    Except ExecutionError (Array Result) × Source :=
  drain column reader #[] source

def toHashedSet [Ord Result] (source : Source) (column : Nat) (reader : Reader Result) :
    Except ExecutionError (HashedSet Result) × Source :=
  drain column reader (⟨[]⟩ : HashedSet Result) source

def toSortedSet [Ord Result] (source : Source) (column : Nat) (reader : Reader Result) :
    Except ExecutionError (SortedSet Result) × Source :=
  drain column reader (⟨[]⟩ : SortedSet Result) source

/-- A column of the first remaining row; the rows behind it are not looked at. -/
def first (source : Source) (column : Nat) (reader : Reader Result) :
    Except ExecutionError Result × Source :=
  match advance source with
  | (.error error, after) => (.error error, after)
  | (.ok false, after) => (.error (.database .noRows), after)
  | (.ok true, after) => (get after column reader, after)

/-- Advances a source to its end. -/
def finish (source : Source) : Except ExecutionError Unit × Source :=
  match advanced : advance source with
  | (.error error, after) => (.error error, after)
  | (.ok false, after) => (.ok (), after)
  | (.ok true, after) =>
      have : unread after < unread source := by
        simpa [advanced] using unread_advance source (by simp [advanced])
      finish after
termination_by unread source

end ResultSource

end DataAccess
