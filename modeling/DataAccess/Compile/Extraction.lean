/-
This file extracts the description of a marked trait as its items are asked for one after the other.
An item loses its query markers only when it is reached, so that whoever asks decides how many items
are cleaned; the collector of all problems asks to the end.
-/

import DataAccess.Compile.Interface
import Mathlib.Data.List.Forall2

namespace DataAccess

/-- The values and the problems that have been answered so far. -/
structure Collected (Problem Value : Type) where
  values : List Value
  problems : List Problem

namespace Collected

variable {Problem Value : Type}

def add (collected : Collected Problem Value) (answer : Except (List Problem) Value) :
    Collected Problem Value :=
  match answer with
  | .ok value => { collected with values := collected.values ++ [value] }
  | .error problems => { collected with problems := collected.problems ++ problems }

/-- The values count only when there is no problem at all. -/
def result (collected : Collected Problem Value) : Except (List Problem) (List Value) :=
  if collected.problems.isEmpty then .ok collected.values else .error collected.problems

end Collected

namespace Interface

abbrev Description := Except (List CompileError) MethodDescriptor

/-- Takes the queries from a method and describes what is left by them. -/
def takeMethod (interface : Name) (method : Method) : Option Description × Method :=
  let (queries, others) := method.attributes.partition isQuery
  let left := { method with attributes := others }
  match queries with
  | [] => (describeProvided interface left, left)
  | first :: more => (some (describeQuery left first more), left)

/-- What an item answers when it is reached, and as what it is left. -/
def takeItem (interface : Name) : TraitItem → Option Description × TraitItem
  | .method method =>
      let (answer, left) := takeMethod interface method
      (answer, .method left)
  | .other code =>
      (some (.error [.unsupportedItem interface (TraitItem.other code).position]), .other code)

/-- The items that have been reached, as they were left, and those that have not. -/
structure Pass where
  reached : List TraitItem
  ahead : List TraitItem

namespace Pass

def items (pass : Pass) : List TraitItem :=
  pass.reached ++ pass.ahead

/-- Goes on to the next item that answers something. -/
def nextFrom (interface : Name) (reached : List TraitItem) :
    List TraitItem → Option Description × Pass
  | [] => (none, ⟨reached, []⟩)
  | item :: ahead =>
      match takeItem interface item with
      | (some description, left) => (some description, ⟨reached ++ [left], ahead⟩)
      | (none, left) => nextFrom interface (reached ++ [left]) ahead

def next (interface : Name) (pass : Pass) : Option Description × Pass :=
  nextFrom interface pass.reached pass.ahead

theorem length_ahead_nextFrom {interface : Name} {reached ahead : List TraitItem}
    {description : Description} {left : Pass}
    (asked : nextFrom interface reached ahead = (some description, left)) :
    left.ahead.length < ahead.length := by
  induction ahead generalizing reached with
  | nil => exact nomatch asked
  | cons item ahead hypothesis =>
    rw [nextFrom] at asked
    split at asked
    next =>
      cases asked
      exact Nat.lt_succ_self _
    next => exact Nat.lt_succ_of_lt (hypothesis asked)

end Pass

/-- Asks for answers until there are no more, whatever they are. -/
def collectFrom (interface : Name) (collected : Collected CompileError MethodDescriptor)
    (pass : Pass) : Collected CompileError MethodDescriptor × Pass :=
  match _asked : pass.next interface with
  | (none, left) => (collected, left)
  | (some description, left) => collectFrom interface (collected.add description) left
termination_by pass.ahead.length
decreasing_by exact Pass.length_ahead_nextFrom _asked

/-- The trait as its items are left, and its description. -/
def extract (declaration : TraitDeclaration) :
    TraitDeclaration × Except (List CompileError) InterfaceDescriptor :=
  let early := traitErrors declaration
  let (collected, left) := collectFrom declaration.name ⟨[], []⟩ ⟨[], declaration.items⟩
  ({ declaration with items := left.items },
    match collected.result with
    | .ok methods =>
        if early.isEmpty then .ok ⟨declaration.name, declaration.visibility, methods⟩
        else .error early
    | .error errors => .error (early ++ errors))

end Interface

/-- Of a method all attributes are left whose path does not end in the word, in their order. All
else is left as it is. -/
inductive TraitItem.LosesQueries : TraitItem → TraitItem → Prop
  | method (declared : Method) : LosesQueries (.method declared) (.method { declared with
      attributes := declared.attributes.filter fun mark => mark.path.last.text ≠ "query" })
  | other (code : Code) : LosesQueries (.other code) (.other code)

/-- A trait is left as it is, apart from the queries of its methods. -/
structure TraitDeclaration.LosesQueries (declaration left : TraitDeclaration) : Prop where
  frame : left = { declaration with items := left.items }
  items : List.Forall₂ TraitItem.LosesQueries declaration.items left.items

end DataAccess
