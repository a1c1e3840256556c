/-
This file proves what the readers of rendered code make of paths, names and literals.
-/

import DataAccess.Compile.Rendered
import DataAccess.Compile.Template
import DataAccess.Proofs.Parse.Reads

namespace DataAccess

/-- The tokens of several entries are those of each of them. -/
theorem Code.tokens_flatMap {Entry : Type} (code : Entry → Code) (entries : List Entry) :
    Code.tokens (entries.flatMap code) = entries.flatMap fun entry => (code entry).tokens := by
  induction entries with
  | nil => rfl
  | cons entry entries hypothesis =>
    rw [List.flatMap_cons, List.flatMap_cons, tokens_append, hypothesis]

/-- Code is printed whether or not the formatter leaves it out. -/
@[simp]
theorem Code.tokens_leaveOut (code : Code) : code.leaveOut.tokens = code.tokens := by
  simp [leaveOut, Piece.tokens]

/-- An attribute is printed whether or not it is formatted as a comment. -/
theorem tokens_attribute (written : Attribute) : written.code.tokens = written.written.tokens := by
  rw [Attribute.code]
  split
  · simp [Piece.tokens]
  · rfl

/-- Documentation is printed as an attribute. -/
theorem Template.tokens_documentation (literal : Code) :
    Code.tokens (documentation literal) =
      Code.tokens (mark "#" ++ brackets (word "doc" ++ (mark "=" ++ literal))) := by
  rw [documentation, tokens_attribute]
  simp only [Attribute.written, NamePath.code, AttributeContent.code, List.flatMap_nil,
    List.nil_append, List.append_nil]
  rfl

namespace Rendered

open DataAccess.Parser (Reads)
open Template

/-- A literal that has a meaning is taken, and any other token is not expected. -/
theorem literalOf_apply {Result : Type} (meaning? : String → Option Result) (stream : Stream) :
    literalOf meaning? stream =
      (match stream.tokens with
        | .literal spelling _ :: rest =>
            (match meaning? spelling with
              | some result => (do Parser.take rest; return result : Parser Result)
              | none => Parser.failExpected [.literal])
        | _ => Parser.failExpected [.literal]) stream := rfl

/-- A literal that is spelled out is read as what it means. -/
theorem reads_literalOf {Result : Type} {meaning? : String → Option Result} {spelling : String}
    {result : Result} (meant : meaning? spelling = some result) :
    Reads (literalOf meaning?) (Code.tokens (spelled spelling)) result := by
  intro stream rest found
  rw [literalOf_apply, found, tokens_spelled, List.cons_append, List.nil_append]
  dsimp only
  rw [meant]
  rfl

/-- Nothing is read from nothing. -/
theorem reads_nothing : Reads nothing (Code.tokens []) () :=
  Reads.pure ()

/-- A name that is known is read as what it stands for. -/
theorem reads_known {Result : Type} {meaning? : String → Option Result} {name : Name}
    {result : Result} (meant : meaning? name.text = some result) :
    Reads (known meaning? name) [] result := by
  rw [known, meant]
  exact Reads.pure result

/-- A path begins with its first name behind a double colon. -/
theorem absolute_cons (name : String) (names : List String) :
    absolute (name :: names) = mark "::" ++ (word name ++ absolute names) := by
  rw [absolute, List.flatMap_cons, List.append_assoc]
  rfl

/-- Paths go on where others end. -/
theorem absolute_append (names more : List String) :
    absolute (names ++ more) = absolute names ++ absolute more :=
  List.flatMap_append

/-- A path is read name by name. -/
theorem reads_path (names : List String) :
    Reads (path names) (absolute names).tokens () := by
  induction names with
  | nil => exact Reads.pure ()
  | cons name names hypothesis =>
    rw [path, absolute_cons]
    exact (reads_mark "::" (by decide)).append ((reads_word name).append hypothesis)

/-- The last name of a path is read as a name of its own. -/
theorem reads_memberOf (names : List String) (last : String) :
    Reads (memberOf names) (absolute (names ++ [last])).tokens ⟨last, .callSite⟩ := by
  rw [memberOf, absolute_append, absolute_cons]
  have ending : word last ++ absolute [] = named ⟨last, .callSite⟩ := rfl
  rw [ending]
  exact (reads_path names).append ((reads_mark "::" (by decide)).append (reads_named _))

/-- A path in which a known name ends is read as what the name stands for. -/
theorem reads_knownMember {Result : Type} {meaning? : String → Option Result}
    (names : List String) {last : String} {result : Result} (meant : meaning? last = some result) :
    Reads (memberOf names >>= known meaning?) (absolute (names ++ [last])).tokens result := by
  have both : Reads (memberOf names >>= known meaning?)
      ((absolute (names ++ [last])).tokens ++ []) result :=
    (reads_memberOf names last).bind (reads_known meant)
  rwa [List.append_nil] at both

end Rendered

end DataAccess
