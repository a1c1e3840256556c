/-
This file says why files cannot be written, and which can be created in an empty directory.
-/

namespace DataAccess

/-- Why a file cannot be created, or cannot be written once it is created. -/
inductive FileFailure where
  | nulInName
  | noSuchEntry
  | isDirectory
  | nameTooLong
  | unwritable (reason : String)
deriving DecidableEq, Repr

namespace FileFailure

def text : FileFailure → String
  | .nulInName => "file name contained an unexpected NUL byte"
  | .noSuchEntry => "No such file or directory (os error 2)"
  | .isDirectory => "Is a directory (os error 21)"
  | .nameTooLong => "File name too long (os error 36)"
  | .unwritable reason => reason

/-- The file is there in spite of the failure. -/
def isBehindCreation : FileFailure → Bool
  | .unwritable _ => true
  | .nulInName | .noSuchEntry | .isDirectory | .nameTooLong => false

def message (failure : FileFailure) : String :=
  (if failure.isBehindCreation then "Could not write to file: " else "Could not create file: ") ++
    failure.text

end FileFailure

namespace ScratchDirectory

def longestName : Nat := 255

def longestPath : Nat := 4095

def isDots (name : String) : Bool :=
  name == "." || name == ".."

/-- Only the directory itself and what holds it can be passed through. -/
def passing (name : String) : Option FileFailure :=
  if isDots name then none
  else if longestName < name.utf8ByteSize then some .nameTooLong
  else some .noSuchEntry

def ending (name : String) (closed : Bool) : Option FileFailure :=
  if isDots name || closed then some .isDirectory
  else if longestName < name.utf8ByteSize then some .nameTooLong
  else none

/-- The names of a path are passed in order; a path without any is a directory. A slash behind the
last name closes the path. -/
def walk (closed : Bool) : List String → Option FileFailure
  | [] => some .isDirectory
  | [last] => ending last closed
  | name :: rest => (passing name).or (walk closed rest)

/-- The failure of creating a file at a path, if it fails. -/
def create (path : String) : Option FileFailure :=
  if path.toList.contains '\x00' then some .nulInName
  else if path.isEmpty then some .noSuchEntry
  else if longestPath < path.utf8ByteSize then some .nameTooLong
  else
    let parts := path.splitOn "/"
    walk (parts.getLast? == some "") (parts.filter fun part => !part.isEmpty)

end ScratchDirectory

end DataAccess
