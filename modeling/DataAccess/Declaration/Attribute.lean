/-
This file holds the attributes of declarations. The formatter writes documentation as comments.
-/

import DataAccess.Source.Code
import DataAccess.Source.Literal

namespace DataAccess

/-- A path of names alone. -/
structure NamePath where
  leading : Option Position
  qualifier : List (Name × Position)
  last : Name
deriving DecidableEq, Repr

namespace NamePath

def code (path : NamePath) : Code :=
  (match path.leading with
    | some position => Code.mark "::" position
    | none => []) ++
    path.qualifier.flatMap (fun segment => Code.word segment.1 ++ Code.mark "::" segment.2) ++
    Code.word path.last

/-- The path is one name. -/
def isName (path : NamePath) (name : String) : Bool :=
  path.leading.isNone && path.qualifier.isEmpty && path.last.text == name

def names (path : NamePath) : List Name :=
  path.qualifier.map Prod.fst ++ [path.last]

def first (path : NamePath) : Name :=
  match path.qualifier with
  | [] => path.last
  | segment :: _ => segment.1

def position (path : NamePath) : Position :=
  match path.leading with
  | some position => position
  | none => path.first.position

/-- The path as a message shows it. -/
def shown (path : NamePath) : String :=
  (if path.leading.isSome then "::" else "") ++
    "::".intercalate (path.names.map Name.text)

end NamePath

/-- What an attribute holds after its path. A list is kept as it is written. -/
inductive AttributeContent where
  | bare
  | list (delimiter : Delimiter) (opening closing : Position) (inner : List Token)
  | value (equals : Position) (code : Code)

/-- An attribute with an exclamation mark belongs to what holds it. -/
structure Attribute where
  pound : Position
  bang : Option Position
  opening : Position
  closing : Position
  path : NamePath
  content : AttributeContent

namespace AttributeContent

def code : AttributeContent → Code
  | .bare => []
  | .list delimiter opening closing inner => [.token (.group delimiter opening closing inner)]
  | .value equals code => Code.mark "=" equals ++ code

/-- The text of a value that is a string literal. -/
def text? : AttributeContent → Option String
  | .value _ [.token token] => (StringLiteral.ofToken? token).map StringLiteral.value
  | _ => none

end AttributeContent

/-! The comments that the formatter writes for attributes. -/
namespace Comment

/-- Block comments nest, so a comment's end must not stand in it unpaired. -/
def isBalanced : Nat → List Char → Bool
  | depth, [] => depth == 0
  | depth, '/' :: '*' :: rest => isBalanced (depth + 1) rest
  | depth, '*' :: '/' :: rest =>
      match depth with
      | 0 => false
      | depth + 1 => isBalanced depth rest
  | depth, _ :: rest => isBalanced depth rest

def fitsBlock (value : List Char) : Bool :=
  isBalanced 0 value && value.getLast? != some '/'

/-- A comment on one line if the text has one line and can follow the mark, and in a block if it can
stand there. -/
def ofText? (value line block : String) (followsLine followsBlock : List Char → Bool) :
    Option String :=
  let characters := value.toList
  if !characters.contains '\n' && followsLine characters then some (line ++ value)
  else if fitsBlock characters && followsBlock characters then some (block ++ value ++ "*/")
  else none

def beginsWith (openings : List Char) (characters : List Char) : Bool :=
  characters.head?.any openings.contains

def documentation? (inner : Bool) (value : String) : Option String :=
  if inner then ofText? value "//!" "/*!" (fun _ => true) (fun _ => true)
  else ofText? value "///" "/**" (!beginsWith ['/'] ·) (!beginsWith ['*', '/'] ·)

def plain? (value : String) : Option String :=
  ofText? value "//" "/*" (fun _ => true) (!beginsWith ['*', '!'] ·)

end Comment

namespace Attribute

def isInner (mark : Attribute) : Bool :=
  mark.bang.isSome

/-- The comment that stands for the attribute in formatted code. -/
def comment? (mark : Attribute) : Option String :=
  match mark.content.text? with
  | none => none
  | some value =>
      if mark.path.isName "doc" then Comment.documentation? mark.isInner value
      else if mark.path.isName "comment" then Comment.plain? value
      else none

def written (mark : Attribute) : Code :=
  Code.mark "#" mark.pound ++
    (match mark.bang with
      | some position => Code.mark "!" position
      | none => []) ++
    [.group .bracket mark.opening mark.closing (mark.path.code ++ mark.content.code)]

def code (mark : Attribute) : Code :=
  match mark.comment? with
  | some comment => mark.written.leaveOut ++ [.inserted comment, .lineBreak]
  | none => mark.written

def tokens (mark : Attribute) : List Token :=
  mark.code.tokens

/-- An attribute is a marker when its path ends in the marker's name. -/
def isMarker (name : String) (mark : Attribute) : Bool :=
  mark.path.last.text == name

def isBare (mark : Attribute) : Bool :=
  match mark.content with
  | .bare => true
  | .list _ _ _ _ => false
  | .value _ _ => false

def outerCode (marks : List Attribute) : Code :=
  (marks.filter fun mark => !mark.isInner).flatMap code

def innerCode (marks : List Attribute) : Code :=
  (marks.filter isInner).flatMap code

end Attribute

end DataAccess
