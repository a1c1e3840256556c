/-
This file builds generated code, which no source text holds.
-/

import DataAccess.Declaration.Attribute
import DataAccess.Text.Quoted

namespace DataAccess.Template

def word (spelling : String) : Code :=
  Code.keyword spelling .callSite

def words (spellings : List String) : Code :=
  spellings.flatMap word

def mark (spelling : String) : Code :=
  Code.mark spelling .callSite

def named (name : Name) : Code :=
  Code.word name

def spelled (literal : String) : Code :=
  [.token (.literal literal .callSite)]

def text (value : String) : Code :=
  spelled (Text.Quoted.literal value)

def lifetime (spelling : String) : Code :=
  Code.lifetime ⟨spelling, .callSite⟩

def parentheses (inner : Code) : Code :=
  [.group .parenthesis .callSite .callSite inner]

def braces (inner : Code) : Code :=
  [.group .brace .callSite .callSite inner]

def brackets (inner : Code) : Code :=
  [.group .bracket .callSite .callSite inner]

/-- A path from the root of all crates. -/
def absolute (names : List String) : Code :=
  names.flatMap fun name => mark "::" ++ word name

/-- A path from where it stands. -/
def relative : List String → Code
  | [] => []
  | first :: rest => word first ++ absolute rest

/-- Parts with a comma between each two. -/
def listed : List Code → Code
  | [] => []
  | [last] => last
  | first :: rest => first ++ mark "," ++ listed rest

/-- An attribute that belongs to what holds it. -/
def innerAttribute (name : String) (argument : String) : Code :=
  mark "#" ++ mark "!" ++ brackets (word name ++ parentheses (word argument))

/-- A documentation attribute with a spelled literal. -/
def documentation (literal : Code) : Code :=
  Attribute.code ⟨.callSite, none, .callSite, .callSite, ⟨none, [], ⟨"doc", .callSite⟩⟩,
    .value .callSite literal⟩

end DataAccess.Template
