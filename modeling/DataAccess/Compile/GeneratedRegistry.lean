/-
This file reads the code of generated registries: what they answer for their names, and which
implementations they look up.
-/

import DataAccess.Compile.Rendered
import DataAccess.Source.Literal

namespace DataAccess

/-- A lookup: the interface that is asked for, the one that the answer is boxed as, and the struct
whose constructor is called. -/
structure GeneratedLookup where
  asked : Name
  boxed : Name
  constructed : Name
deriving DecidableEq

/-- A generated registry as its code says. The manifest has a batch name of its own and points at a
registry. -/
structure GeneratedRegistry where
  name : String
  implementing : String
  batch : String
  interfaces : List String
  lookups : List GeneratedLookup
  manifestBatch : String
  manifestRegistry : String
deriving DecidableEq

namespace Rendered

/-- Marks of which only the presence counts. -/
def punctuation : List String → Parser Unit
  | [] => nothing
  | spelling :: rest => do
      let _ ← Parser.mark spelling
      punctuation rest

def spellings : List String → Parser Unit
  | [] => nothing
  | spelling :: rest => do
      let _ ← Parser.keyword spelling
      spellings rest

/-- A string literal, read as the text that it denotes. -/
def text : Parser String :=
  literalOf fun spelling => some (StringLiteral.value ⟨spelling, .callSite⟩)

/-- A documentation attribute, whose text is passed over. -/
def documentation : Parser Unit := do
  let _ ← Parser.mark "#"
  let _ ← Parser.group .bracket do
    spellings ["doc"]
    punctuation ["="]
    text

def staticText : Parser Unit := do
  punctuation ["&"]
  let _ ← Parser.lifetime
  spellings ["str"]

def selfReference : Parser Unit := do
  punctuation ["&"]
  spellings ["self"]

/-- A method that answers a text. -/
def textMethod (name : String) : Parser String := do
  spellings ["fn", name]
  let _ ← Parser.group .parenthesis selfReference
  punctuation ["->"]
  staticText
  return (← Parser.group .brace text).value

/-- Texts with a comma between each two. -/
def texts : Parser (List String) := do
  match ← Parser.attempt text with
  | none => return []
  | some first => do
      let others ← Parser.repeatStep (Parser.attempt do
        punctuation [","]
        text)
      return first :: others

/-- A method that answers a list of texts. -/
def textsMethod (name : String) : Parser (List String) := do
  spellings ["fn", name]
  let _ ← Parser.group .parenthesis selfReference
  punctuation ["->", "&"]
  let _ ← Parser.lifetime
  let _ ← Parser.group .bracket staticText
  let answered ← Parser.group .brace do
    punctuation ["&"]
    Parser.group .bracket texts
  return answered.value.value

/-- `dyn` and the name of an interface. -/
def dynamic : Parser Name := do
  spellings ["dyn"]
  Parser.anyWord

/-- The construction of an implementation on a copy of the handle. -/
def construction : Parser Name := do
  let constructed ← Parser.anyWord
  punctuation ["::"]
  spellings ["new"]
  let _ ← Parser.group .parenthesis do
    path ["core", "clone", "Clone", "clone"]
    Parser.group .parenthesis (spellings ["handle"])
  return constructed

/-- What is done for the interface that is asked for. -/
def provision : Parser (Name × Name) := do
  spellings ["let", "dao"]
  punctuation [":"]
  path ["std", "boxed", "Box"]
  punctuation ["<"]
  let boxed ← dynamic
  punctuation [">", "="]
  path ["std", "boxed", "Box", "new"]
  let constructed ← Parser.group .parenthesis construction
  punctuation [";"]
  spellings ["return"]
  path ["core", "option", "Option", "Some"]
  let _ ← Parser.group .parenthesis do
    path ["std", "boxed", "Box", "new"]
    Parser.group .parenthesis (spellings ["dao"])
  punctuation [";"]
  return (boxed, constructed.value)

def lookup : Parser GeneratedLookup := do
  spellings ["if", "interface"]
  punctuation ["=="]
  path ["core", "any", "TypeId", "of"]
  punctuation ["::", "<"]
  let asked ← dynamic
  punctuation [">"]
  let _ ← Parser.group .parenthesis nothing
  let provided ← Parser.group .brace provision
  return ⟨asked, provided.value.1, provided.value.2⟩

/-- The lookups, behind which nothing is found. -/
def lookups : Parser (List GeneratedLookup) := do
  let found ← Parser.repeatStep (Parser.attempt lookup)
  path ["core", "option", "Option", "None"]
  return found

/-- The inputs of the method that looks interfaces up. -/
def lookupInputs : Parser Unit := do
  selfReference
  punctuation [","]
  spellings ["interface"]
  punctuation [":"]
  path ["core", "any", "TypeId"]
  punctuation [","]
  spellings ["handle"]
  punctuation [":", "&"]
  path ["dbx", "Handle"]
  punctuation [","]

def lookupMethod : Parser (List GeneratedLookup) := do
  spellings ["fn", "get"]
  let _ ← Parser.group .parenthesis lookupInputs
  punctuation ["->"]
  path ["core", "option", "Option"]
  punctuation ["<"]
  path ["std", "boxed", "Box"]
  punctuation ["<"]
  spellings ["dyn"]
  path ["core", "any", "Any"]
  punctuation [">>"]
  return (← Parser.group .brace lookups).value

/-- The methods of a registry: its name, the names of its interfaces, and its lookups. -/
def registryMethods : Parser (String × List String × List GeneratedLookup) := do
  let name ← textMethod "name"
  let interfaces ← textsMethod "interfaces"
  return (name, interfaces, ← lookupMethod)

/-- The batch name of a manifest and the registry at which it points. -/
def manifestArguments : Parser (String × String) := do
  let batch ← text
  punctuation [",", "&"]
  return (batch, (← Parser.anyWord).text)

/-- The struct of a registry, its methods and the manifest. -/
def registry : Parser GeneratedRegistry := do
  documentation
  spellings ["pub", "struct"]
  let name ← Parser.anyWord
  punctuation [";"]
  spellings ["impl"]
  path ["dbx", "DaoRegistry"]
  spellings ["for"]
  let implementing ← Parser.anyWord
  let methods ← Parser.group .brace registryMethods
  documentation
  spellings ["pub", "const", "MANIFEST"]
  punctuation [":"]
  path ["dbx", "Manifest"]
  punctuation ["="]
  path ["dbx", "Manifest"]
  punctuation ["::"]
  spellings ["new"]
  let manifest ← Parser.group .parenthesis manifestArguments
  punctuation [";"]
  return ⟨name.text, implementing.text, methods.value.1, methods.value.2.1, methods.value.2.2,
    manifest.value.1, manifest.value.2⟩

end Rendered

/-- The registry that code declares. -/
def GeneratedRegistry.read? (tokens : List Token) : Option GeneratedRegistry :=
  (Parser.run Rendered.registry tokens).toOption

end DataAccess
