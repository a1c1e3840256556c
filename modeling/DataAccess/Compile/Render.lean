/-
This file writes the generated code of a batch.
-/

import DataAccess.Compile.Registry
import DataAccess.Compile.Template

namespace DataAccess.Render

open Template

def handlePath : Code := absolute ["dbx", "Handle"]
def accessPath : Code := absolute ["dbx", "Dao"]
def materializePath : List String := ["dbx", "materialize"]
def manifestPath : Code := absolute ["dbx", "Manifest"]

/-- The parameter that stands for the prepared statement. -/
def statementName : String := "__internal_statement"

/-- All extraction reads the first column. -/
def resultColumn : Code := spelled "1usize"

def binding (binding : Binding) : Code :=
  word statementName ++ mark "." ++ word "bind" ++
    parentheses (spelled s!"{binding.position}usize" ++ mark "," ++ mark "&" ++
      named binding.parameter ++ mark "," ++
      absolute ["dbx", "WireTag", binding.tag.name]) ++
    mark "?" ++ mark ";"

/-- The rows of the executing statement. -/
def rows : Code :=
  mark "&" ++ word "mut" ++ word statementName ++ mark "." ++ word "query" ++ parentheses []

def materialize (function : String) (accessor : Accessor) : Code :=
  absolute (materializePath ++ [function]) ++
    parentheses (rows ++ mark "," ++ resultColumn ++ mark "," ++
      absolute ["dbx", "ResultSource", accessor.name])

def extract : Extract → Code
  | .finish => absolute (materializePath ++ ["finish"]) ++ parentheses rows
  | .resultSet => word statementName ++ mark "." ++ word "result_set" ++ parentheses []
  | .scalar accessor => materialize "first" accessor
  | .collection kind element => materialize kind.materializer element

/-- The call that prepares the query and runs the bindings and the extraction on it. -/
def execution (method : CompiledMethod) : Code :=
  absolute ["dbx", "execute"] ++
    parentheses (mark "&" ++ relative ["self"] ++ mark "." ++ word "handle" ++ mark "," ++
      [.token method.query.token] ++ mark "," ++ mark "|" ++ word statementName ++ mark "|" ++
      braces (method.bindings.flatMap binding ++ extract method.extract))

def body (method : CompiledMethod) : Code :=
  match method.failure with
  | .unchecked => absolute ["dbx", "unchecked"] ++ parentheses (execution method)
  | .propagate =>
      absolute ["core", "result", "Result", "map_err"] ++
        parentheses (execution method ++ mark "," ++ absolute ["core", "convert", "Into", "into"])

def method (compiled : CompiledMethod) : Code :=
  compiled.signature.code ++ braces (body compiled)

/-- The struct that holds the handle. -/
def holder (unit : ImplementationUnit) : Code :=
  documentation (text s!"Generated implementation of [`{unit.interface.text}`].") ++
    unit.visibility ++ word "struct" ++ named unit.name ++
    braces (word "handle" ++ mark ":" ++ handlePath ++ mark ",")

def construction (unit : ImplementationUnit) : Code :=
  word "impl" ++ named unit.name ++
    braces (unit.visibility ++ words ["fn", "new"] ++
      parentheses (word "handle" ++ mark ":" ++ handlePath) ++ mark "->" ++ word "Self" ++
      braces (word "Self" ++ braces (word "handle")))

def accessImplementation (unit : ImplementationUnit) : Code :=
  word "impl" ++ accessPath ++ word "for" ++ named unit.name ++
    braces (words ["fn", "handle"] ++ parentheses (mark "&" ++ word "self") ++ mark "->" ++
      mark "&" ++ handlePath ++
      braces (mark "&" ++ word "self" ++ mark "." ++ word "handle"))

def interfaceImplementation (unit : ImplementationUnit) : Code :=
  word "impl" ++ named unit.interface ++ word "for" ++ named unit.name ++
    braces (unit.methods.flatMap method)

/-- The four items of an implementation. -/
def implementation (unit : ImplementationUnit) : Code :=
  holder unit ++ construction unit ++ accessImplementation unit ++
    interfaceImplementation unit

def dynamic (interface : Name) : Code :=
  word "dyn" ++ named interface

/-- The lookup of one interface in a registry. -/
def lookup (entry : RegistryEntry) : Code :=
  words ["if", "interface"] ++ mark "==" ++ absolute ["core", "any", "TypeId", "of"] ++
    mark "::" ++ mark "<" ++ dynamic entry.interface ++ mark ">" ++ parentheses [] ++
    braces (words ["let", "dao"] ++ mark ":" ++ absolute ["std", "boxed", "Box"] ++ mark "<" ++
      dynamic entry.interface ++ mark ">" ++ mark "=" ++
      absolute ["std", "boxed", "Box", "new"] ++
      parentheses (named entry.implementation ++ mark "::" ++ word "new" ++
        parentheses (absolute ["core", "clone", "Clone", "clone"] ++
          parentheses (word "handle"))) ++ mark ";" ++
      word "return" ++ absolute ["core", "option", "Option", "Some"] ++
      parentheses (absolute ["std", "boxed", "Box", "new"] ++ parentheses (word "dao")) ++
      mark ";")

def staticText : Code :=
  mark "&" ++ lifetime "'static" ++ word "str"

/-- A method that answers a text. -/
def textMethod (name value : String) : Code :=
  words ["fn", name] ++ parentheses (mark "&" ++ word "self") ++ mark "->" ++ staticText ++
    braces (text value)

/-- A method that answers a list of texts. -/
def textsMethod (name : String) (values : List String) : Code :=
  words ["fn", name] ++ parentheses (mark "&" ++ word "self") ++ mark "->" ++
    mark "&" ++ lifetime "'static" ++ brackets staticText ++
    braces (mark "&" ++ brackets (listed (values.map text)))

def lookupInputs : Code :=
  mark "&" ++ word "self" ++ mark "," ++ word "interface" ++ mark ":" ++
    absolute ["core", "any", "TypeId"] ++ mark "," ++ word "handle" ++ mark ":" ++
    mark "&" ++ handlePath ++ mark ","

/-- The method that looks interfaces up. -/
def lookupMethod (entries : List RegistryEntry) : Code :=
  words ["fn", "get"] ++ parentheses lookupInputs ++ mark "->" ++
    absolute ["core", "option", "Option"] ++ mark "<" ++
    absolute ["std", "boxed", "Box"] ++ mark "<" ++ word "dyn" ++
    absolute ["core", "any", "Any"] ++ mark ">>" ++
    braces (entries.flatMap lookup ++ absolute ["core", "option", "Option", "None"])

def registryMethods (registry : Registry) : Code :=
  textMethod "name" registry.batch.text ++
    textsMethod "interfaces" (registry.entries.map fun entry => entry.interface.text) ++
    lookupMethod registry.entries

/-- The registry's struct, its lookups and the manifest. -/
def registry (registry : Registry) : Code :=
  documentation (spelled "r\" Looks up the implementations generated in this batch.\"") ++
    words ["pub", "struct", registry.name] ++ mark ";" ++
    word "impl" ++ absolute ["dbx", "DaoRegistry"] ++ words ["for", registry.name] ++
    braces (registryMethods registry) ++
    documentation (spelled "r\" Points the resolver at this batch's registry.\"") ++
    words ["pub", "const", "MANIFEST"] ++ mark ":" ++ manifestPath ++ mark "=" ++
    manifestPath ++ mark "::" ++ word "new" ++
    parentheses (text registry.batch.text ++ mark "," ++ mark "&" ++ word registry.name) ++
    mark ";"

/-- An item of a batch with what is generated for it. -/
inductive BatchItem where
  | passthrough (item : Item)
  | interface (declaration : TraitDeclaration) (unit : Option ImplementationUnit)

def batchItem : BatchItem → Code
  | .passthrough item => item.code
  | .interface declaration unit =>
      declaration.code ++
        (match unit with
          | some unit => implementation unit
          | none => [])

/-- The module of a batch. -/
def batch (name : Name) (isPublic : Bool) (items : List BatchItem) (registry : Registry) :
    Code :=
  (if isPublic then word "pub" else []) ++ word "mod" ++ named name ++
    braces (innerAttribute "allow" "unused_variables" ++
      innerAttribute "allow" "unused_imports" ++ innerAttribute "allow" "dead_code" ++
      word "use" ++ relative ["super"] ++ mark "::" ++ mark "*" ++ mark ";" ++
      items.flatMap batchItem ++ Render.registry registry)

end DataAccess.Render
