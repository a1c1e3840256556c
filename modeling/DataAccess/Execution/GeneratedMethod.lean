/-
This file reads the code of generated methods and runs what it says. The reader knows the rendered
forms alone, and takes the names of tags, accessors and drains from the code.
-/

import DataAccess.Compile.Render
import DataAccess.Compile.Rendered
import DataAccess.Execution.MethodCall

namespace DataAccess

/-- A generated method as its code says. -/
structure GeneratedMethod where
  signature : List Token
  query : StringLiteral
  bindings : List Binding
  extract : Extract
  failure : FailureMode

/-- The arguments of a call, by the names of their parameters. -/
abbrev CallArguments := String → Bindable

/-- The arguments in the order of the bindings that name them. -/
def CallArguments.inOrder (arguments : CallArguments) (bindings : List Binding) : List Bindable :=
  bindings.map fun binding => arguments binding.parameter.text

def Accessor.ofName? (name : String) : Option Accessor :=
  Accessor.all.find? fun accessor => accessor.name == name

namespace Rendered

/-- The number in a literal of a size. -/
def sizeOf? (spelling : String) : Option Nat :=
  let digits := spelling.toList.takeWhile Char.isDigit
  if spelling.toList.drop digits.length = "usize".toList then
    some (Text.Decimal.valueOf digits)
  else none

def size : Parser Nat :=
  literalOf sizeOf?

/-- The number of the column from which all values are extracted. -/
def valueColumn : Parser Nat :=
  literalOf fun spelling => (sizeOf? spelling).filter (· == Extract.valueColumn)

/-- A literal; the compiler has seen to it that it is one of a string. -/
def query : Parser StringLiteral := do
  match ← Parser.tokens with
  | .literal spelling position :: rest => do
      Parser.take rest
      return ⟨spelling, position⟩
  | _ => Parser.failExpected [.stringLiteral]

def statement : Parser Unit := do
  let _ ← Parser.keyword Render.statementName
  let _ ← Parser.mark "."

/-- What stands between the parentheses of a binding. -/
def boundArgument : Parser Binding := do
  let position ← size
  let _ ← Parser.mark ","
  let _ ← Parser.mark "&"
  let parameter ← Parser.anyWord
  let _ ← Parser.mark ","
  let tag ← known WireTag.ofName? (← memberOf ["dbx", "WireTag"])
  return ⟨position, parameter, tag⟩

def binding : Parser Binding := do
  statement
  let _ ← Parser.keyword "bind"
  let bound ← Parser.group .parenthesis boundArgument
  let _ ← Parser.mark "?"
  let _ ← Parser.mark ";"
  return bound.value

def rows : Parser Unit := do
  let _ ← Parser.mark "&"
  let _ ← Parser.keyword "mut"
  statement
  let _ ← Parser.keyword "query"
  let _ ← Parser.group .parenthesis nothing

/-- The drains that read a column of the rows. -/
def columnDrain? : String → Option (Accessor → Extract)
  | "first" => some .scalar
  | "to_list" => some (.collection .list)
  | "to_set" => some (.collection .set)
  | _ => none

/-- The accessor that a drain reads the column with. -/
def columnAccessor : Parser Accessor := do
  rows
  let _ ← Parser.mark ","
  let _ ← valueColumn
  let _ ← Parser.mark ","
  known Accessor.ofName? (← memberOf ["dbx", "ResultSource"])

def drain : Parser Extract := do
  let function ← memberOf Render.materializePath
  if function.text == "finish" then do
    let _ ← Parser.group .parenthesis rows
    return .finish
  else do
    let extract ← known columnDrain? function
    let accessor ← Parser.group .parenthesis columnAccessor
    return extract accessor.value

def extract : Parser Extract := do
  if ← Parser.peek (Peek.word Render.statementName) then do
    statement
    let _ ← Parser.keyword "result_set"
    let _ ← Parser.group .parenthesis nothing
    return .resultSet
  else drain

/-- The bindings up to the extraction, and the extraction. -/
def closure : Parser (List Binding × Extract) := do
  let bindings ← Parser.repeatStep (Parser.attempt binding)
  return (bindings, ← extract)

/-- What stands between the parentheses of the call that prepares the query. -/
def execution : Parser (StringLiteral × List Binding × Extract) := do
  let _ ← Parser.mark "&"
  let _ ← Parser.keyword "self"
  let _ ← Parser.mark "."
  let _ ← Parser.keyword "handle"
  let _ ← Parser.mark ","
  let literal ← query
  let _ ← Parser.mark ","
  let _ ← Parser.mark "|"
  let _ ← Parser.keyword Render.statementName
  let _ ← Parser.mark "|"
  let inside ← Parser.group .brace closure
  return (literal, inside.value)

def executeCall : Parser (StringLiteral × List Binding × Extract) := do
  path ["dbx", "execute"]
  return (← Parser.group .parenthesis execution).value

/-- What stands between the parentheses where a failure is passed on. -/
def propagated : Parser (StringLiteral × List Binding × Extract) := do
  let parts ← executeCall
  let _ ← Parser.mark ","
  path ["core", "convert", "Into", "into"]
  return parts

/-- The wrapper of the call tells what becomes of a failure. -/
def body : Parser (FailureMode × StringLiteral × List Binding × Extract) := do
  match ← Parser.attempt (path ["dbx", "unchecked"]) with
  | some () => return (.unchecked, (← Parser.group .parenthesis executeCall).value)
  | none => do
      path ["core", "result", "Result", "map_err"]
      return (.propagate, (← Parser.group .parenthesis propagated).value)

end Rendered

namespace GeneratedMethod

/-- A method is a signature and a body in braces. -/
def read? (tokens : List Token) : Option GeneratedMethod :=
  match tokens.getLast? with
  | some (.group .brace _ closing inner) =>
      match Parser.runWithin closing Rendered.body inner with
      | .ok (failure, literal, bindings, extract) =>
          some ⟨tokens.dropLast, literal, bindings, extract, failure⟩
      | .error _ => none
  | _ => none

/-- Runs the closure of a method on a prepared statement. What a binding names is looked up among
the arguments alone; the scope of a signature tells where the closure's own parameter hides it. -/
def execute (method : GeneratedMethod) (arguments : CallArguments) (statement : Statement) :
    Execution :=
  .ofParts method.bindings method.extract
    (method.bindings.map fun binding => arguments binding.parameter.text) statement

/-- Calls a method. Its query is prepared first. -/
def call (method : GeneratedMethod) (arguments : CallArguments)
    (prepare : String → Except DatabaseError Statement) : Answer :=
  match prepare method.query.value with
  | .error error => method.failure.answer (.error (.database error))
  | .ok statement => method.failure.answer (method.execute arguments statement).result

end GeneratedMethod

end DataAccess
