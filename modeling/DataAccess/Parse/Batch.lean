/-
This file reads batches: a header with options, and items.
-/

import DataAccess.Parse.Declaration

namespace DataAccess

inductive OptionValue where
  | switch (isOn : Bool)
  | path (literal : StringLiteral)
deriving DecidableEq, Repr

/-- An option of a header as it is written. -/
structure BatchOption where
  key : Name
  value : OptionValue
deriving DecidableEq, Repr

structure BatchOptions where
  isPublic : Bool
  debugFile : Option StringLiteral
deriving DecidableEq, Repr

structure Batch where
  name : Name
  options : BatchOptions
  items : List Item

namespace BatchOptions

def default : BatchOptions := ⟨false, none⟩

/-- Takes one more option, unless its key is unknown or has a value of the wrong kind. -/
def set (options : BatchOptions) (option : BatchOption) : Except SyntaxError BatchOptions :=
  if option.key.text == "pub" then
    match option.value with
    | .switch isOn => .ok { options with isPublic := isOn }
    | .path literal => .error ⟨⟨.switchExpected, literal.position⟩, []⟩
  else if option.key.text == "debug_file" then
    match option.value with
    | .path literal => .ok { options with debugFile := some literal }
    | .switch _ => .error ⟨⟨.pathExpected, option.key.position⟩, []⟩
  else .error ⟨⟨.unknownOption option.key.text, option.key.position⟩, []⟩

/-- Takes the options in order; those seen before are given in order, too. -/
def takeFrom (options : BatchOptions) (seen : List Name) :
    List BatchOption → Except SyntaxError BatchOptions
  | [] => .ok options
  | option :: rest =>
      match seen.find? fun earlier => earlier.text == option.key.text with
      | some earlier =>
          .error ⟨⟨.repeatedOption option.key.text, option.key.position⟩,
            [⟨.firstOption, earlier.position⟩]⟩
      | none =>
          match options.set option with
          | .ok changed => takeFrom changed (seen ++ [option.key]) rest
          | .error error => .error error

/-- The options of a header, none of them given twice. -/
def ofList (options : List BatchOption) : Except SyntaxError BatchOptions :=
  takeFrom default [] options

end BatchOptions

namespace Parse

open DataAccess.Parser

def optionKey : Parser Name := do
  if ← peek (Peek.word "pub") then anyWord else identifier

def optionValue : Parser OptionValue := do
  if ← peek Peek.stringLiteral then return .path (← stringLiteral)
  else
    let name ← identifier
    if name.text == "on" then return .switch true
    else if name.text == "off" then return .switch false
    else failAt .switchExpected name.position

def batchOption : Parser BatchOption := do
  let key ← optionKey
  let _ ← mark "="
  return ⟨key, ← optionValue⟩

/-- All options are read before any of them is looked at. -/
def batchOptions : Parser BatchOptions := do
  if ← peek (Peek.group .brace) then
    let enclosed ← group .brace (terminated batchOption)
    match BatchOptions.ofList (Separated.entries enclosed.value) with
    | .ok options => return options
    | .error error => throw error
  else return .default

def batch (grammar : Grammar) : Parser Batch := do
  if ← peek (Peek.word "impl") then
    let _ ← keyword "impl"
    let name ← identifier
    let options ← batchOptions
    let _ ← mark ";"
    return ⟨name, options, ← untilEmpty grammar.item⟩
  else
    let stream ← get
    failAt (.missingHeader stream.isEmpty) stream.position

def batch? (tokens : List Token) : Except SyntaxError Batch :=
  run (batch (grammarFor tokens)) tokens

end Parse

end DataAccess
