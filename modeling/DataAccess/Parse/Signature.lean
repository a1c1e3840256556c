/-
This file reads the signatures of methods.
-/

import DataAccess.Parse.Generics

namespace DataAccess.Parse

open DataAccess.Parser

/-- A signature can begin here, behind what qualifies it. -/
def startsSignature (allowSafe : Bool) : Parser Bool := do
  let test : Parser Bool := do
    let _ ← keyword? "const"
    let _ ← keyword? "async"
    if allowSafe && (← peek (Peek.word "safe")) then
      let _ ← keyword "safe"
    else
      let _ ← keyword? "unsafe"
    let _ ← abi
    peek (Peek.word "fn")
  ahead test

/-- A receiver: `self`, perhaps behind a reference, perhaps with a type, and no path that begins
so. -/
def receiver (grammar : Grammar) (attributes : List Attribute) : Parser Input := do
  let reference ←
    if ← peek (Peek.mark "&") then do
      let ampersand ← mark "&"
      let name ← lifetime?
      pure (some (ampersand, name))
    else pure none
  let mutability ← keyword? "mut"
  let self ← keyword "self"
  if ← peek (Peek.mark "::") then failExpected []
  let colon ← if reference.isSome then pure none else mark? ":"
  match colon with
  | some position =>
      return .receiver attributes reference mutability self (some (position, ← grammar.type true))
  | none => return .receiver attributes reference mutability self none

/-- An input, or what ends the inputs of a variadic signature. -/
inductive InputOrVariadic where
  | input (input : Input)
  | variadic (variadic : Variadic)

def typedInput (grammar : Grammar) (attributes : List Attribute) : Parser InputOrVariadic := do
  if ← peek fun tokens => Peek.identifier tokens && Peek.mark "<" (tokens.drop 1) then
    let start ← position
    let declared ← grammar.type true
    return .input (.typed attributes (.other (Code.keyword "_" start)) start declared)
  else
    let pattern ← grammar.pattern
    let colon ← mark ":"
    if ← peek (Peek.mark "...") then
      let dots ← mark "..."
      return .variadic ⟨attributes, pattern.code ++ Code.mark ":" colon, dots, none⟩
    else return .input (.typed attributes pattern colon (← grammar.type true))

def inputOrVariadic (grammar : Grammar) : Parser InputOrVariadic := do
  let attributes ← outerAttributes grammar
  if ← peek (Peek.mark "...") then return .variadic ⟨attributes, [], ← mark "...", none⟩
  match ← attempt (receiver grammar attributes) with
  | some found => return .input found
  | none => typedInput grammar attributes

/-- A receiver stands only at the front. -/
def checkReceiver (found : List (Separated Input)) : Input → Parser Unit
  | .receiver _ _ _ self _ =>
      let isReceiver (input : Separated Input) : Bool :=
        match input.entry with
        | .receiver _ _ _ _ _ => true
        | .typed _ _ _ _ => false
      if found.any isReceiver then failAt .repeatedReceiver self
      else if found.isEmpty then return ()
      else failAt .misplacedReceiver self
  | .typed _ _ _ _ => return ()

/-- The inputs of a signature; those found so far are given the latest first. -/
def inputsFrom (grammar : Grammar) :
    Nat → List (Separated Input) → Parser (List (Separated Input) × Option Variadic)
  | 0, found => return (found.reverse, none)
  | fuel + 1, found => do
      if ← isEmpty then return (found.reverse, none)
      match ← inputOrVariadic grammar with
      | .variadic variadic =>
          let comma ← if ← isEmpty then pure none else some <$> mark ","
          return (found.reverse, some { variadic with comma := comma })
      | .input input =>
          checkReceiver found input
          if ← isEmpty then return ((⟨input, none⟩ :: found).reverse, none)
          else
            let comma ← mark ","
            inputsFrom grammar fuel (⟨input, some comma⟩ :: found)

def inputs (grammar : Grammar) : Parser (List (Separated Input) × Option Variadic) := do
  let remaining ← tokens
  inputsFrom grammar (remaining.length + 1) []

def returnType (grammar : Grammar) : Parser (Option ReturnType) := do
  match ← mark? "->" with
  | some arrow => return some ⟨arrow, ← grammar.type true⟩
  | none => return none

/-- A signature, and whether it is marked as safe where that is allowed. -/
def signatureOf (grammar : Grammar) (allowSafe : Bool) : Parser (Signature × Bool) := do
  let constness ← keyword? "const"
  let asyncness ← keyword? "async"
  let unsafety ← keyword? "unsafe"
  let safe ← if allowSafe && unsafety.isNone then keyword? "safe" else pure none
  let abi ← abi
  let keyword ← keyword "fn"
  let name ← identifier
  let generics ← generics grammar
  let enclosed ← group .parenthesis (inputs grammar)
  let output ← returnType grammar
  let conditions ← whereClause? grammar
  return ({
    constness, asyncness, unsafety, abi, keyword, name
    generics := { generics with whereClause := conditions }
    opening := enclosed.opening
    closing := enclosed.closing
    inputs := enclosed.value.1
    variadic := enclosed.value.2
    output }, safe.isSome)

def signature (grammar : Grammar) : Parser Signature := do
  return (← signatureOf grammar false).1

end DataAccess.Parse
