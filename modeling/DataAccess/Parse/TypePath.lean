/-
This file reads paths with their generic arguments, and bounds.
-/

import DataAccess.Parse.Attribute

namespace DataAccess.Parse

open DataAccess.Parser

/-- A path with its last segment apart. A path of names alone has no arguments anywhere. -/
structure SegmentPath where
  qualifier : Code
  last : Name
  arguments : Arguments
  namesOnly : Bool

namespace SegmentPath

def code (path : SegmentPath) (style : PathStyle) : Code :=
  path.qualifier ++ Code.word path.last ++ path.arguments.code style

def type (path : SegmentPath) : DeclaredType :=
  .path path.qualifier path.last path.arguments

end SegmentPath

def hasNoArguments : Arguments → Bool
  | .none => true
  | .angled _ _ list _ => list.isEmpty
  | .called _ => false

def isNone : Arguments → Bool
  | .none => true
  | .angled _ _ _ _ => false
  | .called _ => false

/-- An argument that is a constant: a literal, a name or a block. -/
def constantArgument (grammar : Grammar) : Parser Code := do
  if ← peek Peek.literal then literalCode
  else if ← peek Peek.identifier then identifierCode
  else if ← peek (Peek.group .brace) then return (← block grammar).inline
  else failExpected []

def startsConstant (tokens : List Token) : Bool :=
  Peek.literal tokens || Peek.group .brace tokens

/-- A colon and the bounds of a named argument, up to a comma or a closing bracket. The formatter
leaves out a colon without bounds. -/
def argumentBounds (grammar : Grammar) : Parser Code := do
  let colon ← markCode ":"
  let list ← listWhile (fun tokens => Peek.mark "," tokens || Peek.mark ">" tokens) "+"
    (grammar.bound false true)
  let bounds := list.map (Separated.map Bound.code)
  return (if bounds.isEmpty then colon.leaveOut else colon) ++ Separated.code "+" bounds

/-- An argument of a generic type is a lifetime, a constant, a type, or a named argument. -/
def genericArgument (grammar : Grammar) :
    Parser (Option Position → Argument) := do
  if ← peek fun tokens => Peek.lifetime tokens && !Peek.mark "+" (tokens.drop 1) then
    let name ← lifetime
    return .lifetime name
  else if ← peek startsConstant then
    let code ← constantArgument grammar
    return .other code
  else
    let declared ← grammar.type true
    match declared with
    | .path [] _ arguments =>
        match arguments with
        | .called _ => return .type declared
        | _ =>
            if ← peek (Peek.mark "=") then
              let equals ← markCode "="
              let value ←
                if ← peek startsConstant then constantArgument grammar
                else DeclaredType.code <$> grammar.type true
              return .other (declared.code ++ equals ++ value)
            else if ← peek (Peek.mark ":") then
              let bounds ← argumentBounds grammar
              return .other (declared.code ++ bounds)
            else return .type declared
    | _ => return .type declared

def withComma (argument : Separated (Option Position → Argument)) : Argument :=
  argument.entry argument.separator

def angledArguments (grammar : Grammar) : Parser Arguments := do
  let colons ← mark? "::"
  let opening ← mark "<"
  let list ← listUntil (Peek.mark ">") "," (genericArgument grammar)
  let closing ← mark ">"
  return .angled colons opening (list.map withComma) closing

def returnCode (grammar : Grammar) (allowPlus : Bool) : Parser Code := do
  if ← peek (Peek.mark "->") then
    let arrow ← markCode "->"
    return arrow ++ (← grammar.type allowPlus).code
  else return []

/-- The arguments of a bound that is written like a call. -/
def calledArguments (grammar : Grammar) : Parser Code := do
  let inputs ← groupCode .parenthesis
    (terminatedCode do return (← grammar.type true).code)
  return inputs ++ (← returnCode grammar false)

/-- An angle bracket that begins no comparison and no shift with an assignment. -/
def startsAngle (tokens : List Token) : Bool :=
  Peek.mark "<" tokens && !Peek.mark "<=" tokens && !Peek.mark "<<=" tokens

def opensAngled (style : PathStyle) (tokens : List Token) : Bool :=
  (style = .type && startsAngle tokens) ||
    (Peek.mark "::" tokens && Peek.mark "<" (tokens.drop 2))

def opensCall (tokens : List Token) : Bool :=
  Peek.group .parenthesis tokens ||
    (Peek.mark "::" tokens && Peek.group .parenthesis (tokens.drop 2))

def segment (grammar : Grammar) (style : PathStyle) : Parser (Name × Arguments) := do
  if ← peek (Peek.anyOf ["super", "self", "crate", "try"]) then return (← anyWord, .none)
  let name ← if ← peek (Peek.word "Self") then anyWord else identifier
  if ← peek (opensAngled style) then
    return (name, ← angledArguments grammar)
  else return (name, .none)

/-- A path goes on behind a double colon, unless that opens a call. -/
def continuesPath (tokens : List Token) : Bool :=
  Peek.mark "::" tokens && !Peek.group .parenthesis (tokens.drop 2)

def pathRestFrom (grammar : Grammar) (style : PathStyle) :
    Nat → SegmentPath → Parser SegmentPath
  | 0, path => return path
  | fuel + 1, path => do
      if ← peek continuesPath then
        let colons ← markCode "::"
        let (name, arguments) ← segment grammar style
        pathRestFrom grammar style fuel
          ⟨path.code style ++ colons, name, arguments, path.namesOnly && isNone arguments⟩
      else return path

def pathRest (grammar : Grammar) (style : PathStyle) (path : SegmentPath) :
    Parser SegmentPath := do
  let remaining ← tokens
  pathRestFrom grammar style (remaining.length + 1) path

def path (grammar : Grammar) (style : PathStyle) : Parser SegmentPath := do
  let leading ← markCode? "::"
  let (name, arguments) ← segment grammar style
  pathRest grammar style ⟨leading, name, arguments, isNone arguments⟩

def lifetimeParameter : Parser Code := do
  let name ← lifetimeCode
  if ← peek (Peek.mark ":") then
    let colon ← markCode ":"
    let bounds ← listWhile
      (fun tokens => tokens.isEmpty || Peek.mark "," tokens || Peek.mark ">" tokens) "+"
      lifetimeCode
    if bounds.isEmpty then return name else return name ++ colon ++ Separated.code "+" bounds
  else return name

/-- A colon without bounds is not printed. -/
def typeParameter (grammar : Grammar) : Parser Code := do
  let name ← identifierCode
  let bounds ←
    if ← peek (Peek.mark ":") then do
      let colon ← markCode ":"
      let bounds ← listWhile (fun tokens => Peek.mark "," tokens || Peek.mark ">" tokens ||
        Peek.mark "=" tokens) "+" (grammar.bound false true)
      pure (if bounds.isEmpty then []
        else colon ++ Separated.code "+" (bounds.map (Separated.map Bound.code)))
    else pure []
  let default ←
    if ← peek (Peek.mark "=") then do
      let equals ← markCode "="
      pure (equals ++ (← grammar.type true).code)
    else pure []
  return name ++ bounds ++ default

def constantParameter (grammar : Grammar) : Parser Code := do
  let keyword ← keywordCode "const"
  let name ← identifierCode
  let colon ← markCode ":"
  let declared ← grammar.type true
  let default ←
    if ← peek (Peek.mark "=") then do
      let equals ← markCode "="
      pure (equals ++ (← constantArgument grammar))
    else pure []
  return keyword ++ name ++ colon ++ declared.code ++ default

/-- A parameter of a binder is of any kind. -/
def binderParameter (grammar : Grammar) : Parser Code := do
  let attributes ← outerAttributeCode grammar
  if ← peek Peek.identifier then return attributes ++ (← typeParameter grammar)
  else if ← peek Peek.lifetime then return attributes ++ (← lifetimeParameter)
  else if ← peek (Peek.word "const") then return attributes ++ (← constantParameter grammar)
  else failExpected [.identifier, .lifetime, .token "const"]

def binder (grammar : Grammar) : Parser Code := do
  let keyword ← keywordCode "for"
  let opening ← markCode "<"
  let list ← listUntil (Peek.mark ">") "," (binderParameter grammar)
  let closing ← markCode ">"
  return keyword ++ opening ++ Separated.code "," list ++ closing

def binder? (grammar : Grammar) : Parser Code := do
  if ← peek (Peek.word "for") then binder grammar else return []

/-- Whether a bound also holds in constant expressions: always, or where the context is constant. -/
def constancy (allowed : Bool) : Parser Bool := do
  let start ← position
  let refuseUnless (bracketed : Bool) : Parser Bool :=
    if allowed then return true else failAt (.constantBoundNotAllowed bracketed) start
  if ← peek (Peek.group .bracket) then
    let _ ← group .bracket (keyword "const")
    refuseUnless true
  else if ← peek (Peek.word "const") then
    let _ ← keyword "const"
    refuseUnless false
  else return false

/-- What a bound names: perhaps a question mark, a binder, and a path that may be written like a
call. The second answer says whether the bound is a constant one. -/
def namedBound (grammar : Grammar) (allowConstant : Bool) : Parser (Bound × Bool) := do
  let early ← binder? grammar
  let constant ← constancy allowConstant
  let relaxation ← mark? "?"
  let binder ← if early.isEmpty && relaxation.isSome then binder? grammar else pure early
  let named ← path grammar .type
  let arguments ←
    if hasNoArguments named.arguments && (← peek opensCall) then do
      let _ ← mark? "::"
      pure (Arguments.called (← calledArguments grammar))
    else pure named.arguments
  match relaxation with
  | some position =>
      if !binder.isEmpty then failAt .relaxationBehindBinder position
  | none => pure ()
  return (.named none relaxation binder named.qualifier named.last arguments, constant)

def captured : Parser Argument := do
  if ← peek Peek.lifetime then return .lifetime (← lifetime) none
  else if ← peek fun tokens => Peek.identifier tokens || Peek.word "Self" tokens then
    return .other (← anyWordCode) none
  else failExpected [.lifetime, .identifier, .token ">"]

/-- The captured parameters, up to the closing bracket. -/
def capturedFrom : Nat → List Argument → Parser (List Argument)
  | 0, found => return found.reverse
  | fuel + 1, found => do
      if ← peek (Peek.mark ">") then return found.reverse
      let parameter ← captured
      let withComma (comma : Option Position) : Argument :=
        match parameter with
        | .lifetime name _ => .lifetime name comma
        | .type declared _ => .type declared comma
        | .other code _ => .other code comma
      if ← peek (Peek.mark ",") then
        let comma ← mark ","
        capturedFrom fuel (withComma (some comma) :: found)
      else if ← peek (Peek.mark ">") then return (withComma none :: found).reverse
      else failExpected [.token ",", .token ">"]

def capture (allowed : Bool) : Parser Code := do
  let start ← position
  let keyword ← keywordCode "use"
  let opening ← markCode "<"
  let remaining ← tokens
  let list ← capturedFrom (remaining.length + 1) []
  let closing ← markCode ">"
  if allowed then
    return keyword ++ opening ++
      Separated.code "," (lifetimeEntries list ++ otherEntries list) ++ closing
  else failAt .captureNotAllowed start

def withEnclosure (opening closing : Position) : Bound → Bound
  | .named _ relaxation binder qualifier last arguments =>
      .named (some (opening, closing)) relaxation binder qualifier last arguments
  | .constant tokens => .constant tokens
  | .other code => .other code

/-- A bound is a lifetime, a capture, or what it names, perhaps in parentheses. -/
def bound (grammar : Grammar) (allowCapture allowConstant : Bool) : Parser Bound := do
  if ← peek Peek.lifetime then return .other (← lifetimeCode)
  else if ← peek (Peek.word "use") then return .other (← capture allowCapture)
  else
    let start ← tokens
    let (found, constant) ←
      if ← peek (Peek.group .parenthesis) then do
        let enclosed ← group .parenthesis (namedBound grammar allowConstant)
        let (found, constant) := enclosed.value
        pure (withEnclosure enclosed.opening enclosed.closing found, constant)
      else namedBound grammar allowConstant
    if constant then return .constant (← since start) else return found

def turbofish (grammar : Grammar) : Parser Code := do
  return (← angledArguments grammar).code .expression

/-- What can begin a further bound. -/
def startsBound (allowConstant : Bool) (tokens : List Token) : Bool :=
  Peek.anyWord tokens || Peek.mark "::" tokens || Peek.mark "?" tokens || Peek.lifetime tokens ||
    Peek.group .parenthesis tokens || (allowConstant && Peek.group .bracket tokens)

/-- One bound or more, joined by plus signs, of which the last may be followed by nothing. -/
def someBounds (grammar : Grammar) (allowPlus allowCapture allowConstant : Bool) :
    Parser (List (Separated Bound)) := do
  let entry := grammar.bound allowCapture allowConstant
  let first ← entry
  if allowPlus && (← peek (Peek.mark "+")) then
    let plus ← mark "+"
    let rest ← listWhile (fun tokens => !startsBound allowConstant tokens) "+" entry
    return ⟨first, some plus⟩ :: rest
  else return [⟨first, none⟩]

def boundsCode (bounds : List (Separated Bound)) : Code :=
  Separated.code "+" (bounds.map (Separated.map Bound.code))

end DataAccess.Parse
