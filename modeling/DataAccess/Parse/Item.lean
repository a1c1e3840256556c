/-
This file reads the items of a batch, of a module and of a block.
-/

import DataAccess.Declaration.MacroRules
import DataAccess.Parse.Trait

namespace DataAccess.Parse

open DataAccess.Parser

/-- The beginnings of an item behind a visibility, in the order in which messages list them. -/
def visibleItemChoices : List Expectation :=
  ["fn", "extern", "use", "static", "const", "unsafe", "mod", "type", "struct", "enum", "union",
    "trait", "auto", "impl", "default", "macro"].map Expectation.token

def itemChoices : List Expectation :=
  visibleItemChoices ++ itemChoicesEnd

/-- An item as it is read, before its outer attributes are put in front. -/
inductive ItemBody where
  | plain (kind : ItemKind) (before : Code)
  | braced (kind : ItemKind) (before : Code) (inner : List Attribute) (body : Body)
  | trait (declaration : TraitDeclaration)
  | verbatim

def function (grammar : Grammar) : Parser ItemBody := do
  let exposure ← visibility
  let signature ← signature grammar
  if ← peek (Peek.mark ";") then
    let _ ← mark ";"
    return .verbatim
  else
    let (inner, body) ← functionBody grammar
    return .braced .function (exposure ++ signature.code) inner body

/-- Another name under which a crate is known. -/
def crateRename : Parser Code := do
  let keyword ← keywordCode "as"
  let name ← if ← peek (Peek.word "_") then anyWordCode else identifierCode
  return keyword ++ name

def externCrate : Parser ItemBody := do
  let exposure ← visibility
  let keyword ← keywordCode "extern"
  let crate ← keywordCode "crate"
  let name ← if ← peek (Peek.word "self") then anyWordCode else identifierCode
  let rename ← if ← peek (Peek.word "as") then crateRename else pure []
  let semicolon ← markCode ";"
  return .plain .externCrate (exposure ++ keyword ++ crate ++ name ++ rename ++ semicolon)

def numberedField (grammar : Grammar) : Parser Code := do
  let attributes ← outerAttributeCode grammar
  let exposure ← visibility
  return attributes ++ exposure ++ (← grammar.type true).code

def numberedFields (grammar : Grammar) : Parser Code :=
  groupCode .parenthesis (terminatedCode (numberedField grammar))

/-- What begins the type of an unnamed field that is a struct or a union itself. -/
def startsNestedFields (tokens : List Token) : Bool :=
  Peek.word "struct" tokens ||
    (Peek.word "union" tokens && Peek.group .brace (tokens.drop 1))

/-- Fields between braces; the braces nest once for each group of tokens. -/
def namedFieldsFrom (grammar : Grammar) : Nat → Parser Code
  | 0 => failExpected []
  | fuel + 1 =>
      groupCode .brace <| terminatedCode do
        let attributes ← outerAttributeCode grammar
        let exposure ← visibility
        let unnamed ← peek (Peek.word "_")
        let name ← if unnamed then anyWordCode else identifierCode
        let colon ← markCode ":"
        let beginning ← tokens
        let declared ←
          if unnamed && startsNestedFields beginning then do
            let _ ← anyWord
            let _ ← namedFieldsFrom grammar fuel
            refusedSince .type beginning
          else DeclaredType.code <$> grammar.type true
        return attributes ++ exposure ++ name ++ colon ++ declared

def namedFields (grammar : Grammar) : Parser Code := do
  let remaining ← tokens
  namedFieldsFrom grammar (Token.count remaining + 1)

/-- The fields of a struct; conditions stand in front of braces and behind parentheses. -/
def structFields (grammar : Grammar) : Parser Code := do
  let early ← peek (Peek.word "where")
  let conditions ← whereCode? grammar
  if !early && (← peek (Peek.group .parenthesis)) then
    let fields ← numberedFields grammar
    let late ← peek (Peek.word "where")
    let conditions ← whereCode? grammar
    if ← peek (Peek.mark ";") then return fields ++ conditions ++ (← markCode ";")
    else failExpected ((if late then [] else [.token "where"]) ++ [.token ";"])
  else if ← peek (Peek.group .brace) then return conditions ++ (← namedFields grammar)
  else if ← peek (Peek.mark ";") then return conditions ++ (← markCode ";")
  else failExpected ((if early then [] else [.token "where", .enclosed .parenthesis]) ++
    [.enclosed .brace, .token ";"])

def structItem (grammar : Grammar) : Parser ItemBody := do
  let exposure ← visibility
  let keyword ← keywordCode "struct"
  let name ← identifierCode
  let parameters ← generics grammar
  return .plain .record
    (exposure ++ keyword ++ name ++ parameters.code ++ (← structFields grammar))

/-- The visibility of a variant is read but not printed. -/
def variant (grammar : Grammar) : Parser Code := do
  let attributes ← outerAttributeCode grammar
  let _ ← visibility
  let name ← identifierCode
  let fields ←
    if ← peek (Peek.group .brace) then namedFields grammar
    else if ← peek (Peek.group .parenthesis) then numberedFields grammar
    else pure []
  let discriminant ←
    if ← peek (Peek.mark "=") then do
      let equals ← markCode "="
      pure (equals ++ (← grammar.expression true).code)
    else pure []
  return attributes ++ name ++ fields ++ discriminant

def enumItem (grammar : Grammar) : Parser ItemBody := do
  let exposure ← visibility
  let keyword ← keywordCode "enum"
  let name ← identifierCode
  let parameters ← generics grammar
  let conditions ← whereCode? grammar
  let variants ← groupCode .brace (terminatedCode (variant grammar))
  return .plain .enumeration
    (exposure ++ keyword ++ name ++ parameters.code ++ conditions ++ variants)

def unionItem (grammar : Grammar) : Parser ItemBody := do
  let exposure ← visibility
  let keyword ← keywordCode "union"
  let name ← identifierCode
  let parameters ← generics grammar
  let conditions ← whereCode? grammar
  let fields ← namedFields grammar
  return .plain .unionType
    (exposure ++ keyword ++ name ++ parameters.code ++ conditions ++ fields)

/-- A type alias has a definition and no bounds; any other keeps its tokens unchanged. -/
def typeItem (grammar : Grammar) : Parser ItemBody := do
  let exposure ← visibility
  let found ← typeDefinition grammar .beforeDefinition
  if found.definition.isEmpty || !found.colon.isEmpty then return .verbatim
  else
    return .plain .typeAlias (exposure ++ found.head ++ found.conditions ++ found.definition ++
      found.semicolon)

/-- Another name under which something is used. -/
def useRename : Parser Code := do
  let keyword ← keywordCode "as"
  if ← peek fun tokens => Peek.identifier tokens || Peek.word "_" tokens then
    return keyword ++ (← anyWordCode)
  else failExpected [.phrase "identifier or underscore"]

/-- The branches of a use declaration, and whether one of them begins at the crates' root. -/
def useTreeFrom : Nat → Bool → Parser (Code × Bool)
  | 0, _ => failExpected []
  | fuel + 1, allowRoot => do
      if ← peek fun tokens => Peek.identifier tokens || Peek.pathWord tokens ||
          Peek.word "try" tokens then
        let name ← anyWordCode
        if ← peek (Peek.mark "::") then
          let colons ← markCode "::"
          let (rest, rooted) ← useTreeFrom fuel false
          return (name ++ colons ++ rest, rooted)
        else if ← peek (Peek.word "as") then return (name ++ (← useRename), false)
        else return (name, false)
      else if ← peek (Peek.mark "*") then return (← markCode "*", false)
      else if ← peek (Peek.group .brace) then
        let branch : Parser (Code × Bool) := do
          let root ← if allowRoot then markCode? "::" else pure []
          let (rest, rooted) ← useTreeFrom fuel (allowRoot && root.isEmpty)
          return (rest, rooted || !root.isEmpty)
        let enclosed ← group .brace (terminated branch)
        let branches := enclosed.value.map (Separated.map Prod.fst)
        let rooted := enclosed.value.any fun branch => branch.entry.2
        return ([.group .brace enclosed.opening enclosed.closing (Separated.code "," branches)],
          rooted)
      else failExpected [.identifier, .token "self", .token "super", .token "crate",
        .token "try", .token "*", .enclosed .brace]

def useItem : Parser ItemBody := do
  let exposure ← visibility
  let keyword ← keywordCode "use"
  let leading ← markCode? "::"
  let remaining ← tokens
  let (tree, rooted) ← useTreeFrom (Token.count remaining + 1) leading.isEmpty
  let semicolon ← markCode ";"
  if rooted then return .verbatim
  else return .plain .useDeclaration (exposure ++ keyword ++ leading ++ tree ++ semicolon)

/-- A static without a type or without a value keeps its tokens unchanged. -/
def staticItem (grammar : Grammar) : Parser ItemBody := do
  let exposure ← visibility
  let keyword ← keywordCode "static"
  let mutability ← keywordCode? "mut"
  let name ← identifierCode
  if ← peek (Peek.mark "=") then
    let _ ← markCode "="
    let _ ← grammar.expression true
    let _ ← markCode ";"
    return .verbatim
  else
    let colon ← markCode ":"
    let declared ← grammar.type true
    if ← peek (Peek.mark ";") then
      let _ ← markCode ";"
      return .verbatim
    else
      let equals ← markCode "="
      let value ← grammar.expression true
      let semicolon ← markCode ";"
      return .plain .staticValue (exposure ++ keyword ++ mutability ++ name ++ colon ++
        declared.code ++ equals ++ value.code ++ semicolon)

def constantItem (grammar : Grammar) : Parser ItemBody := do
  let exposure ← visibility
  let found ← constant grammar
  if found.isGeneral || !found.hasValue then return .verbatim
  else return .plain .constant (exposure ++ found.code)

/-- The code of an item inside another one, which keeps its tokens unchanged if it has no other. -/
def codeOr (construct : Construct) (beginning : List Token) (front : Code)
    (found : Option Code) : Parser Code := do
  match found with
  | some code => return front ++ code
  | none => refusedSince construct beginning

def implementedMethod (grammar : Grammar) (attributes : List Attribute) :
    Parser (Option Code) := do
  let exposure ← visibility
  let defaultness ← keywordCode? "default"
  let signature ← signature grammar
  if ← peek (Peek.mark ";") then
    let _ ← mark ";"
    return none
  else
    let (inner, body) ← functionBody grammar
    return some (Attribute.outerCode attributes ++ exposure ++ defaultness ++
      signature.code ++ body.code inner)

/-- An item of an implementation. -/
def implementedItem (grammar : Grammar) : Parser Code := do
  let beginning ← tokens
  let attributes ← outerAttributes grammar
  let front := Attribute.outerCode attributes
  let start ← get
  let exposure ← visibility
  let defaultness ←
    if ← peek fun tokens => Peek.word "default" tokens && !Peek.mark "!" (tokens.drop 1) then
      keywordCode "default"
    else pure []
  let plain := exposure.isEmpty && defaultness.isEmpty
  let kept (isKnown : Bool) (code : Code) : Option Code := if isKnown then some code else none
  if (← peek (Peek.word "fn")) || (← startsSignature false) then
    set start
    codeOr .implementationItem beginning [] (← implementedMethod grammar attributes)
  else if ← peek (Peek.word "const") then
    let found ← constant grammar
    codeOr .implementationItem beginning (front ++ exposure ++ defaultness)
      (kept (!found.isGeneral && found.hasValue) found.code)
  else if ← peek (Peek.word "type") then
    let found ← typeDefinition grammar .behindDefinition
    codeOr .implementationItem beginning (front ++ exposure ++ defaultness)
      (kept (!found.definition.isEmpty && found.colon.isEmpty)
        (found.head ++ found.definition ++ found.conditions ++ found.semicolon))
  else if plain && (← peek startsInvocationItem) then return front ++ (← itemInvocation)
  else failExpected ((if defaultness.isEmpty then [.token "default"] else []) ++
    [.token "fn", .token "const", .token "type"] ++ (if plain then itemChoicesEnd else []))

def isPath : DeclaredType → Bool
  | .path _ _ _ => true
  | _ => false

/-- An implementation. One with a visibility, or of a constant or unnamed trait, keeps its tokens
unchanged. -/
def implementation (grammar : Grammar) : Parser ItemBody := do
  let exposure ← visibility
  let defaultness ← keywordCode? "default"
  let unsafety ← keywordCode? "unsafe"
  let keyword ← keywordCode "impl"
  let parameters ← if ← peek opensGenerics then generics grammar else pure .none
  let isConstant ← peek fun tokens => Peek.word "const" tokens ||
    (Peek.mark "?" tokens && Peek.word "const" (tokens.drop 1))
  if isConstant then
    let _ ← mark? "?"
    let _ ← Parser.keyword "const"
  let polarity ←
    if ← peek fun tokens => Peek.mark "!" tokens && !Peek.group .brace (tokens.drop 1) then
      some <$> mark "!"
    else pure none
  let first ← grammar.type true
  let isForType ← peek (Peek.word "for")
  let subject ←
    if isForType then do
      let within ← keywordCode "for"
      let negation : Code :=
        match polarity with
        | some position => Code.mark "!" position
        | none => []
      pure (negation ++ first.code ++ within ++ (← grammar.type true).code)
    else
      match polarity with
      | some position => failAt .negativeImplementation position
      | none => pure first.code
  let conditions ← whereCode? grammar
  let enclosed ← group .brace do
    let inner ← innerAttributes grammar
    let items ← untilEmpty (implementedItem grammar)
    return (inner, items.flatten)
  if !exposure.isEmpty || isConstant || (isForType && !isPath first) then return .verbatim
  else
    let before := defaultness ++ unsafety ++ keyword ++ parameters.code ++ subject ++ conditions
    return .braced .implementation before enclosed.value.1
      ⟨enclosed.opening, enclosed.closing, enclosed.value.2⟩

/-- A function of an extern block. One with a body or marked safe keeps its tokens unchanged. -/
def foreignFunction (grammar : Grammar) : Parser (Option Code) := do
  let exposure ← visibility
  let (signature, safe) ← signatureOf grammar true
  if ← peek (Peek.group .brace) then
    let _ ← block grammar
    return none
  else
    let semicolon ← markCode ";"
    return if safe then none else some (exposure ++ signature.code ++ semicolon)

def foreignStatic (grammar : Grammar) : Parser (Option Code) := do
  let exposure ← visibility
  let unsafety ← keyword? "unsafe"
  let safe ← if unsafety.isNone then keyword? "safe" else pure none
  let keyword ← keywordCode "static"
  let mutability ← keywordCode? "mut"
  let name ← identifierCode
  let colon ← markCode ":"
  let declared ← grammar.type true
  let hasValue ← peek (Peek.mark "=")
  if hasValue then
    let _ ← mark "="
    let _ ← grammar.expression true
  let semicolon ← markCode ";"
  if hasValue || unsafety.isSome || safe.isSome then return none
  else return some (exposure ++ keyword ++ mutability ++ name ++ colon ++ declared.code ++
    semicolon)

/-- A type of an extern block; the formatter leaves out its conditions. -/
def foreignType (grammar : Grammar) : Parser (Option Code) := do
  let exposure ← visibility
  let found ← typeDefinition grammar .either
  if !found.definition.isEmpty || !found.colon.isEmpty then return none
  else
    return some (exposure ++ found.head ++ found.conditions.leaveOut ++ found.semicolon)

/-- An item of an extern block. -/
def foreignItem (grammar : Grammar) : Parser Code := do
  let beginning ← tokens
  let front ← outerAttributeCode grammar
  let start ← get
  let exposure ← visibility
  let next ← tokens
  let signed ← startsSignature true
  set start
  if Peek.word "fn" next || signed then
    codeOr .foreignItem beginning front (← foreignFunction grammar)
  else if Peek.word "static" next ||
      (Peek.anyOf ["unsafe", "safe"] next && Peek.word "static" (next.drop 1)) then
    codeOr .foreignItem beginning front (← foreignStatic grammar)
  else if Peek.word "type" next then
    codeOr .foreignItem beginning front (← foreignType grammar)
  else if exposure.isEmpty && startsInvocationItem next then return front ++ (← itemInvocation)
  else
    let _ ← visibility
    failExpected ([.token "fn", .token "static", .token "type"] ++
      (if exposure.isEmpty then itemChoicesEnd else []))

def foreignBlock (grammar : Grammar) : Parser ItemBody := do
  let unsafety ← keywordCode? "unsafe"
  let _ ← ahead (keyword "extern")
  let abi ← abiCode
  let enclosed ← group .brace do
    let inner ← innerAttributes grammar
    let items ← untilEmpty (foreignItem grammar)
    return (inner, items.flatten)
  return .braced .foreignBlock (unsafety ++ abi) enclosed.value.1
    ⟨enclosed.opening, enclosed.closing, enclosed.value.2⟩

def moduleItem (grammar : Grammar) : Parser ItemBody := do
  let exposure ← visibility
  let unsafety ← keywordCode? "unsafe"
  let keyword ← keywordCode "mod"
  let name ← if ← peek (Peek.word "try") then anyWordCode else identifierCode
  let before := exposure ++ unsafety ++ keyword ++ name
  if ← peek (Peek.mark ";") then return .plain .moduleBlock (before ++ (← markCode ";"))
  else if ← peek (Peek.group .brace) then
    let enclosed ← group .brace do
      let inner ← innerAttributes grammar
      let items ← untilEmpty grammar.item
      return (inner, items.flatMap Item.code)
    return .braced .moduleBlock before enclosed.value.1
      ⟨enclosed.opening, enclosed.closing, enclosed.value.2⟩
  else failExpected [.token ";", .enclosed .brace]

/-- A macro among the items of a batch. Rules that define a macro are formatted one by one. -/
def invocationItem : Parser ItemBody := do
  let found ← namePath
  let bang ← markCode "!"
  let name? ←
    if ← peek fun tokens => Peek.identifier tokens || Peek.word "try" tokens then
      some <$> anyWord
    else pure none
  let (delimiter, body) ← anyGroup
  let semicolon ← if delimiter = .brace then pure [] else markCode ";"
  match name?, body with
  | some name, .group _ _ _ inner =>
      let front := found.code ++ bang ++ Code.word name
      if found.isName "macro_rules" then
        return .plain .invocation (front ++ MacroRules.code inner (body :: Code.tokens semicolon))
      else return .plain .invocation (front ++ [.token body] ++ semicolon)
  | _, _ => return .plain .invocation (found.code ++ bang ++ [.token body] ++ semicolon)

/-- A trait, or an alias of bounds under a trait's name. -/
def traitOrAlias (grammar : Grammar) : Parser ItemBody := do
  let exposure ← visibility
  let keyword ← keyword "trait"
  let name ← identifier
  let parameters ← generics grammar
  if ← peek fun tokens => Peek.group .brace tokens || Peek.mark ":" tokens ||
      Peek.word "where" tokens then
    return .trait (← traitRest grammar [] exposure none none keyword name parameters)
  else if ← peek (Peek.mark "=") then
    let equals ← markCode "="
    let stops (tokens : List Token) : Bool := Peek.word "where" tokens || Peek.mark ";" tokens
    let bounds ← listUntil stops "+" (grammar.bound false true)
    let conditions ← whereCode? grammar
    let semicolon ← markCode ";"
    return .plain .traitAlias (exposure ++ Code.keyword "trait" keyword ++ Code.word name ++
      parameters.code ++ equals ++ boundsCode bounds ++ conditions ++ semicolon)
  else failExpected [.enclosed .brace, .token ":", .token "where", .token "="]

/-- A declarative macro keeps its tokens unchanged. -/
def macroDefinition : Parser ItemBody := do
  let _ ← visibility
  let _ ← keyword "macro"
  let _ ← identifier
  let hasInputs ← peek (Peek.group .parenthesis)
  if hasInputs then
    let _ ← group .parenthesis remaining
  if ← peek (Peek.group .brace) then
    let _ ← group .brace remaining
    return .verbatim
  else failExpected ((if hasInputs then [] else [.enclosed .parenthesis]) ++ [.enclosed .brace])

/-- The kind of an item that begins with `extern` shows in what follows. -/
def externItem (grammar : Grammar) (start : Stream) : Parser ItemBody := do
  let next ← tokens
  let second := next.drop 1
  if Peek.word "crate" second then
    set start
    externCrate
  else if Peek.group .brace second then
    set start
    foreignBlock grammar
  else if Peek.stringLiteral second then
    if Peek.group .brace (next.drop 2) then do
      set start
      foreignBlock grammar
    else do
      take (next.drop 2)
      failExpected [.enclosed .brace]
  else do
    take second
    failExpected [.token "crate", .enclosed .brace, .stringLiteral]

/-- The kind of an item that begins with `unsafe` shows in what follows. -/
def unsafeItem (grammar : Grammar) (start : Stream) : Parser ItemBody := do
  let next ← tokens
  let second := next.drop 1
  if Peek.word "trait" second ||
      (Peek.word "auto" second && Peek.word "trait" (next.drop 2)) then
    set start
    return .trait (← traitDeclaration grammar)
  else if Peek.word "impl" second then
    set start
    implementation grammar
  else if Peek.word "extern" second then
    set start
    foreignBlock grammar
  else if Peek.word "mod" second then
    set start
    moduleItem grammar
  else do
    take second
    failExpected [.token "trait", .token "auto", .token "impl", .token "extern", .token "mod"]

/-- The kind of an item shows in what follows its visibility, which it reads again. -/
def itemBody (grammar : Grammar) : Parser ItemBody := do
  let start ← get
  let exposure ← visibility
  let next ← tokens
  let signed ← startsSignature false
  let restart (parser : Parser ItemBody) : Parser ItemBody := do
    set start
    parser
  if Peek.word "fn" next || signed then restart (function grammar)
  else if Peek.word "extern" next then externItem grammar start
  else if Peek.word "use" next then restart useItem
  else if Peek.word "static" next then restart (staticItem grammar)
  else if Peek.word "const" next then restart (constantItem grammar)
  else if Peek.word "unsafe" next then unsafeItem grammar start
  else if Peek.word "mod" next then restart (moduleItem grammar)
  else if Peek.word "type" next then restart (typeItem grammar)
  else if Peek.word "struct" next then restart (structItem grammar)
  else if Peek.word "enum" next then restart (enumItem grammar)
  else if Peek.word "union" next && Peek.identifier (next.drop 1) then
    restart (unionItem grammar)
  else if Peek.word "trait" next then restart (traitOrAlias grammar)
  else if Peek.word "auto" next && Peek.word "trait" (next.drop 1) then
    restart do return .trait (← traitDeclaration grammar)
  else if Peek.word "impl" next ||
      (Peek.word "default" next && !Peek.mark "!" (next.drop 1)) then
    restart (implementation grammar)
  else if Peek.word "macro" next then restart macroDefinition
  else if exposure.isEmpty then
    if startsInvocationItem next then invocationItem else failExpected itemChoices
  else failExpected visibleItemChoices

/-- An item with its attributes, outer ones first. -/
def item (grammar : Grammar) : Parser Item := do
  let beginning ← tokens
  let attributes ← outerAttributes grammar
  match ← itemBody grammar with
  | .plain kind before => return .plain ⟨kind, attributes, before, none⟩
  | .braced kind before inner body =>
      return .plain ⟨kind, attributes ++ inner, before, some body⟩
  | .trait declaration =>
      return .trait { declaration with attributes := attributes ++ declaration.attributes }
  | .verbatim => return .verbatim (← since beginning)

end DataAccess.Parse
