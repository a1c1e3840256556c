/-
This file reads expressions. An expression is kept as its code, with what decides where it ends.
-/

import DataAccess.Parse.Generics
import DataAccess.Parse.Pattern

namespace DataAccess.Parse

open DataAccess.Parser

/-! How strongly operators bind. -/
namespace Strength

def least : Nat := 0
def assignment : Nat := 1
def range : Nat := 2
def comparison : Nat := 6
def cast : Nat := 13

/-- The binary operators with their strengths. A longer operator stands before its beginning. -/
def operators : List (String × Nat) :=
  [("<<=", 1), (">>=", 1), ("+=", 1), ("-=", 1), ("*=", 1), ("/=", 1), ("%=", 1), ("^=", 1),
    ("&=", 1), ("|=", 1), ("&&", 4), ("||", 3), ("<<", 10), (">>", 10), ("==", 6), ("<=", 6),
    ("!=", 6), (">=", 6), ("+", 11), ("-", 11), ("*", 12), ("/", 12), ("%", 12), ("^", 8),
    ("&", 9), ("|", 7), ("<", 6), (">", 6)]

def operator? (tokens : List Token) : Option (String × Nat) :=
  operators.find? fun operator => Peek.mark operator.1 tokens

/-- The strength of the operator that comes next. -/
def next (tokens : List Token) : Nat :=
  match operator? tokens with
  | some (_, strength) => strength
  | none =>
      if startsAssignment tokens then assignment
      else if Peek.mark ".." tokens then range
      else if Peek.word "as" tokens then cast
      else least

end Strength

def expressionCode (grammar : Grammar) : Parser Code := do
  return (← grammar.expression true).code

def callArguments (grammar : Grammar) : Parser Code :=
  groupCode .parenthesis (terminatedCode (expressionCode grammar))

def startsField (tokens : List Token) : Bool :=
  Peek.mark "." tokens && !Peek.mark ".." tokens

/-- A number with a point or an exponent, and whether it is behind a minus sign. -/
def float? : List Token → Option (Bool × String × List Token)
  | .literal spelling _ :: rest =>
      if Peek.isNumber spelling && FieldNumber.isFloat spelling then some (false, spelling, rest)
      else none
  | .mark '-' _ _ :: .literal spelling _ :: rest =>
      if Peek.isNumber spelling && FieldNumber.isFloat spelling then some (true, spelling, rest)
      else none
  | _ => none

/-- What follows the point of a field: a name, a call or a number. -/
def memberCode (grammar : Grammar) : Parser Code := do
  if ← peek (Peek.word "await") then anyWordCode
  else
    let (member, named) ← member
    if named && (← peek (Peek.mark "::")) then
      let arguments ← turbofish grammar
      return member ++ arguments ++ (← callArguments grammar)
    else if named && (← peek (Peek.group .parenthesis)) then
      return member ++ (← callArguments grammar)
    else return member

/-- A number with points chooses several fields; behind its last point another member can follow. -/
def fieldCode (grammar : Grammar) : Parser Code := do
  let point ← mark "."
  let start ← position
  match float? (← tokens) with
  | none => return Code.mark "." point ++ (← memberCode grammar)
  | some (negative, spelling, rest) =>
      let isOpen := spelling.endsWith "."
      let parts := (spelling.splitOn ".").filter fun part => !isOpen || part != ""
      match FieldNumber.ofParts negative parts with
      | .error problem => failAt (.fieldNumber problem) start
      | .ok numbers =>
          take rest
          let points := point :: numbers.map fun _ => start
          let fields := (points.zip numbers).flatMap fun (point, number) =>
            Code.mark "." point ++ Code.ofTokens [.literal (toString number) start]
          if isOpen then return fields ++ Code.mark "." start ++ (← memberCode grammar)
          else return fields

/-- Calls, fields, indices and question marks behind an expression. -/
def trailersFrom (grammar : Grammar) : Nat → Expression → Parser Expression
  | 0, found => return found
  | fuel + 1, found => do
      let next ← tokens
      if Peek.group .parenthesis next then
        let arguments ← callArguments grammar
        trailersFrom grammar fuel (.ordinary (found.code ++ arguments))
      else if startsField next && found.form != .range then
        let field ← fieldCode grammar
        trailersFrom grammar fuel (.ordinary (found.code ++ field))
      else if Peek.group .bracket next then
        let index ← groupCode .bracket (expressionCode grammar)
        trailersFrom grammar fuel (.ordinary (found.code ++ index))
      else if Peek.mark "?" next && found.form != .range then
        let question ← markCode "?"
        trailersFrom grammar fuel (.ordinary (found.code ++ question))
      else return found

def trailers (grammar : Grammar) (found : Expression) : Parser Expression := do
  let remaining ← tokens
  trailersFrom grammar (remaining.length + 1) found

/-- The operand behind an operator, with the operators that bind more strongly. -/
def rightSideFrom (grammar : Grammar) (allowStruct : Bool) (strength : Nat) :
    Nat → Expression → Parser Expression
  | 0, found => return found
  | fuel + 1, found => do
      let before ← tokens
      let next := Strength.next before
      if strength < next || (next == strength && strength == Strength.assignment) then
        let longer ← grammar.operators allowStruct found next
        let after ← tokens
        if after.length == before.length then return longer
        else rightSideFrom grammar allowStruct strength fuel longer
      else return found

def rightSide (grammar : Grammar) (allowStruct : Bool) (strength : Nat) : Parser Expression := do
  let operand ← grammar.operand allowStruct
  let remaining ← tokens
  rightSideFrom grammar allowStruct strength (remaining.length + 1) operand

/-- What shows that a half-open range has no upper limit. -/
def endsOpenRange (allowStruct : Bool) (tokens : List Token) : Bool :=
  tokens.isEmpty || Peek.mark "," tokens || Peek.mark ";" tokens || startsField tokens ||
    Peek.mark "?" tokens || Peek.mark "=>" tokens ||
    (!allowStruct && Peek.group .brace tokens) || Peek.mark "=" tokens || Peek.mark "+" tokens ||
    Peek.mark "/" tokens || Peek.mark "%" tokens || Peek.mark "^" tokens ||
    Peek.mark ">" tokens || Peek.mark "<=" tokens || Peek.mark "!=" tokens ||
    Peek.mark "-=" tokens || Peek.mark "*=" tokens || Peek.mark "&=" tokens ||
    Peek.mark "|=" tokens || Peek.mark "<<=" tokens || Peek.word "as" tokens

def rangeEnd (grammar : Grammar) (allowStruct : Bool) (front : Code) : Parser Expression := do
  let dots ← rangeDots false
  if !dots.closed && (← peek (endsOpenRange allowStruct)) then
    return .ofCode (front ++ dots.code) .range
  else
    let upper ← rightSide grammar allowStruct Strength.range
    return .ofCode (front ++ dots.code ++ upper.code) .range

/-- A cast is not followed by what would belong to its type. -/
def checkCast : Parser Unit := do
  let next ← tokens
  let second := next.drop 1
  let third := next.drop 2
  let follower : Option String :=
    if startsField next then
      if Peek.word "await" second then some "`.await`"
      else if Peek.identifier second && (Peek.group .parenthesis third || Peek.mark "::" third)
        then some "a method call"
      else some "a field access"
    else if Peek.mark "?" next then some "`?`"
    else if Peek.group .bracket next then some "indexing"
    else if Peek.group .parenthesis next then some "a function call"
    else none
  match follower with
  | some what => failAt (.castFollowedBy what) (← position)
  | none => return ()

/-- What an operator makes of its operands. -/
def operatorForm (binding : Nat) : ExpressionForm :=
  if binding == Strength.comparison then .comparison
  else if binding == Strength.assignment then .effect
  else .ordinary

/-- Goes on behind an expression with the operators that bind at least as strongly as given. -/
def operatorsFrom (grammar : Grammar) (allowStruct : Bool) (strength : Nat) :
    Nat → Expression → Parser Expression
  | 0, found => return found
  | fuel + 1, found => do
      let next ← tokens
      if found.form == .range then return found
      else
        match Strength.operator? next with
        | some (spelling, binding) =>
            if binding < strength then return found
            else if binding == Strength.comparison && found.form == .comparison then
              failAt .chainedComparison (← position)
            else
              let operator ← markCode spelling
              let right ← rightSide grammar allowStruct binding
              operatorsFrom grammar allowStruct strength fuel
                (.ofCode (found.code ++ operator ++ right.code) (operatorForm binding))
        | none =>
            if strength ≤ Strength.assignment && startsAssignment next then
              let equals ← markCode "="
              let right ← rightSide grammar allowStruct Strength.assignment
              operatorsFrom grammar allowStruct strength fuel
                (.ofCode (found.code ++ equals ++ right.code) .effect)
            else if strength ≤ Strength.range && Peek.mark ".." next then
              let longer ← rangeEnd grammar allowStruct found.code
              operatorsFrom grammar allowStruct strength fuel longer
            else if strength ≤ Strength.cast && Peek.word "as" next then
              let keyword ← keywordCode "as"
              let target ← grammar.type false
              checkCast
              operatorsFrom grammar allowStruct strength fuel
                (.ordinary (found.code ++ keyword ++ target.code))
            else return found

def operators (grammar : Grammar) (allowStruct : Bool) (found : Expression) (strength : Nat) :
    Parser Expression := do
  let remaining ← tokens
  operatorsFrom grammar allowStruct strength (remaining.length + 1) found

/-- What can begin an expression. -/
def startsExpression (tokens : List Token) : Bool :=
  (Peek.anyWord tokens && !Peek.word "as" tokens) || Peek.group .parenthesis tokens ||
    Peek.group .bracket tokens || Peek.group .brace tokens || Peek.literal tokens ||
    (Peek.mark "!" tokens && !Peek.mark "!=" tokens) ||
    (Peek.mark "-" tokens && !Peek.mark "-=" tokens && !Peek.mark "->" tokens) ||
    (Peek.mark "*" tokens && !Peek.mark "*=" tokens) ||
    (Peek.mark "|" tokens && !Peek.mark "|=" tokens) ||
    (Peek.mark "&" tokens && !Peek.mark "&=" tokens) || Peek.mark ".." tokens ||
    startsAngle tokens || Peek.mark "::" tokens || Peek.lifetime tokens || Peek.mark "#" tokens

/-- A field of a struct literal is a name or a member with a value. -/
def fieldValue (grammar : Grammar) : Parser Code := do
  let attributes ← outerAttributeCode grammar
  let (member, named) ← member
  if !named || (← peek (Peek.mark ":")) then
    let colon ← markCode ":"
    return attributes ++ member ++ colon ++ (← expressionCode grammar)
  else return attributes ++ member

/-- The fields of a struct literal, the latest first. Two dots end them, perhaps with a value that
has the remaining fields; the formatter leaves out dots without one. -/
def fieldValuesFrom (grammar : Grammar) :
    Nat → List (Separated Code) → Parser (List (Separated Code))
  | 0, found => return found.reverse
  | fuel + 1, found => do
      if ← isEmpty then return found.reverse
      if ← peek (Peek.mark "..") then
        let dots ← markCode ".."
        let remainder ← if ← isEmpty then pure dots.leaveOut else do
          pure (dots ++ (← expressionCode grammar))
        return (⟨remainder, none⟩ :: found).reverse
      let field ← fieldValue grammar
      if ← isEmpty then return (⟨field, none⟩ :: found).reverse
      let comma ← mark ","
      fieldValuesFrom grammar fuel (⟨field, some comma⟩ :: found)

def fieldValues (grammar : Grammar) : Parser Code :=
  groupCode .brace do
    let remaining ← tokens
    return Separated.code "," (← fieldValuesFrom grammar (remaining.length + 1) [])

/-- A path stands for itself, or begins a macro or a struct literal. -/
def pathExpression (grammar : Grammar) (allowStruct : Bool) : Parser Expression := do
  let (found, namesOnly) ←
    if ← peek (Peek.mark "<") then do
      let qualified ← qualifiedPath grammar .expression
      pure (qualified, false)
    else do
      let found ← path grammar .expression
      pure (found.code .expression, found.namesOnly)
  if namesOnly && (← peek startsInvocation) then
    let (delimiter, body) ← invocation
    return .ofCode (found ++ body) (.invocation (delimiter == .brace))
  else if allowStruct && (← peek (Peek.group .brace)) then
    return .ordinary (found ++ (← fieldValues grammar))
  else return .ordinary found

/-- Nothing in parentheses is an empty arm to the formatter. -/
def parenthesizedExpression (grammar : Grammar) : Parser Expression := do
  let code ← groupCode .parenthesis (terminatedCode (expressionCode grammar))
  match code with
  | [.group _ _ _ []] => return ⟨code, code.leaveOut, code, .ordinary⟩
  | _ => return .ordinary code

def listOrRepeat (grammar : Grammar) : Parser Code := do
  if ← isEmpty then return []
  let first ← expressionCode grammar
  if ← isEmpty then return first
  else if ← peek (Peek.mark ",") then
    let comma ← mark ","
    let rest ← terminated (expressionCode grammar)
    return Separated.code "," (⟨first, some comma⟩ :: rest)
  else if ← peek (Peek.mark ";") then
    let semicolon ← markCode ";"
    return first ++ semicolon ++ (← expressionCode grammar)
  else failExpected [.phrase "`,` or `;`"]

def closureInput (grammar : Grammar) : Parser Code := do
  let attributes ← outerAttributeCode grammar
  let found ← grammar.pattern
  if ← peek (Peek.mark ":") then
    let colon ← markCode ":"
    return attributes ++ found.code ++ colon ++ (← grammar.type true).code
  else return attributes ++ found.code

def closure (grammar : Grammar) (allowStruct : Bool) : Parser Expression := do
  let binder ← binder? grammar
  let constness ← keywordCode? "const"
  let movability ← keywordCode? "static"
  let asyncness ← keywordCode? "async"
  let capture ← keywordCode? "move"
  let opening ← markCode "|"
  let inputs ← listUntil (Peek.mark "|") "," (closureInput grammar)
  let closing ← markCode "|"
  let front := binder ++ constness ++ movability ++ asyncness ++ capture ++ opening ++
    Separated.code "," inputs ++ closing
  if ← peek (Peek.mark "->") then
    let arrow ← markCode "->"
    let output ← grammar.type true
    return .ordinary (front ++ arrow ++ output.code ++ (← plainBlock grammar).inline)
  else
    let body ← grammar.expression allowStruct
    return .ordinary (front ++ Expression.inPlaceOfBlock body.code body.form)

def condition (grammar : Grammar) : Parser Code := do
  return (← grammar.expression false).code

/-- Conditions with their blocks, of which only the last can be without an `else`. The formatter
lays out the block of a single condition like a body. -/
def conditionalFrom (grammar : Grammar) : Nat → Code → Parser Expression
  | 0, front => return .ordinary front
  | fuel + 1, front => do
      let keyword ← keywordCode "if"
      let test ← condition grammar
      let positive ← plainBlock grammar
      let found := front ++ keyword ++ test
      if ← peek (Peek.word "else") then
        let otherwise ← keywordCode "else"
        let found := found ++ positive.inline ++ otherwise
        if ← peek (Peek.word "if") then conditionalFrom grammar fuel found
        else if ← peek (Peek.group .brace) then
          return .ofCode (found ++ (← plainBlock grammar).inline) (.conditional true)
        else failExpected [.token "if", .enclosed .brace]
      else
        let block := if front.isEmpty then positive.body else positive.inline
        return .ofCode (found ++ block) (.conditional false)

def conditional (grammar : Grammar) : Parser Expression := do
  let remaining ← tokens
  conditionalFrom grammar (remaining.length + 1) []

def whileLoop (grammar : Grammar) : Parser Expression := do
  let keyword ← keywordCode "while"
  let test ← condition grammar
  return .ofCode (keyword ++ test ++ (← block grammar).body) .repetition

def forLoop (grammar : Grammar) : Parser Expression := do
  let keyword ← keywordCode "for"
  let found ← patternAlternatives grammar
  let within ← keywordCode "in"
  let source ← condition grammar
  return .ofCode (keyword ++ found.code ++ within ++ source ++ (← block grammar).body) .repetition

def endlessLoop (grammar : Grammar) : Parser Expression := do
  let keyword ← keywordCode "loop"
  return .ofCode (keyword ++ (← block grammar).body) .blockLike

/-- A block behind a keyword that says how it is run. -/
def keywordBlock (grammar : Grammar) (keyword : String) : Parser Expression := do
  let front ← keywordCode keyword
  return .ofCode (front ++ (← block grammar).inline) .blockLike

def tryBlock (grammar : Grammar) : Parser Expression := do
  let front ← keywordCode "try"
  return .ofCode (front ++ (← plainBlock grammar).inline) .blockLike

/-- An arm needs a comma unless its body is like a block or nothing follows. The formatter writes
each arm on lines of its own. -/
def matchArm (grammar : Grammar) : Parser Code := do
  let attributes ← outerAttributeCode grammar
  let found ← patternAlternatives grammar
  let guard ←
    if ← peek (Peek.word "if") then do
      let keyword ← keywordCode "if"
      pure (keyword ++ (← expressionCode grammar))
    else pure []
  let arrow ← markCode "=>"
  let body ← grammar.boundaryExpression
  let comma ←
    if body.form.needsComma && !(← isEmpty) then markCode "," else markCode? ","
  return attributes ++ found.code ++ guard ++ arrow ++ body.arm ++ comma ++ [.lineBreak]

def matchExpression (grammar : Grammar) : Parser Expression := do
  let keyword ← keywordCode "match"
  let subject ← condition grammar
  let arms ← groupCode .brace do
    let attributes ← innerAttributeCode grammar
    let arms ← untilEmpty (matchArm grammar)
    return attributes ++ arms.flatten
  return .ofCode (keyword ++ subject ++ arms) .blockLike

def letExpression (grammar : Grammar) (allowStruct : Bool) : Parser Expression := do
  let keyword ← keywordCode "let"
  let found ← patternAlternatives grammar
  let equals ← markCode "="
  let operand ← grammar.operand allowStruct
  let value ← grammar.operators allowStruct operand Strength.comparison
  return .behind (keyword ++ found.code ++ equals) value

/-- A labelled loop cannot be the value of a break unless it is in parentheses. -/
def breakExpression (grammar : Grammar) (allowStruct : Bool) : Parser Expression := do
  let keyword ← keywordCode "break"
  if ← peek fun tokens => Peek.lifetime tokens && Peek.mark ":" (tokens.drop 1) then
    let start ← position
    let _ ← grammar.expression true
    failAt .parenthesesRequired start
  let label ← if ← peek Peek.lifetime then lifetimeCode else pure []
  if ← peek fun tokens => startsExpression tokens &&
      (allowStruct || !Peek.group .brace tokens) then
    return .ofCode (keyword ++ label ++ (← expressionCode grammar)) .effect
  else return .ofCode (keyword ++ label) .effect

def continueExpression : Parser Expression := do
  let keyword ← keywordCode "continue"
  let label ← if ← peek Peek.lifetime then lifetimeCode else pure []
  return .ofCode (keyword ++ label) .effect

/-- A value can be handed over; it can be a struct literal anywhere. -/
def handover (grammar : Grammar) (spelling : String) : Parser Expression := do
  let keyword ← keywordCode spelling
  if ← peek startsExpression then
    return .ofCode (keyword ++ (← expressionCode grammar)) .effect
  else return .ofCode keyword .effect

/-- A call in place of the present one keeps its tokens unchanged. -/
def tailCall (grammar : Grammar) : Parser Expression := do
  let beginning ← tokens
  let _ ← keyword "become"
  let _ ← grammar.expression true
  return .ofCode (← refusedSince .expression beginning) .verbatim

def startsIntrinsic (tokens : List Token) : Bool :=
  Peek.word "builtin" tokens && Peek.mark "#" (tokens.drop 1)

/-- A call of the compiler itself keeps its tokens unchanged. -/
def intrinsic : Parser Expression := do
  let beginning ← tokens
  let _ ← keyword "builtin"
  let _ ← mark "#"
  let _ ← identifier
  let _ ← group .parenthesis remaining
  return .ofCode (← refusedSince .expression beginning) .verbatim

/-- A label stands in front of a loop or a block. -/
def labelled (grammar : Grammar) : Parser Expression := do
  let name ← lifetimeCode
  let colon ← markCode ":"
  let label := name ++ colon
  let front (loop : Expression) : Expression := .ofCode (label ++ loop.code) loop.form
  if ← peek (Peek.word "while") then return front (← whileLoop grammar)
  else if ← peek (Peek.word "for") then return front (← forLoop grammar)
  else if ← peek (Peek.word "loop") then return front (← endlessLoop grammar)
  else if ← peek (Peek.group .brace) then return (← block grammar).expression label
  else failExpected [.phrase "loop or block expression"]

def startsClosure (tokens : List Token) : Bool :=
  let second := tokens.drop 1
  Peek.mark "|" tokens || Peek.word "move" tokens ||
    (Peek.word "for" tokens && opensGenerics second) ||
    (Peek.word "const" tokens && !Peek.group .brace second) || Peek.word "static" tokens ||
    (Peek.word "async" tokens && (Peek.mark "|" second || Peek.word "move" second))

def startsAsyncBlock (tokens : List Token) : Bool :=
  let second := tokens.drop 1
  Peek.word "async" tokens && (Peek.group .brace second ||
    (Peek.word "move" second && Peek.group .brace (tokens.drop 2)))

def asyncBlock (grammar : Grammar) : Parser Expression := do
  let keyword ← keywordCode "async"
  let capture ← keywordCode? "move"
  return .ordinary (keyword ++ capture ++ (← plainBlock grammar).inline)

def startsPath (tokens : List Token) : Bool :=
  Peek.identifier tokens || Peek.mark "::" tokens || Peek.mark "<" tokens ||
    Peek.anyOf ["self", "Self", "super", "crate"] tokens ||
    (Peek.word "try" tokens && (Peek.mark "!" (tokens.drop 1) || Peek.mark "::" (tokens.drop 1)))

/-- The expressions that end a statement with their closing brace. -/
def boundaryAtom? (grammar : Grammar) : Parser (Option Expression) := do
  let next ← tokens
  let second := next.drop 1
  if Peek.word "if" next then some <$> conditional grammar
  else if Peek.word "while" next then some <$> whileLoop grammar
  else if Peek.word "for" next && !opensGenerics second then some <$> forLoop grammar
  else if Peek.word "loop" next then some <$> endlessLoop grammar
  else if Peek.word "match" next then some <$> matchExpression grammar
  else if Peek.word "try" next && Peek.group .brace second then some <$> tryBlock grammar
  else if Peek.word "unsafe" next then some <$> keywordBlock grammar "unsafe"
  else if Peek.word "const" next && Peek.group .brace second then
    some <$> keywordBlock grammar "const"
  else if Peek.group .brace next then return some ((← block grammar).expression [])
  else if Peek.lifetime next then some <$> labelled grammar
  else return none

/-- An expression without operators. -/
def atom (grammar : Grammar) (allowStruct : Bool) : Parser Expression := do
  let next ← tokens
  if Peek.literal next then return .ordinary (← literalCode)
  else if startsAsyncBlock next then asyncBlock grammar
  else if Peek.word "try" next && Peek.group .brace (next.drop 1) then tryBlock grammar
  else if startsClosure next then closure grammar allowStruct
  else if startsIntrinsic next then intrinsic
  else if startsPath next then pathExpression grammar allowStruct
  else if Peek.group .parenthesis next then parenthesizedExpression grammar
  else if Peek.word "break" next then breakExpression grammar allowStruct
  else if Peek.word "continue" next then continueExpression
  else if Peek.word "return" next then handover grammar "return"
  else if Peek.word "become" next then tailCall grammar
  else if Peek.group .bracket next then
    return .ordinary (← groupCode .bracket (listOrRepeat grammar))
  else if Peek.word "let" next then letExpression grammar allowStruct
  else if Peek.word "yield" next then handover grammar "yield"
  else if Peek.mark ".." next then rangeEnd grammar allowStruct []
  else if Peek.word "_" next then return .ordinary (← anyWordCode)
  else
    match ← boundaryAtom? grammar with
    | some found => return found
    | none => failExpected [.phrase "an expression"]

/-- A reference can be raw, and then says whether what it refers to can change. -/
def referenceExpression (grammar : Grammar) (allowStruct : Bool) : Parser Expression := do
  let ampersand ← markCode "&"
  let raw ←
    if ← peek fun tokens => Peek.word "raw" tokens &&
        (Peek.word "mut" (tokens.drop 1) || Peek.word "const" (tokens.drop 1)) then
      keywordCode "raw"
    else pure []
  let mutability ← keywordCode? "mut"
  let constness ←
    if !raw.isEmpty && mutability.isEmpty then keywordCode "const" else pure []
  return .behind (ampersand ++ raw ++ mutability ++ constness) (← grammar.operand allowStruct)

/-- An atom with what trails it, behind its attributes. What keeps its tokens keeps the attributes'
tokens, too. -/
def attributedAtom (grammar : Grammar) (allowStruct : Bool) (beginning : List Token)
    (attributes : Code) : Parser Expression := do
  let start ← position
  let found ← trailers grammar (← atom grammar allowStruct)
  match found.form with
  | .verbatim => return .ofCode (← refusedSince .expression beginning) .verbatim
  | .range => if attributes.isEmpty then return found else failAt .attributesOnRange start
  | _ => return found.withAttributes attributes

/-- An operand: an atom with what trails it, behind any number of unary operators. -/
def operand (grammar : Grammar) (allowStruct : Bool) : Parser Expression := do
  let beginning ← tokens
  let attributes ← outerAttributeCode grammar
  let next ← tokens
  let unary (spelling : String) : Parser Expression := do
    let front ← markCode spelling
    return .behind (attributes ++ front) (← grammar.operand allowStruct)
  if Peek.mark "&" next then
    return (← referenceExpression grammar allowStruct).withAttributes attributes
  else if Peek.mark "*" next then unary "*"
  else if Peek.mark "!" next then unary "!"
  else if Peek.mark "-" next then unary "-"
  else attributedAtom grammar allowStruct beginning attributes

def expression (grammar : Grammar) (allowStruct : Bool) : Parser Expression := do
  let found ← grammar.operand allowStruct
  grammar.operators allowStruct found Strength.least

/-- An expression at the front of a statement or in an arm: one that ends in a brace goes on only
with a field, a call of a method, or a question mark. -/
def boundaryExpression (grammar : Grammar) : Parser Expression := do
  let attributes ← outerAttributeCode grammar
  match ← boundaryAtom? grammar with
  | some found =>
      if ← peek fun tokens => startsField tokens || Peek.mark "?" tokens then
        let longer ← trailers grammar found
        grammar.operators true (longer.withAttributes attributes) Strength.least
      else return found.withAttributes attributes
  | none =>
      let found ← grammar.operand true
      grammar.operators true (found.withAttributes attributes) Strength.least

end DataAccess.Parse
