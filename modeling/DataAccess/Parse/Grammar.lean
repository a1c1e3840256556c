/-
This file holds the expressions and statements that the parser reads, and the parsers that the parts
of a declaration share.
-/

import DataAccess.Declaration.Item
import DataAccess.Parse.Parser

namespace DataAccess

/-- What decides how an expression ends a statement, goes on, or is formatted. A conditional is
closed when it ends in an `else` without a further condition; an effect assigns or leaves what it
stands in, and has no value of its own. -/
inductive ExpressionForm where
  | ordinary
  | blockLike
  | block
  | repetition
  | conditional (closed : Bool)
  | invocation (braced : Bool)
  | range
  | comparison
  | effect
  | verbatim
deriving DecidableEq, Repr

/-- An expression is kept as its code, as the code of a match arm that consists of it, and as what
the arm has behind attributes. -/
structure Expression where
  code : Code
  arm : Code
  attributedArm : Code
  form : ExpressionForm

namespace ExpressionForm

/-- An arm of this form needs a comma before the next one. -/
def needsComma : ExpressionForm → Bool
  | .blockLike | .block | .repetition | .conditional _ => false
  | .ordinary | .invocation _ | .range | .comparison | .effect | .verbatim => true

/-- A statement of this form needs a semicolon before the next one. -/
def needsSemicolon : ExpressionForm → Bool
  | .invocation braced => !braced
  | form => form.needsComma

/-- The formatter leaves out a semicolon behind what its brace ends. -/
def dropsSemicolon : ExpressionForm → Bool
  | .repetition => true
  | .conditional closed => !closed
  | .invocation braced => braced
  | .ordinary | .blockLike | .block | .range | .comparison | .effect | .verbatim => false

/-- The formatter writes a semicolon behind an effect that ends a body. -/
def gainsSemicolon (form : ExpressionForm) : Bool :=
  form = .effect

end ExpressionForm

namespace Expression

/-- Where a block can stand, the formatter puts braces around an expression that spans lines. An
effect then ends in a semicolon. -/
def inPlaceOfBlock (code : Code) (form : ExpressionForm) : Code :=
  if form.gainsSemicolon && code.spansLines then code ++ [.inserted ";"] else code

def ofCode (code : Code) (form : ExpressionForm) : Expression :=
  let arm := inPlaceOfBlock code form
  ⟨code, arm, arm, form⟩

def ordinary (code : Code) : Expression :=
  ofCode code .ordinary

/-- An expression that stands behind a front of its own. -/
def behind (front : Code) (expression : Expression) : Expression :=
  ordinary (front ++ expression.code)

/-- Attributes in front of an expression. A range is put into parentheses behind them, and what the
formatter does not know loses them. An arm that is a block is formatted without them. -/
def withAttributes (attributes : Code) (expression : Expression) : Expression :=
  if attributes.isEmpty then expression
  else
    match expression.form with
    | .verbatim => expression
    | .range =>
        ofCode (attributes ++ [.group .parenthesis .callSite .callSite expression.code]) .range
    | .block =>
        let arm := attributes.leaveOut ++ expression.attributedArm
        ⟨attributes ++ expression.code, arm, arm, .block⟩
    | form => ofCode (attributes ++ expression.code) form

end Expression

/-- A statement is a lone semicolon, an expression, perhaps with a semicolon, or anything else. -/
inductive BlockStatement where
  | empty (position : Position)
  | expression (value : Expression) (semicolon : Option Position)
  | other (code : Code)

namespace BlockStatement

/-- The statement among others, on lines of its own. The formatter leaves out lone semicolons. -/
def code : BlockStatement → Code
  | .empty position => (Code.mark ";" position).leaveOut
  | .expression value (some position) =>
      let semicolon := Code.mark ";" position
      value.code ++ (if value.form.dropsSemicolon then semicolon.leaveOut else semicolon) ++
        [.lineBreak]
  | .expression value none =>
      value.code ++ (if value.form.gainsSemicolon then [.inserted ";"] else []) ++ [.lineBreak]
  | .other code => code ++ [.lineBreak]

/-- The statements of a body. -/
def listCode (statements : List BlockStatement) : Code :=
  statements.flatMap code

/-- The statements of a block that is a part of an expression. A single value stays as it is. -/
def inlineCode : List BlockStatement → Code
  | [.expression value none] => value.code
  | statements => listCode statements

end BlockStatement

/-- A block with the attributes inside its braces. -/
structure Block where
  opening : Position
  closing : Position
  attributes : Code
  statements : List BlockStatement

namespace Block

def around (block : Block) (inner : Code) : Code :=
  [.group .brace block.opening block.closing inner]

/-- The block as the body of a function or of a loop. -/
def body (block : Block) : Code :=
  block.around (block.attributes ++ BlockStatement.listCode block.statements)

/-- The block as a part of an expression. -/
def inline (block : Block) : Code :=
  block.around (block.attributes ++ BlockStatement.inlineCode block.statements)

/-- The block as an arm whose attributes the formatter leaves out. -/
def attributedArm (block : Block) : Code :=
  block.around (block.attributes.leaveOut ++ BlockStatement.listCode block.statements)

/-- The block as an arm. The formatter looks through a block that is nothing but a value. -/
def arm (block : Block) : Code :=
  match block.attributes, block.statements with
  | [], [.expression value none] => block.around value.arm
  | _, _ => block.attributedArm

/-- The block as an expression, behind a label if it has one. -/
def expression (label : Code) (block : Block) : Expression :=
  let attributed := label ++ block.attributedArm
  ⟨label ++ block.inline, if label.isEmpty then block.arm else attributed, attributed, .block⟩

end Block

/-- A type as it was read. A path, or an object type that is a single bound without the keyword, can
be the first bound of a longer object type. -/
structure TypeReading where
  type : DeclaredType
  bound : Option Code

def TypeReading.ofCode (code : Code) : TypeReading :=
  ⟨.other code, none⟩

/-- The parsers of the parts that contain each other. An `operand` is an expression without binary
operators; `operators` goes on behind an operand with the operators that bind as strongly as the
given strength. The truth values say whether a plus sign, or a struct literal, can follow, and
whether a bound can be a capture or a constant one. -/
structure Grammar where
  type : Bool → Parser DeclaredType
  typeReading : Bool → Parser TypeReading
  bound : Bool → Bool → Parser Bound
  pattern : Parser Pattern
  expression : Bool → Parser Expression
  boundaryExpression : Parser Expression
  operand : Bool → Parser Expression
  operators : Bool → Expression → Nat → Parser Expression
  statements : Parser (List BlockStatement)
  item : Parser Item

namespace Parser

def markCode (spelling : String) : Parser Code := do
  return Code.mark spelling (← mark spelling)

def markCode? (spelling : String) : Parser Code := do
  if ← peek (Peek.mark spelling) then markCode spelling else return []

def keywordCode (spelling : String) : Parser Code := do
  return Code.keyword spelling (← keyword spelling)

def keywordCode? (spelling : String) : Parser Code := do
  if ← peek (Peek.word spelling) then keywordCode spelling else return []

def identifierCode : Parser Code := do
  return Code.word (← identifier)

def anyWordCode : Parser Code := do
  return Code.word (← anyWord)

def lifetimeCode : Parser Code := do
  return Code.lifetime (← lifetime)

/-- A literal that is no value of any kind cannot be formatted. -/
def literalCode : Parser Code := do
  match ← literal with
  | [.literal spelling position] =>
      if (Lexeme.errorLiteral spelling.toList).isSome then
        return Code.refuse .literal [.literal spelling position]
      else return Code.ofTokens [.literal spelling position]
  | tokens => return Code.ofTokens tokens

def groupCode (delimiter : Delimiter) (inside : Parser Code) : Parser Code := do
  return [(← group delimiter inside).piece delimiter]

/-- A list that takes the whole stream. -/
def terminatedCode (entry : Parser Code) : Parser Code := do
  return Separated.code "," (← terminated entry)

/-- The tokens that a parser has passed over since a stream, which the formatter does not know. -/
def refusedSince (construct : Construct) (start : List Token) : Parser Code := do
  return Code.refuse construct (← since start)

end Parser

end DataAccess
