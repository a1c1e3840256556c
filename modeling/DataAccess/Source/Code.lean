/-
This file holds code in its two forms: the tokens that are printed, and the text that the formatter
makes of them as far as it does not depend on layout.
-/

import DataAccess.Source.Token

namespace DataAccess

/-- The places of code that can hold what the formatter does not know. -/
inductive Construct where
  | item
  | traitItem
  | implementationItem
  | foreignItem
  | expression
  | pattern
  | type
  | bound
  | literal
deriving DecidableEq, Repr

/-- Why code cannot be formatted. -/
inductive FormatFailure where
  | unknown (construct : Construct) (tokens : List Token)
  | malformedRules
deriving Repr

def Construct.name : Construct → String
  | .item => "Item"
  | .traitItem => "TraitItem"
  | .implementationItem => "ImplItem"
  | .foreignItem => "ForeignItem"
  | .expression => "Expr"
  | .pattern => "Pat"
  | .type => "Type"
  | .bound => "TypeParamBound"
  | .literal => "Lit"

def FormatFailure.message : FormatFailure → String
  | .unknown construct tokens =>
      s!"not implemented: {construct.name}::Verbatim `" ++ Token.textOf tokens ++ "`"
  | .malformedRules => "not implemented: bad macro_rules syntax"

/-- A piece of code is in both forms, except that dropped tokens are only printed, that inserted
text and line breaks are only in the formatted text, and that a refused piece cannot be
formatted. -/
inductive Piece where
  | token (token : Token)
  | group (delimiter : Delimiter) (opening closing : Position) (inner : List Piece)
  | dropped (tokens : List Token)
  | inserted (text : String)
  | lineBreak
  | refused (failure : FormatFailure) (tokens : List Token)

abbrev Code := List Piece

mutual

def Piece.tokens : Piece → List Token
  | .token token => [token]
  | .group delimiter opening closing inner =>
      [.group delimiter opening closing (Code.tokens inner)]
  | .dropped tokens => tokens
  | .inserted _ => []
  | .lineBreak => []
  | .refused _ tokens => tokens

/-- The printed form. -/
def Code.tokens : Code → List Token
  | [] => []
  | piece :: rest => piece.tokens ++ Code.tokens rest

end

mutual

def Piece.text : Piece → String
  | .token token => token.text
  | .group delimiter _ _ inner => Token.surround delimiter (Code.text inner)
  | .dropped _ => ""
  | .inserted text => text
  | .lineBreak => "\n"
  | .refused _ _ => ""

/-- The formatted text without the white space that depends on the width of lines. Refused pieces
are left out. -/
def Code.text : Code → String
  | [] => ""
  | piece :: rest => piece.text ++ Code.text rest

end

mutual

def Piece.failure? : Piece → Option FormatFailure
  | .token _ => none
  | .group _ _ _ inner => Code.failure? inner
  | .dropped _ => none
  | .inserted _ => none
  | .lineBreak => none
  | .refused failure _ => some failure

/-- The first refused piece stops the formatter. -/
def Code.failure? : Code → Option FormatFailure
  | [] => none
  | piece :: rest => piece.failure?.or (Code.failure? rest)

end

mutual

def Piece.spansLines : Piece → Bool
  | .token _ => false
  | .group _ _ _ inner => Code.spansLines inner
  | .dropped _ => false
  | .inserted _ => false
  | .lineBreak => true
  | .refused _ _ => false

/-- The formatted text cannot be on one line. -/
def Code.spansLines : Code → Bool
  | [] => false
  | piece :: rest => piece.spansLines || Code.spansLines rest

end

namespace Code

def formatted (code : Code) : Except FormatFailure String :=
  match code.failure? with
  | some failure => .error failure
  | none => .ok code.text

/-- Tokens that stand as they are in both forms. -/
def ofTokens (tokens : List Token) : Code :=
  tokens.map .token

def word (name : Name) : Code :=
  [.token (.word name)]

def lifetime (name : Name) : Code :=
  [.token (.lifetime name)]

def keyword (spelling : String) (position : Position) : Code :=
  [.token (Token.keyword spelling position)]

/-- A keyword that may be absent, printed where it stood. -/
def keyword? (spelling : String) (position : Option Position) : Code :=
  match position with
  | some position => keyword spelling position
  | none => []

def mark (spelling : String) (position : Position) : Code :=
  ofTokens (Token.operator spelling position)

/-- Code that the formatter leaves out. -/
def leaveOut (code : Code) : Code :=
  [.dropped code.tokens]

/-- Tokens that the formatter does not know. -/
def refuse (construct : Construct) (tokens : List Token) : Code :=
  [.refused (.unknown construct tokens) tokens]

/-- The last token is a group in braces. -/
def endsInBrace (code : Code) : Bool :=
  match code.tokens.getLast? with
  | some (.group .brace _ _ _) => true
  | _ => false

@[simp]
theorem tokens_nil : Code.tokens [] = [] := rfl

@[simp]
theorem tokens_cons (piece : Piece) (rest : Code) :
    Code.tokens (piece :: rest) = piece.tokens ++ Code.tokens rest := rfl

@[simp]
theorem tokens_append (first second : Code) :
    Code.tokens (first ++ second) = Code.tokens first ++ Code.tokens second := by
  induction first with
  | nil => simp
  | cons piece rest hypothesis => simp [hypothesis]

@[simp]
theorem tokens_ofTokens (tokens : List Token) : (ofTokens tokens).tokens = tokens := by
  induction tokens with
  | nil => rfl
  | cons token rest hypothesis =>
      simpa [ofTokens, Piece.tokens] using hypothesis

end Code

end DataAccess
