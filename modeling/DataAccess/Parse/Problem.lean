/-
This file holds the reasons for which declarations cannot be read.
-/

import DataAccess.Source.FieldNumber
import DataAccess.Source.Token

namespace DataAccess

/-- What a place in a declaration admits. -/
inductive Expectation where
  | token (spelling : String)
  | identifier
  | lifetime
  | literal
  | stringLiteral
  | enclosed (delimiter : Delimiter)
  | phrase (text : String)
deriving DecidableEq, Repr

def Expectation.text : Expectation → String
  | .token spelling => s!"`{spelling}`"
  | .identifier => "identifier"
  | .lifetime => "lifetime"
  | .literal => "literal"
  | .stringLiteral => "string literal"
  | .enclosed .parenthesis => "parentheses"
  | .enclosed .brace => "curly braces"
  | .enclosed .bracket => "square brackets"
  | .enclosed .invisible => "invisible group"
  | .phrase text => text

/-- A problem that arises at the end of the input says so, missing marks apart. -/
inductive SyntaxProblem where
  | missingMark (spelling : String)
  | expected (choices : List Expectation) (atEnd : Bool)
  | reservedWord (word : String)
  | leftover (enclosing : Option Delimiter)
  | unterminatedStatement
  | repeatedReceiver
  | misplacedReceiver
  | objectWithoutTrait
  | opaqueWithoutTrait
  | captureNotAllowed
  | constantBoundNotAllowed (bracketed : Bool)
  | relaxationBehindBinder
  | genericConditions
  | negativeImplementation
  | openRangeInSlice
  | attributesOnRange
  | parenthesesRequired
  | fieldNumber (problem : FieldNumberProblem)
  | chainedComparison
  | castFollowedBy (what : String)
  | nestedAttribute
  | missingHeader (atEnd : Bool)
  | switchExpected
  | pathExpected
  | unknownOption (key : String)
  | repeatedOption (key : String)
  | firstOption
  | missingArguments (style path : String)
  | missingParentheses (style path : String)
deriving DecidableEq, Repr

namespace SyntaxProblem

def choicesText : List Expectation → String
  | [] => "unexpected token"
  | [only] => s!"expected {only.text}"
  | [first, second] => s!"expected {first.text} or {second.text}"
  | many => "expected one of: " ++ ", ".intercalate (many.map Expectation.text)

def endOfInput (atEnd : Bool) (message : String) : String :=
  if atEnd then "unexpected end of input, " ++ message else message

/-- Where nothing in particular is admitted, the end of the input is all there is to say. -/
def expectedText (choices : List Expectation) (atEnd : Bool) : String :=
  if choices.isEmpty && atEnd then "unexpected end of input"
  else endOfInput atEnd (choicesText choices)

def message : SyntaxProblem → String
  | .missingMark spelling => s!"expected `{spelling}`"
  | .expected choices atEnd => expectedText choices atEnd
  | .reservedWord word => s!"expected identifier, found keyword `{word}`"
  | .leftover none => "unexpected token"
  | .leftover (some .parenthesis) => "unexpected token, expected `)`"
  | .leftover (some .brace) => "unexpected token, expected `\x7d`"
  | .leftover (some .bracket) => "unexpected token, expected `]`"
  | .leftover (some .invisible) => "unexpected token"
  | .unterminatedStatement => "unexpected token, expected `;`"
  | .repeatedReceiver => "unexpected second method receiver"
  | .misplacedReceiver => "unexpected method receiver"
  | .objectWithoutTrait => "at least one trait is required for an object type"
  | .opaqueWithoutTrait => "at least one trait must be specified"
  | .captureNotAllowed => "`use<...>` precise capturing syntax is not allowed here"
  | .constantBoundNotAllowed true => "`[const]` is not allowed here"
  | .constantBoundNotAllowed false => "`const` is not allowed here"
  | .relaxationBehindBinder =>
      "`for<...>` binder not allowed with `?` trait polarity modifier"
  | .genericConditions =>
      "generic parameters on `where` clauses are reserved for future use"
  | .negativeImplementation => "inherent impls cannot be negative"
  | .openRangeInSlice =>
      "range pattern is not allowed unparenthesized inside slice pattern"
  | .attributesOnRange =>
      "attributes are not allowed on range expressions starting with `..`"
  | .parenthesesRequired => "parentheses required"
  | .fieldNumber problem => problem.message
  | .chainedComparison => "comparison operators cannot be chained"
  | .castFollowedBy what => s!"casts cannot be followed by {what}"
  | .nestedAttribute => "unexpected attribute inside of attribute"
  | .missingHeader atEnd =>
      endOfInput atEnd "Expected the batch header `impl <module name>;`"
  | .switchExpected => "Expected `on` or `off`"
  | .pathExpected => "Expected a file path"
  | .unknownOption key =>
      s!"Unknown option `{key}`, available options are `pub` and `debug_file`"
  | .repeatedOption key => s!"Option `{key}` given twice"
  | .firstOption => "First given here"
  | .missingArguments style path =>
      s!"expected attribute arguments in parentheses: {style}[{path}(...)]"
  | .missingParentheses style path => s!"expected parentheses: {style}[{path}(...)]"

end SyntaxProblem

/-- A problem and its place. -/
structure Fault where
  problem : SyntaxProblem
  position : Position
deriving DecidableEq, Repr

/-- Reading fails with one fault and perhaps others that explain it. -/
structure SyntaxError where
  fault : Fault
  others : List Fault
deriving DecidableEq, Repr

def SyntaxError.faults (error : SyntaxError) : List Fault :=
  error.fault :: error.others

end DataAccess
