/-
This file says which tokens of a batch belong to its header and which to each of its items.
-/

import DataAccess.Parse.Batch
import DataAccess.Source.Places

namespace DataAccess

/-- Results are read one after the other, each of them from a segment of the tokens, and a rest is
left. -/
inductive Parser.ReadInTurn {Result : Type} (parser : Parser Result) :
    List Token → List Result → List (List Token) → List Token → Prop where
  | done {rest : List Token} : ReadInTurn parser rest [] [] rest
  | next {stream middle : Stream} {result : Result} {segment rest : List Token}
      {results : List Result} {segments : List (List Token)}
      (read : parser stream = .ok (result, middle))
      (same : stream.tokens = segment ++ middle.tokens)
      (goesOn : ReadInTurn parser middle.tokens results segments rest) :
      ReadInTurn parser stream.tokens (result :: results) (segment :: segments) rest

namespace Parse

/-- The tokens of a batch are those of its header, which begins with a word and holds the name of a
debug file behind it if there is one, and those of each item. -/
structure Layout (tokens : List Token) (batch : Batch) (header : List Token)
    (segments : List (List Token)) : Prop where
  whole : tokens = header ++ segments.flatten
  first : ∃ position, header.head? = some (.word ⟨"impl", position⟩)
  debugFile : ∀ literal ∈ batch.options.debugFile, literal.position ∈ Token.placesOf header.tail
  items : Parser.ReadInTurn (grammarFor tokens).item segments.flatten batch.items segments []

end Parse

end DataAccess
