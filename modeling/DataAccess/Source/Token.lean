/-
This file holds the tokens of declarations and their printed form. An invisible group is what a
macro puts around what it was given; no text holds one.
-/

namespace DataAccess

/-- A place in a source text: the line counts from one, the column from zero. -/
structure Position where
  line : Nat
  column : Nat
deriving DecidableEq, Repr

/-- The place of tokens that no source text holds. -/
def Position.callSite : Position := ⟨1, 0⟩

/-- An identifier as it is written, with its raw prefix if it has one. -/
structure Name where
  text : String
  position : Position
deriving DecidableEq, Repr

inductive Delimiter where
  | parenthesis
  | brace
  | bracket
  | invisible
deriving DecidableEq, Repr

/-- A punctuation character is joint when it reads together with the next one. -/
inductive Token where
  | word (name : Name)
  | mark (character : Char) (joint : Bool) (position : Position)
  | literal (text : String) (position : Position)
  | lifetime (name : Name)
  | group (delimiter : Delimiter) (opening closing : Position) (inner : List Token)
deriving Repr

namespace Token

def position : Token → Position
  | .word name => name.position
  | .mark _ _ position => position
  | .literal _ position => position
  | .lifetime name => name.position
  | .group _ opening _ _ => opening

def isJoint : Token → Bool
  | .mark _ joint _ => joint
  | _ => false

/-- The place of a construct is the place of its first token. -/
def startOf : List Token → Position
  | [] => .callSite
  | token :: _ => token.position

def surround : Delimiter → String → String
  | .parenthesis, inner => "(" ++ inner ++ ")"
  | .brace, inner => if inner.isEmpty then "\x7b \x7d" else "\x7b " ++ inner ++ " \x7d"
  | .bracket, inner => "[" ++ inner ++ "]"
  | .invisible, inner => inner

mutual

def text : Token → String
  | .word name => name.text
  | .mark character _ _ => character.toString
  | .literal text _ => text
  | .lifetime name => name.text
  | .group delimiter _ _ inner => surround delimiter (textOf inner)

/-- Tokens are one blank apart, and nothing follows a joint character. -/
def textOf : List Token → String
  | [] => ""
  | token :: rest =>
      match rest with
      | [] => token.text
      | _ :: _ => token.text ++ (if token.isJoint then "" else " ") ++ textOf rest

end

mutual

/-- The word occurs among the identifiers of a token, at any depth. -/
def mentions (word : String) : Token → Bool
  | .word name => name.text == word
  | .lifetime name => name.text == "'" ++ word
  | .group _ _ _ inner => anyMentions word inner
  | .mark _ _ _ => false
  | .literal _ _ => false

def anyMentions (word : String) : List Token → Bool
  | [] => false
  | token :: rest => mentions word token || anyMentions word rest

end

mutual

/-- No group is invisible, at any depth. -/
def isVisible : Token → Bool
  | .group delimiter _ _ inner => delimiter != .invisible && areVisible inner
  | .word _ => true
  | .lifetime _ => true
  | .mark _ _ _ => true
  | .literal _ _ => true

def areVisible : List Token → Bool
  | [] => true
  | token :: rest => isVisible token && areVisible rest

end

/-- An operator is printed in one piece: all its characters but the last are joint. -/
def operatorOf (position : Position) : List Char → List Token
  | [] => []
  | [character] => [.mark character false position]
  | character :: rest => .mark character true position :: operatorOf position rest

def operator (spelling : String) (position : Position) : List Token :=
  operatorOf position spelling.toList

def keyword (spelling : String) (position : Position) : Token :=
  .word ⟨spelling, position⟩

/-- The tokens and everything inside their groups. -/
def count : List Token → Nat
  | [] => 0
  | .group _ _ _ inner :: rest => 2 + count inner + count rest
  | _ :: rest => 1 + count rest

theorem areVisible_append (first second : List Token) :
    areVisible (first ++ second) = (areVisible first && areVisible second) := by
  induction first with
  | nil => rfl
  | cons token rest hypothesis =>
      rw [List.cons_append, areVisible, hypothesis, areVisible, Bool.and_assoc]

theorem areVisible_reverse (tokens : List Token) :
    areVisible tokens.reverse = areVisible tokens := by
  induction tokens with
  | nil => rfl
  | cons token rest hypothesis =>
      rw [List.reverse_cons, areVisible_append, hypothesis, areVisible, areVisible, areVisible,
        Bool.and_true, Bool.and_comm]

theorem count_cons (token : Token) (rest : List Token) :
    count (token :: rest) = count [token] + count rest := by
  cases token <;> simp [count]

theorem count_pos (token : Token) (rest : List Token) : 0 < count (token :: rest) := by
  cases token <;> simp only [count] <;> omega

theorem count_append (first second : List Token) :
    count (first ++ second) = count first + count second := by
  induction first with
  | nil => simp [count]
  | cons token rest hypothesis =>
      rw [List.cons_append, count_cons, count_cons token rest, hypothesis, Nat.add_assoc]

end Token

end DataAccess
