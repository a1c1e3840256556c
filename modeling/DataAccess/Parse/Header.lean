/-
This file says how the options in the header of a batch are written, which of them can be taken, and
what is told of the first one that cannot.
-/

import DataAccess.Parse.Batch

namespace DataAccess

/-- What is told of an error: messages and their places. -/
def SyntaxError.told (error : SyntaxError) : List (String × Position) :=
  error.faults.map fun fault => (fault.problem.message, fault.position)

/-- A value is a string literal or a word for a switch. -/
inductive OptionValue.IsWritten : OptionValue → List Token → Prop
  | on (position : Position) : IsWritten (.switch true) [.word ⟨"on", position⟩]
  | off (position : Position) : IsWritten (.switch false) [.word ⟨"off", position⟩]
  | path {token : Token} {literal : StringLiteral}
      (spelled : StringLiteral.ofToken? token = some literal) : IsWritten (.path literal) [token]

/-- A key is a name, or the only reserved word that is one. -/
def Name.IsKey (name : Name) : Prop :=
  name.text = "pub" ∨ Text.Identifier.isReserved name.text = false

namespace BatchOption

/-- The tokens are a key, the sign of equality and a value. -/
inductive IsWritten : BatchOption → List Token → Prop
  | assigned {key : Name} {value : OptionValue} {tokens : List Token} (named : key.IsKey)
      (joint : Bool) (position : Position) (written : value.IsWritten tokens) :
      IsWritten ⟨key, value⟩ (.word key :: .mark '=' joint position :: tokens)

/-- The key is known, and the value is of its kind. -/
inductive Fits : BatchOption → Prop
  | isPublic {key : Name} (named : key.text = "pub") (isOn : Bool) : Fits ⟨key, .switch isOn⟩
  | debugFile {key : Name} (named : key.text = "debug_file") (literal : StringLiteral) :
      Fits ⟨key, .path literal⟩

/-- The key has not been given before. -/
def IsNew (before : List BatchOption) (option : BatchOption) : Prop :=
  ∀ earlier ∈ before, earlier.key.text ≠ option.key.text

/-- What is told of an option that cannot be taken behind others. That its key has been given
before comes first, whatever its value is. -/
inductive Offends (before : List BatchOption) (option : BatchOption) :
    List (String × Position) → Prop
  | repeated {earlier : BatchOption} (given : earlier ∈ before)
      (same : earlier.key.text = option.key.text) : Offends before option
        [(s!"Option `{option.key.text}` given twice", option.key.position),
          ("First given here", earlier.key.position)]
  | noSwitch {literal : StringLiteral} (new : option.IsNew before)
      (named : option.key.text = "pub") (valued : option.value = .path literal) :
      Offends before option [("Expected `on` or `off`", literal.position)]
  | noPath {isOn : Bool} (new : option.IsNew before)
      (named : option.key.text = "debug_file") (valued : option.value = .switch isOn) :
      Offends before option [("Expected a file path", option.key.position)]
  | unknown (new : option.IsNew before)
      (notPublic : option.key.text ≠ "pub") (notFile : option.key.text ≠ "debug_file") :
      Offends before option
        [(s!"Unknown option `{option.key.text}`, available options are `pub` and `debug_file`",
          option.key.position)]

end BatchOption

namespace BatchOptions

/-- The key is given with the value. -/
def Gives (options : List BatchOption) (key : String) (value : OptionValue) : Prop :=
  ∃ option ∈ options, option.key.text = key ∧ option.value = value

/-- The options are a map: all of them can be taken, and no key is given twice. -/
structure AreMap (options : List BatchOption) : Prop where
  fit : ∀ option ∈ options, option.Fits
  distinct : (options.map fun option => option.key.text).Nodup

/-- What is not given is off and has no file. -/
structure AreGiven (options : List BatchOption) (taken : BatchOptions) : Prop where
  isPublic : taken.isPublic = true ↔ Gives options "pub" (.switch true)
  debugFile : ∀ literal, taken.debugFile = some literal ↔
    Gives options "debug_file" (.path literal)

/-- What is told of the first option that cannot be taken. -/
def FirstOffends (options : List BatchOption) (told : List (String × Position)) : Prop :=
  ∃ before option after, options = before ++ option :: after ∧ AreMap before ∧
    option.Offends before told

/-- The tokens are options with a comma between each two, and perhaps one behind the last. -/
inductive AreWritten : List BatchOption → List Token → Prop
  | none : AreWritten [] []
  | last {option : BatchOption} {tokens : List Token} (written : option.IsWritten tokens) :
      AreWritten [option] tokens
  | next {option : BatchOption} {others : List BatchOption} {tokens rest : List Token}
      (written : option.IsWritten tokens) (joint : Bool) (position : Position)
      (behind : AreWritten others rest) :
      AreWritten (option :: others) (tokens ++ .mark ',' joint position :: rest)

/-- Behind some options stands what cannot be read as one, or no comma where another one should
follow. -/
inductive CannotBeRead (inside : Stream) : List Token → SyntaxError → Prop
  | option {tokens : List Token} {error : SyntaxError} (present : tokens ≠ [])
      (fails : Parse.batchOption { inside with tokens } = .error error) :
      CannotBeRead inside tokens error
  | comma {option : BatchOption} {tokens rest : List Token} {token : Token}
      (written : option.IsWritten tokens)
      (other : ∀ joint position, token ≠ .mark ',' joint position) :
      CannotBeRead inside (tokens ++ token :: rest) ⟨⟨.missingMark ",", token.position⟩, []⟩
  | later {option : BatchOption} {tokens rest : List Token} {error : SyntaxError}
      (written : option.IsWritten tokens) (joint : Bool) (position : Position)
      (behind : CannotBeRead inside rest error) :
      CannotBeRead inside (tokens ++ .mark ',' joint position :: rest) error

end BatchOptions

namespace Stream

/-- The stream with options in braces next. -/
def withOptions (stream : Stream) (opening closing : Position) (inner rest : List Token) : Stream :=
  { stream with tokens := .group .brace opening closing inner :: rest }

/-- The end of what stands in the braces. -/
def endInBraces (stream : Stream) (closing : Position) : Stream :=
  ⟨[], closing, some .brace, stream.leftover⟩

end Stream

end DataAccess
