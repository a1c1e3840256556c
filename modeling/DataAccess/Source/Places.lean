/-
This file lists the places of tokens, and says where code begins.
-/

import DataAccess.Source.Separated

namespace DataAccess

namespace Token

mutual

/-- The places of a token: those of its delimiters and of everything between them, if it is a
group. -/
def places : Token → List Position
  | .word name => [name.position]
  | .mark _ _ position => [position]
  | .literal _ position => [position]
  | .lifetime name => [name.position]
  | .group _ opening closing inner => opening :: placesOf inner ++ [closing]

def placesOf : List Token → List Position
  | [] => []
  | token :: rest => token.places ++ placesOf rest

end

/-- A property holds of every place of some tokens. -/
def AllAt (known : Position → Prop) (tokens : List Token) : Prop :=
  ∀ place ∈ placesOf tokens, known place

variable {known : Position → Prop}

/-- A property holds of all places where there are none. -/
@[simp]
theorem allAt_nil : AllAt known [] :=
  fun _ member => nomatch member

/-- The first token and the others have their places apart. -/
theorem allAt_cons {token : Token} {rest : List Token} :
    AllAt known (token :: rest) ↔ AllAt known [token] ∧ AllAt known rest := by
  simp only [AllAt, placesOf, List.mem_append, List.append_nil, or_imp, forall_and]

/-- Both parts of a list have their places apart. -/
@[simp]
theorem allAt_append {first second : List Token} :
    AllAt known (first ++ second) ↔ AllAt known first ∧ AllAt known second := by
  induction first with
  | nil => simp
  | cons token rest hypothesis =>
    rw [List.cons_append, allAt_cons, hypothesis, @allAt_cons _ token rest, and_assoc]

/-- The places of a group are those of its delimiters and of its inside. -/
@[simp]
theorem allAt_group {delimiter : Delimiter} {opening closing : Position} {inner : List Token} :
    AllAt known [.group delimiter opening closing inner] ↔
      known opening ∧ AllAt known inner ∧ known closing := by
  simp [AllAt, placesOf, places, or_imp, forall_and]

/-- A token stands at one of its places. -/
theorem position_of_allAt {token : Token} {rest : List Token}
    (all : AllAt known (token :: rest)) : known token.position := by
  refine all _ (List.mem_append_left _ ?_)
  cases token <;> simp [places, position]

/-- Tokens stand at their own places. -/
theorem allAt_placesOf (tokens : List Token) : AllAt (· ∈ placesOf tokens) tokens :=
  fun _ member => member

end Token

namespace Code

/-- Code prints something, and a property holds of the place where it begins. -/
def Begins (known : Position → Prop) (code : Code) : Prop :=
  ∃ token rest, code.tokens = token :: rest ∧ known token.position

/-- If code prints anything at all, then a property holds of the place where it begins. -/
def Starts (known : Position → Prop) (code : Code) : Prop :=
  code.tokens = [] ∨ code.Begins known

variable {known : Position → Prop} {first second : Code}

/-- Code that begins at a known place has its first token there. -/
theorem Begins.startOf (begins : first.Begins known) : known (Token.startOf first.tokens) := by
  obtain ⟨token, rest, same, at_⟩ := begins
  rwa [same]

/-- What follows does not change where code begins. -/
theorem Begins.append (begins : first.Begins known) : (first ++ second).Begins known := by
  obtain ⟨token, rest, same, at_⟩ := begins
  exact ⟨token, rest ++ second.tokens, by rw [tokens_append, same, List.cons_append], at_⟩

/-- What prints nothing does not change where code begins. -/
theorem begins_append_of_nil (empty : first.tokens = []) (begins : second.Begins known) :
    (first ++ second).Begins known := by
  obtain ⟨token, rest, same, at_⟩ := begins
  exact ⟨token, rest, by rw [tokens_append, empty, same, List.nil_append], at_⟩

/-- What may print nothing begins where it does, or where the code behind it begins. -/
theorem Starts.append (starts : first.Starts known) (begins : second.Begins known) :
    (first ++ second).Begins known := by
  cases starts with
  | inl empty => exact begins_append_of_nil empty begins
  | inr starts => exact starts.append

/-- No code begins nowhere. -/
theorem starts_nil : Starts known [] :=
  .inl rfl

/-- Two pieces of code that may print nothing begin with the first one that prints anything. -/
theorem starts_append (starts : first.Starts known) (goesOn : second.Starts known) :
    (first ++ second).Starts known := by
  cases goesOn with
  | inl empty =>
    cases starts with
    | inl empty' => exact .inl (by rw [tokens_append, empty', empty, List.append_nil])
    | inr begins => exact .inr begins.append
  | inr begins => exact .inr (starts.append begins)

/-- A word begins where its name stands. -/
theorem begins_word {name : Name} (at_ : known name.position) : (word name).Begins known :=
  ⟨_, _, rfl, at_⟩

/-- A lifetime begins where its name stands. -/
theorem begins_lifetime {name : Name} (at_ : known name.position) : (lifetime name).Begins known :=
  ⟨_, _, rfl, at_⟩

/-- A keyword begins at its place. -/
theorem begins_keyword {spelling : String} {position : Position} (at_ : known position) :
    (keyword spelling position).Begins known :=
  ⟨_, _, rfl, at_⟩

/-- A keyword that can be absent begins at its place, if it has one. -/
theorem starts_keyword? {spelling : String} {position : Option Position}
    (at_ : ∀ place ∈ position, known place) : (keyword? spelling position).Starts known := by
  cases position with
  | none => exact starts_nil
  | some place => exact .inr (begins_keyword (at_ place rfl))

/-- A mark begins at its place. -/
theorem begins_mark {spelling : String} {position : Position}
    (nonempty : spelling.toList ≠ []) (at_ : known position) :
    (mark spelling position).Begins known := by
  unfold Begins mark Token.operator
  rw [tokens_ofTokens]
  cases same : spelling.toList with
  | nil => exact absurd same nonempty
  | cons character rest => cases rest <;> exact ⟨_, _, rfl, at_⟩

/-- A group begins with its opening delimiter. -/
theorem begins_group {delimiter : Delimiter} {opening closing : Position} {inner : Code}
    (at_ : known opening) : Begins known [.group delimiter opening closing inner] :=
  ⟨_, _, rfl, at_⟩

/-- Code that is refused begins with the first of its tokens. -/
theorem begins_refuse {construct : Construct} {token : Token} {rest : List Token}
    (at_ : known token.position) : (refuse construct (token :: rest)).Begins known :=
  ⟨token, rest, List.append_nil _, at_⟩

/-- Code that the formatter leaves out begins where it stood. -/
theorem begins_leaveOut : first.leaveOut.Begins known ↔ first.Begins known := by
  simp [Begins, leaveOut, Piece.tokens]

/-- A list begins where its first entry does. -/
theorem begins_separated {separator : String} {first : Separated Code}
    {rest : List (Separated Code)} (begins : first.entry.Begins known) :
    (Separated.code separator (first :: rest)).Begins known := by
  cases rest with
  | nil => exact begins.append
  | cons second others => exact begins.append.append

end Code

end DataAccess
