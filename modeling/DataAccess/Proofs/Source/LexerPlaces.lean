/-
This file proves where the tokens of a text stand: behind the first one none is at the place where
texts begin, which is the place of tokens that no text holds. It also proves that no text holds an
invisible group.
-/

import DataAccess.Source.Lexer
import DataAccess.Source.Places

namespace DataAccess.Lexer

/-! Positions -/

/-- A place in a text that is not the one where texts begin. -/
def IsBehindStart (position : Position) : Prop :=
  1 ≤ position.line ∧ position ≠ .callSite

/-- No character leads back to an earlier line. -/
theorem line_le_advance (position : Position) (character : Char) :
    position.line ≤ (advance position character).line := by
  unfold advance
  split
  next => exact Nat.le_succ _
  next => exact Nat.le_refl _

/-- Behind a character no position is the start of the text. -/
theorem isBehindStart_advance {position : Position} {character : Char} (lined : 1 ≤ position.line) :
    IsBehindStart (advance position character) := by
  refine ⟨Nat.le_trans lined (line_le_advance position character), fun same => ?_⟩
  unfold advance Position.callSite at same
  split at same
  next =>
    obtain ⟨line, _⟩ := Position.mk.inj same
    omega
  next => exact nomatch (Position.mk.inj same).2

/-- No characters lead back to before the first line. -/
theorem line_foldl {characters : List Char} {position : Position} (lined : 1 ≤ position.line) :
    1 ≤ (characters.foldl advance position).line := by
  induction characters generalizing position with
  | nil => exact lined
  | cons first rest hypothesis => exact hypothesis (isBehindStart_advance lined).1

/-- Behind some characters no position is the start of the text. -/
theorem isBehindStart_foldl_of_ne_nil {characters : List Char} {position : Position}
    (lined : 1 ≤ position.line) (moved : characters ≠ []) :
    IsBehindStart (characters.foldl advance position) := by
  induction characters generalizing position with
  | nil => exact absurd rfl moved
  | cons first rest hypothesis =>
    cases rest with
    | nil => exact isBehindStart_advance lined
    | cons second others => exact hypothesis (isBehindStart_advance lined).1 (List.cons_ne_nil _ _)

/-- What is behind the start stays behind it. -/
theorem IsBehindStart.foldl {characters : List Char} {position : Position}
    (behind : IsBehindStart position) : IsBehindStart (characters.foldl advance position) := by
  by_cases moved : characters = []
  · rw [moved]
    exact behind
  · exact isBehindStart_foldl_of_ne_nil behind.1 moved

/-! Steps -/

/-- One step of the lexer from where the next token begins, blanks skipped. -/
inductive Moves (here : Cursor) :
    List Frame → List Token → Cursor → List Frame → List Token → Prop where
  | comment {frames : List Frame} {tokens : List Token} {comment : DocComment}
      (found : docComment here.characters = some comment) :
      Moves here frames tokens (here.skipTo comment.rest) frames
        ((comment.tokens here.position).reverse ++ tokens)
  | opening {frames : List Frame} {tokens : List Token} {delimiter : Delimiter} {first : Char}
      {rest : List Char} (opened : opens (first :: rest) = some delimiter)
      (same : here.characters = first :: rest) :
      Moves here frames tokens (here.skipTo rest) (⟨delimiter, here.position, tokens⟩ :: frames) []
  | closing {frame : Frame} {outer : List Frame} {tokens : List Token} {first : Char}
      {rest : List Char} (same : here.characters = first :: rest) :
      Moves here (frame :: outer) tokens (here.skipTo rest) outer
        (.group frame.delimiter frame.opening here.position tokens.reverse :: frame.before)
  | leaf {frames : List Frame} {tokens : List Token} {token : Token} {rest : List Char}
      (found : leaf here = some (token, rest)) :
      Moves here frames tokens (here.skipTo rest) frames (token :: tokens)

/-- The lexer ends, or goes on behind a step. -/
theorem tokensFrom_cases {fuel : Nat} {cursor : Cursor} {frames : List Frame}
    {tokens result : List Token} (done : tokensFrom fuel cursor frames tokens = some result) :
    (frames = [] ∧ result = tokens.reverse) ∨
      ∃ fuel' cursor' frames' tokens', fuel = fuel' + 1 ∧
        Moves (cursor.skipTo (skipBlanks cursor.characters.length cursor.characters))
          frames tokens cursor' frames' tokens' ∧
        tokensFrom fuel' cursor' frames' tokens' = some result := by
  cases fuel with
  | zero => exact nomatch done
  | succ fuel =>
    unfold tokensFrom at done
    generalize cursor.skipTo _ = here at done
    dsimp only at done
    split at done
    next comment found => exact .inr ⟨_, _, _, _, rfl, .comment found, done⟩
    next =>
      split at done
      next =>
        split at done
        next ended => exact .inl ⟨List.isEmpty_iff.mp ended, (Option.some.inj done).symm⟩
        next => exact nomatch done
      next first rest same =>
        split at done
        next opened => exact .inr ⟨_, _, _, _, rfl, .opening opened same, done⟩
        next =>
          split at done
          next => exact nomatch done
          next frame outer =>
            split at done
            next delimited =>
              rw [← delimited] at done
              exact .inr ⟨_, _, _, _, rfl, .closing same, done⟩
            next => exact nomatch done
        next =>
          split at done
          next found => exact .inr ⟨_, _, _, _, rfl, .leaf found, done⟩
          next => exact nomatch done

/-- A move leads from behind the start to behind the start. -/
theorem Moves.behind {here next : Cursor} {frames frames' : List Frame}
    {tokens tokens' : List Token}
    (moves : Moves here frames tokens next frames' tokens') (behind : IsBehindStart here.position) :
    IsBehindStart next.position := by
  cases moves <;> exact behind.foldl

/-! What has been read -/

/-- The places of what stands before the innermost open group, its opening delimiter included. -/
def placesBefore : List Frame → List Position
  | [] => []
  | frame :: outer =>
      placesBefore outer ++ Token.placesOf frame.before.reverse ++ [frame.opening]

/-- The places of the tokens read so far, those of the open groups among them. -/
def placesRead (frames : List Frame) (tokens : List Token) : List Position :=
  placesBefore frames ++ Token.placesOf tokens.reverse

/-- The tokens outside of all open groups, the latest first. -/
def outermost : List Frame → List Token → List Token
  | [], tokens => tokens
  | frame :: outer, _ => outermost outer frame.before

/-- The place of a token without contents is where it was read. -/
theorem places_of_leaf {here : Cursor} {token : Token} {rest : List Char}
    (found : leaf here = some (token, rest)) : token.places = [here.position] := by
  unfold leaf at found
  split at found
  next =>
    cases found
    rfl
  next =>
    split at found
    next =>
      unfold quoted at found
      split at found
      next => exact nomatch found
      next =>
        split at found
        next =>
          cases found
          rfl
        next =>
          obtain ⟨_, _, same⟩ := Option.map_eq_some_iff.mp found
          cases same
          rfl
    next =>
      cases found
      rfl
    next =>
      obtain ⟨_, _, same⟩ := Option.map_eq_some_iff.mp found
      cases same
      rfl

/-- The places of joined tokens are those of both. -/
theorem placesOf_append (first second : List Token) :
    Token.placesOf (first ++ second) = Token.placesOf first ++ Token.placesOf second := by
  induction first with
  | nil => rfl
  | cons token rest hypothesis =>
    rw [List.cons_append, Token.placesOf, hypothesis, Token.placesOf, List.append_assoc]

/-- A step adds tokens where it begins. -/
theorem Moves.places {here next : Cursor} {frames frames' : List Frame}
    {tokens tokens' : List Token} (moves : Moves here frames tokens next frames' tokens') :
    ∃ added, placesRead frames' tokens' = placesRead frames tokens ++ added ∧
      ∀ place ∈ added, place = here.position := by
  cases moves with
  | @comment frames tokens comment found =>
    refine ⟨Token.placesOf (comment.tokens here.position), ?_, ?_⟩
    · simp [placesRead, placesOf_append]
    · intro place member
      cases inside : comment.inside <;>
        simpa [DocComment.tokens, inside, Token.placesOf, Token.places] using member
  | opening opened same =>
    exact ⟨[here.position], by simp [placesRead, placesBefore, Token.placesOf], by simp⟩
  | closing same =>
    refine ⟨[here.position], ?_, by simp⟩
    simp [placesRead, placesBefore, placesOf_append, Token.placesOf, Token.places]
  | leaf found =>
    refine ⟨[here.position], ?_, by simp⟩
    simp [placesRead, placesOf_append, Token.placesOf, places_of_leaf found]

/-- The outermost tokens read so far stay the last ones. -/
theorem Moves.outermost {here next : Cursor} {frames frames' : List Frame}
    {tokens tokens' : List Token} (moves : Moves here frames tokens next frames' tokens') :
    outermost frames tokens <:+ outermost frames' tokens' := by
  have adds (frames : List Frame) (more : List Token) (tokens : List Token) :
      Lexer.outermost frames tokens <:+ Lexer.outermost frames (more ++ tokens) := by
    cases frames with
    | nil => exact List.suffix_append ..
    | cons frame outer => exact List.suffix_rfl
  cases moves with
  | comment found => exact adds _ _ _
  | opening opened same => exact List.suffix_rfl
  | closing same =>
    change Lexer.outermost frames' _ <:+ _
    exact adds _ [_] _
  | leaf found => exact adds _ [_] _

/-- What stands outside of all groups stays in front. -/
theorem outermost_of_tokensFrom {fuel : Nat} {cursor : Cursor} {frames : List Frame}
    {tokens result : List Token} (done : tokensFrom fuel cursor frames tokens = some result) :
    outermost frames tokens <:+ result.reverse := by
  induction fuel generalizing cursor frames tokens with
  | zero => exact nomatch done
  | succ fuel hypothesis =>
    obtain ⟨rfl, rfl⟩ | ⟨_, next, frames', tokens', fueled, moves, goesOn⟩ := tokensFrom_cases done
    · rw [List.reverse_reverse]
      exact List.suffix_rfl
    · obtain rfl := Nat.succ.inj fueled
      exact moves.outermost.trans (hypothesis goesOn)

/-- From behind the start on, everything is added behind the start. -/
theorem places_of_tokensFrom {fuel : Nat} {cursor : Cursor} {frames : List Frame}
    {tokens result : List Token} (behind : IsBehindStart cursor.position)
    (done : tokensFrom fuel cursor frames tokens = some result) :
    ∃ added, Token.placesOf result = placesRead frames tokens ++ added ∧
      ∀ place ∈ added, IsBehindStart place := by
  induction fuel generalizing cursor frames tokens with
  | zero => exact nomatch done
  | succ fuel hypothesis =>
    obtain ⟨rfl, rfl⟩ | ⟨_, next, frames', tokens', fueled, moves, goesOn⟩ := tokensFrom_cases done
    · exact ⟨[], (List.append_nil _).symm, fun _ member => nomatch member⟩
    · obtain rfl := Nat.succ.inj fueled
      have skipped (rest : List Char) : IsBehindStart (cursor.skipTo rest).position :=
        behind.foldl
      obtain ⟨more, same, all⟩ := hypothesis (moves.behind (skipped _)) goesOn
      obtain ⟨added, same', here⟩ := moves.places
      refine ⟨added ++ more, by rw [same, same', List.append_assoc], fun place member => ?_⟩
      cases List.mem_append.mp member with
      | inl first => exact here place first ▸ skipped _
      | inr later => exact all place later

/-- The text of a name is the text it was read from. -/
theorem text_of_leaf {here : Cursor} {name : Name} {rest : List Char}
    (found : leaf here = some (.word name, rest)) : name.text = here.textBefore rest := by
  unfold leaf at found
  split at found
  next => exact nomatch Option.some.inj found
  next =>
    split at found
    next =>
      unfold quoted at found
      split at found
      next => exact nomatch found
      next =>
        split at found
        next => exact nomatch Option.some.inj found
        next =>
          obtain ⟨_, _, same⟩ := Option.map_eq_some_iff.mp found
          exact nomatch same
    next => exact nomatch Option.some.inj found
    next =>
      obtain ⟨_, _, same⟩ := Option.map_eq_some_iff.mp found
      cases same
      rfl

/-- Behind a first word, everything stands behind the start. -/
theorem places_behind_word {fuel : Nat} {start : Cursor} {name : Name} {rest : List Token}
    (lined : 1 ≤ start.position.line) (spelled : name.text ≠ "")
    (done : tokensFrom fuel start [] [] = some (.word name :: rest)) :
    ∀ place ∈ Token.placesOf rest, IsBehindStart place := by
  obtain ⟨_, same⟩ | ⟨_, next, frames, tokens, _, moves, goesOn⟩ := tokensFrom_cases done
  · exact nomatch same
  generalize located : start.skipTo _ = here at moves
  have here_lined : 1 ≤ here.position.line := by
    rw [← located]
    exact line_foldl lined
  have stays := outermost_of_tokensFrom goesOn
  -- The one place before everything that is added behind the start is the one of the word.
  have places (first : Position) (only : placesRead frames tokens = [first])
      (behind : IsBehindStart next.position) :
      ∀ place ∈ Token.placesOf rest, IsBehindStart place := by
    obtain ⟨added, same, all⟩ := places_of_tokensFrom behind goesOn
    rw [only] at same
    have rest_added : Token.placesOf rest = added := (List.cons.inj same).2
    rwa [rest_added]
  cases moves with
  | @comment frames tokens comment found =>
    change ((comment.tokens here.position).reverse ++ []) <:+ _ at stays
    rw [List.append_nil, List.reverse_suffix, DocComment.tokens] at stays
    obtain ⟨more, same⟩ := stays
    exact nomatch (List.cons.inj same).1
  | @opening frames tokens delimiter first others opened same =>
    refine places here.position rfl (isBehindStart_foldl_of_ne_nil here_lined ?_)
    rw [same]
    simp
  | @leaf frames tokens token others found =>
    change [token].reverse <:+ _ at stays
    obtain ⟨more, same⟩ := List.reverse_suffix.mp stays
    obtain rfl : token = .word name := (List.cons.inj same).1
    refine places name.position rfl (isBehindStart_foldl_of_ne_nil here_lined fun nothing => ?_)
    rw [text_of_leaf found, Cursor.textBefore, nothing] at spelled
    exact spelled rfl

/-- Behind a first word, no token stands where texts begin. -/
theorem ne_callSite_behind_word {source : String} {name : Name} {rest : List Token}
    (spelled : name.text ≠ "") (lexed : tokens? source = some (.word name :: rest)) :
    ∀ place ∈ Token.placesOf rest, place ≠ .callSite := by
  unfold tokens? at lexed
  dsimp only at lexed
  split at lexed
  · exact fun place member => (places_behind_word (Nat.le_refl 1) spelled lexed place member).2
  · exact fun place member => (places_behind_word (Nat.le_refl 1) spelled lexed place member).2

/-! Groups -/

/-- All open groups have visible delimiters, and no token that was read holds an invisible group. -/
structure ReadsVisibly (frames : List Frame) (tokens : List Token) : Prop where
  opened : ∀ frame ∈ frames, frame.delimiter ≠ .invisible
  before : ∀ frame ∈ frames, Token.areVisible frame.before = true
  tokens : Token.areVisible tokens = true

/-- Only the three visible delimiters open a group. -/
theorem opens_ne_invisible {characters : List Char} {delimiter : Delimiter}
    (opened : opens characters = some delimiter) : delimiter ≠ .invisible := by
  unfold opens at opened
  split at opened
  next =>
    split at opened
    · exact nomatch opened
    · cases opened
      decide
  next =>
    cases opened
    decide
  next =>
    cases opened
    decide
  next => exact nomatch opened

/-- A documentation comment abbreviates an attribute in brackets. -/
theorem areVisible_comment (comment : DocComment) (position : Position) :
    Token.areVisible (comment.tokens position) = true := by
  unfold DocComment.tokens
  cases comment.inside <;> rfl

/-- A token outside of all groups is no group, since it stands at one place alone. -/
theorem isVisible_of_leaf {here : Cursor} {token : Token} {rest : List Char}
    (found : leaf here = some (token, rest)) : token.isVisible = true := by
  have single := places_of_leaf found
  cases token with
  | group delimiter opening closing inner => simp [Token.places] at single
  | word name => rfl
  | mark character joint position => rfl
  | literal text position => rfl
  | lifetime name => rfl

/-- A step reads no invisible group. -/
theorem Moves.readsVisibly {here next : Cursor} {frames frames' : List Frame}
    {tokens tokens' : List Token} (moves : Moves here frames tokens next frames' tokens')
    (visible : ReadsVisibly frames tokens) : ReadsVisibly frames' tokens' := by
  cases moves with
  | @comment frames tokens comment found =>
    refine ⟨visible.opened, visible.before, ?_⟩
    rw [Token.areVisible_append, Token.areVisible_reverse, areVisible_comment, visible.tokens]
    rfl
  | opening opened same =>
    refine ⟨?_, ?_, rfl⟩
    · exact List.forall_mem_cons.mpr ⟨opens_ne_invisible opened, visible.opened⟩
    · exact List.forall_mem_cons.mpr ⟨visible.tokens, visible.before⟩
  | @closing frame outer tokens first rest same =>
    obtain ⟨delimited, opened⟩ := List.forall_mem_cons.mp visible.opened
    obtain ⟨earlier, before⟩ := List.forall_mem_cons.mp visible.before
    have whole : Token.isVisible (.group frame.delimiter frame.opening here.position
        tokens.reverse) = true := by
      rw [Token.isVisible, Token.areVisible_reverse, visible.tokens, Bool.and_true]
      exact bne_iff_ne.mpr delimited
    refine ⟨opened, before, ?_⟩
    rw [Token.areVisible, whole, earlier]
    rfl
  | leaf found =>
    refine ⟨visible.opened, visible.before, ?_⟩
    rw [Token.areVisible, isVisible_of_leaf found, visible.tokens]
    rfl

/-- Reading on adds no invisible group. -/
theorem areVisible_of_tokensFrom {fuel : Nat} {cursor : Cursor} {frames : List Frame}
    {tokens result : List Token} (visible : ReadsVisibly frames tokens)
    (done : tokensFrom fuel cursor frames tokens = some result) :
    Token.areVisible result = true := by
  induction fuel generalizing cursor frames tokens with
  | zero => exact nomatch done
  | succ fuel hypothesis =>
    obtain ⟨rfl, rfl⟩ | ⟨_, next, frames', tokens', fueled, moves, goesOn⟩ := tokensFrom_cases done
    · rw [Token.areVisible_reverse]
      exact visible.tokens
    · obtain rfl := Nat.succ.inj fueled
      exact hypothesis (moves.readsVisibly visible) goesOn

/-- No text holds an invisible group, so nothing that reads the tokens of a text has to look through
one. -/
theorem areVisible_of_tokens? {source : String} {tokens : List Token}
    (lexed : tokens? source = some tokens) : Token.areVisible tokens = true := by
  have nothing : ReadsVisibly [] [] :=
    { opened := fun _ absent => nomatch absent
      before := fun _ absent => nomatch absent
      tokens := rfl }
  exact areVisible_of_tokensFrom nothing lexed

end DataAccess.Lexer
