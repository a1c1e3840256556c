/-
This file proves that every batch that was read has a header and, for each item, a segment of the
tokens from which the item was read.
-/

import DataAccess.Parse.Layout
import DataAccess.Proofs.Parse.ItemPlaces
import Mathlib.Data.List.Forall2

namespace DataAccess

open DataAccess.Parser

namespace Parser

variable {Result : Type} {parser : Parser Result}

/-- What was read in turn was read from its segments, one behind the other. -/
theorem ReadInTurn.flatten {tokens rest : List Token} {results : List Result}
    {segments : List (List Token)} (turns : ReadInTurn parser tokens results segments rest) :
    tokens = segments.flatten ++ rest := by
  induction turns with
  | done => rfl
  | next read same goesOn hypothesis => rw [same, hypothesis, List.flatten_cons, List.append_assoc]

/-- What is traced of one result holds of each, of its own segment. -/
theorem ReadInTurn.traced {condition : (Position → Prop) → Result → Prop}
    (traces : ∀ known, Traces known parser (condition known)) {tokens rest : List Token}
    {results : List Result} {segments : List (List Token)}
    (turns : ReadInTurn parser tokens results segments rest) :
    List.Forall₂ (fun result segment => ∀ known, Token.AllAt known segment →
      condition known result) results segments := by
  induction turns with
  | done => exact .nil
  | next read same goesOn hypothesis =>
    refine .cons (fun known all => ?_) hypothesis
    obtain ⟨consumed, same', holds⟩ := traces known _ _ _ _ rfl read
    exact holds (List.append_cancel_right (same.symm.trans same') ▸ all)

/-- Every round of a repetition reads one result, or is the last one. -/
theorem repeatFrom_reads [forward : Forward parser] {fuel : Nat} {found results : List Result}
    {stream finished : Stream}
    (done : repeatFrom (do if ← isEmpty then return none else return some (← parser)) fuel found
      stream = .ok (results, finished)) :
    ∃ others segments, results = found.reverse ++ others ∧
      ReadInTurn parser stream.tokens others segments finished.tokens := by
  induction fuel generalizing found stream with
  | zero =>
    cases done
    exact ⟨[], [], (List.append_nil _).symm, .done⟩
  | succ fuel hypothesis =>
    obtain ⟨answer, middle, steps, goesOn⟩ := bind_eq_ok done
    obtain ⟨ended, _, looked, steps⟩ := bind_eq_ok steps
    cases looked
    split at steps
    next =>
      cases steps
      cases goesOn
      exact ⟨[], [], (List.append_nil _).symm, .done⟩
    next =>
      obtain ⟨result, _, read, answered⟩ := bind_eq_ok steps
      cases answered
      obtain ⟨others, segments, same, turns⟩ := hypothesis goesOn
      obtain ⟨segment, consumed⟩ := forward.suffix _ _ _ _ rfl read
      refine ⟨result :: others, segment :: segments, ?_, .next read consumed.symm turns⟩
      rw [same, List.reverse_cons, List.append_assoc, List.singleton_append]

/-- What is read up to the end is read in turn. -/
theorem untilEmpty_reads [Forward parser] {standing : List Token} :
    Answers standing (untilEmpty parser) fun results rest =>
      ∃ segments, ReadInTurn parser standing results segments rest := by
  refine .look fun stream rest results stands done => ?_
  obtain ⟨others, segments, rfl, turns⟩ := repeatFrom_reads done
  exact ⟨segments, stands ▸ turns⟩

end Parser

namespace Parse

variable {known : Position → Prop}

/-- The path in an option stands where it was read. -/
theorem traces_batchOption :
    Traces known batchOption fun option =>
      ∀ literal, option.value = .path literal → known literal.position := by
  have value : Traces known optionValue fun value =>
      ∀ literal, value = .path literal → known literal.position := by
    unfold optionValue
    refine .skip fun _ => .ite ?_ (.skip fun name => .ite ?_ (.ite ?_ .failAt))
    · refine Traces.stringLiteral.bind fun literal => .pure fun at_ other same => ?_
      exact OptionValue.path.inj same ▸ at_
    · exact .pure fun _ same => nomatch same
    · exact .pure fun _ same => nomatch same
  unfold batchOption optionKey
  refine .skip fun key => .skip fun _ => value.bind fun _ => .pure id

/-- The name of a debug file comes from one of the options. -/
theorem debugFile_of_takeFrom {options taken : BatchOptions} {seen : List Name}
    {list : List BatchOption} (took : BatchOptions.takeFrom options seen list = .ok taken)
    (listed : ∀ option ∈ list, ∀ literal, option.value = .path literal → known literal.position)
    (first : ∀ literal ∈ options.debugFile, known literal.position) :
    ∀ literal ∈ taken.debugFile, known literal.position := by
  induction list generalizing options seen with
  | nil =>
    cases took
    exact first
  | cons option rest hypothesis =>
    unfold BatchOptions.takeFrom at took
    split at took
    next => exact nomatch took
    next =>
      split at took
      next changed set =>
        refine hypothesis took (fun other member => listed other (List.mem_cons_of_mem _ member)) ?_
        intro literal named
        unfold BatchOptions.set at set
        split at set
        next =>
          split at set
          next =>
            cases set
            exact first literal named
          next => exact nomatch set
        next =>
          split at set
          next =>
            split at set
            next other valued =>
              cases set
              cases named
              exact listed option (List.mem_cons_self ..) _ valued
            next => exact nomatch set
          next => exact nomatch set
      next => exact nomatch took

/-- The path of a debug file stands where it was read. -/
theorem traces_batchOptions :
    Traces known batchOptions fun options =>
      ∀ literal ∈ options.debugFile, known literal.position := by
  unfold batchOptions
  refine .skip fun _ => .ite ?_ (.pure fun _ member => nomatch member)
  refine (Traces.group (Traces.listUntil traces_batchOption).all).bind fun enclosed => ?_
  split
  next options took =>
    refine .pure fun placed => debugFile_of_takeFrom took (fun option member => ?_)
      fun _ nothing => nomatch nothing
    obtain ⟨separated, listed, rfl⟩ := List.mem_map.mp member
    exact placed.2.2 separated listed
  next => exact fun _ _ _ _ _ done => nomatch done

/-- A batch begins with its keyword, and its items are read in turn behind the header. -/
theorem batch_reads {grammar : Grammar} [Forward grammar.item] {tokens : List Token} :
    Answers tokens (batch grammar) fun batch rest => ∃ position consumed segments,
      tokens = .word ⟨"impl", position⟩ :: consumed ++ segments.flatten ++ rest ∧
        ReadInTurn grammar.item (segments.flatten ++ rest) batch.items segments rest ∧
        ∀ literal ∈ batch.options.debugFile, literal.position ∈ Token.placesOf consumed := by
  unfold batch
  refine .peeked fun _ => ?_
  split
  next =>
    refine Answers.keyword.bind fun position standing same => ?_
    refine .skip fun name behind within => ?_
    have placed (known : Position → Prop) : Traces known batchOptions fun options =>
        ∀ literal ∈ options.debugFile, known literal.position :=
      traces_batchOptions
    refine (Answers.of_traces placed).bind fun options _ passed => ?_
    refine .skip fun _ rest after => ?_
    refine untilEmpty_reads.bind fun items finished ⟨segments, turns⟩ => .pure ?_
    obtain ⟨consumed, rfl, named⟩ := (passed.later after).earlier within
    refine ⟨position, consumed, segments, ?_, turns.flatten ▸ turns, named _ ?_⟩
    · rw [same, turns.flatten, List.cons_append, List.cons_append, List.append_assoc]
    · exact Token.allAt_placesOf consumed
  next => exact fun _ _ _ _ done => nomatch done

/-- Every batch that was read is laid out in a header and a segment for each item. -/
theorem exists_layout {tokens : List Token} {batch : Batch} (parsed : batch? tokens = .ok batch) :
    ∃ header segments, Layout tokens batch header segments := by
  have forward : Forward (grammarFor tokens).item :=
    inferInstanceAs (Forward (item (Parse.grammar (8 * Token.count tokens + 63))))
  unfold batch? run runWithin at parsed
  split at parsed
  next => exact nomatch parsed
  next read finished done =>
    split at parsed
    next => exact nomatch parsed
    next complete =>
      cases parsed
      obtain ⟨position, consumed, segments, same, turns, named⟩ := batch_reads _ _ _ rfl done
      have ended : finished.tokens = [] := by
        obtain ⟨_, nothing⟩ := Option.or_eq_none_iff.mp complete
        exact List.head?_eq_none_iff.mp (Option.map_eq_none_iff.mp nothing)
      rw [ended, List.append_nil] at same turns
      exact ⟨.word ⟨"impl", position⟩ :: consumed, segments, same, ⟨position, rfl⟩, named, turns⟩

end Parse

end DataAccess
