/-
This file proves that the options in the header of a batch are taken as a map: all of them, or none
and the first one that offends is told. What cannot be read as an option is told before that.
-/

import DataAccess.Parse.Header
import DataAccess.Proofs.Parse.Accepts
import DataAccess.Proofs.Parse.Forward
import Mathlib.Data.List.Induction
import Mathlib.Data.List.Nodup

namespace DataAccess

open DataAccess.Parser

namespace BatchOption

variable {before : List BatchOption} {option : BatchOption} {told : List (String × Position)}

/-- An option can be taken behind others, or there is something to tell of it. -/
theorem taken_or_offends (before : List BatchOption) (option : BatchOption) :
    (option.Fits ∧ option.IsNew before) ∨ ∃ told, option.Offends before told := by
  by_cases new : option.IsNew before
  · obtain ⟨key, value⟩ := option
    by_cases isPublic : key.text = "pub"
    · cases value with
      | switch isOn => exact .inl ⟨.isPublic isPublic isOn, new⟩
      | path literal => exact .inr ⟨_, .noSwitch new isPublic rfl⟩
    · by_cases isFile : key.text = "debug_file"
      · cases value with
        | switch isOn => exact .inr ⟨_, .noPath new isFile rfl⟩
        | path literal => exact .inl ⟨.debugFile isFile literal, new⟩
      · exact .inr ⟨_, .unknown new isPublic isFile⟩
  · obtain ⟨earlier, given, same⟩ : ∃ earlier ∈ before, earlier.key.text = option.key.text := by
      simpa [IsNew] using new
    exact .inr ⟨_, .repeated given same⟩

/-- No earlier option has the key of a new one. -/
theorem IsNew.find?_eq_none (new : option.IsNew before) :
    (before.map BatchOption.key).find? (fun earlier => earlier.text == option.key.text) = none := by
  rw [List.find?_eq_none]
  intro name named
  obtain ⟨earlier, given, rfl⟩ := List.mem_map.mp named
  simpa using new earlier given

end BatchOption

namespace BatchOptions

variable {before middle options : List BatchOption} {option : BatchOption}
  {given taken : BatchOptions} {told : List (String × Position)}

section Map

/-- No options are a map. -/
theorem areMap_nil : AreMap [] where
  fit := by simp
  distinct := List.nodup_nil

/-- Options are a map exactly if those in front are one and the last option fits and is new. -/
theorem areMap_concat_iff :
    AreMap (before ++ [option]) ↔ AreMap before ∧ option.Fits ∧ option.IsNew before := by
  constructor
  · rintro ⟨fit, distinct⟩
    rw [List.map_append, List.nodup_append] at distinct
    refine ⟨⟨fun earlier given => fit earlier (List.mem_append_left _ given), distinct.1⟩,
      fit option (List.mem_append_right _ (List.mem_singleton_self option)), ?_⟩
    intro earlier given
    exact distinct.2.2 _ (List.mem_map_of_mem given) _ (List.mem_singleton_self _)
  · rintro ⟨⟨fit, distinct⟩, fits, new⟩
    refine ⟨?_, ?_⟩
    · intro any given
      rcases List.mem_append.mp given with given | given
      · exact fit any given
      · rwa [List.mem_singleton.mp given]
    · rw [List.map_append, List.nodup_append]
      refine ⟨distinct, List.nodup_singleton _, ?_⟩
      intro text given other same
      obtain ⟨earlier, member, rfl⟩ := List.mem_map.mp given
      rw [List.mem_singleton.mp same]
      exact new earlier member

/-- Options in front of others that are a map are one, too. -/
theorem AreMap.front (map : AreMap (before ++ middle)) : AreMap before where
  fit earlier given := map.fit earlier (List.mem_append_left _ given)
  distinct := by
    have distinct := map.distinct
    rw [List.map_append, List.nodup_append] at distinct
    exact distinct.1

/-- Options are a map in whichever order they stand. -/
theorem AreMap.perm (map : AreMap options) {others : List BatchOption}
    (same : options.Perm others) : AreMap others where
  fit option given := map.fit option (same.mem_iff.mpr given)
  distinct := (same.map _).nodup_iff.mp map.distinct

/-- A key is found where it was given. -/
theorem AreMap.find?_eq_some (map : AreMap before) {earlier : BatchOption}
    (member : earlier ∈ before) (same : earlier.key.text = option.key.text) :
    (before.map BatchOption.key).find? (fun name => name.text == option.key.text) =
      some earlier.key := by
  cases found : (before.map BatchOption.key).find? fun name => name.text == option.key.text with
  | none =>
    have different := List.find?_eq_none.mp found _ (List.mem_map_of_mem member)
    exact absurd (beq_iff_eq.mpr same) different
  | some name =>
    obtain ⟨other, given, rfl⟩ := List.mem_map.mp (List.mem_of_find?_eq_some found)
    have named := List.find?_some found
    have equal : other.key.text = earlier.key.text := (eq_of_beq named).trans same.symm
    rw [List.inj_on_of_nodup_map map.distinct given member equal]

/-- Options are a map, or there is a first one of them that cannot be taken. -/
theorem areMap_or_firstOffends (options : List BatchOption) :
    AreMap options ∨ ∃ told, FirstOffends options told := by
  induction options using List.reverseRecOn with
  | nil => exact .inl areMap_nil
  | append_singleton before option hypothesis =>
    rcases hypothesis with map | ⟨told, front, first, after, rfl, map, offends⟩
    · rcases option.taken_or_offends before with ⟨fits, new⟩ | ⟨told, offends⟩
      · exact .inl (areMap_concat_iff.mpr ⟨map, fits, new⟩)
      · exact .inr ⟨told, before, option, [], rfl, map, offends⟩
    · exact .inr ⟨told, front, first, after ++ [option], by simp, map, offends⟩

end Map

section Given

/-- Options give what those in front give or what the last one gives. -/
theorem gives_concat_iff {key : String} {value : OptionValue} :
    Gives (before ++ [option]) key value ↔
      Gives before key value ∨ (option.key.text = key ∧ option.value = value) := by
  simp only [Gives, List.mem_append, List.mem_singleton]
  constructor
  · rintro ⟨one, given | rfl, same⟩
    · exact .inl ⟨one, given, same⟩
    · exact .inr same
  · rintro (⟨one, given, same⟩ | same)
    · exact ⟨one, .inl given, same⟩
    · exact ⟨option, .inr rfl, same⟩

/-- A key that is new is given by no option in front. -/
theorem not_gives_of_isNew (new : option.IsNew before) {key : String}
    (named : option.key.text = key) (value : OptionValue) : ¬ Gives before key value := by
  rintro ⟨earlier, given, same, -⟩
  exact new earlier given (same.trans named.symm)

/-- Without options everything is left as it is by default. -/
theorem areGiven_default : AreGiven [] default where
  isPublic := by simp [default, Gives]
  debugFile := by simp [default, Gives]

/-- The step: an option that can be taken is taken. -/
theorem AreGiven.set (areGiven : AreGiven before given) (fits : option.Fits)
    (new : option.IsNew before) :
    ∃ taken, given.set option = .ok taken ∧ AreGiven (before ++ [option]) taken := by
  cases fits with
  | @isPublic key named isOn =>
    refine ⟨{ given with isPublic := isOn }, by simp [BatchOptions.set, named], ?_, ?_⟩
    · have absent := not_gives_of_isNew new named (.switch true)
      simp [gives_concat_iff, absent, named]
    · intro literal
      simp [gives_concat_iff, named, areGiven.debugFile]
  | @debugFile key named literal =>
    refine ⟨{ given with debugFile := some literal }, by simp [BatchOptions.set, named], ?_, ?_⟩
    · simp [gives_concat_iff, named, areGiven.isPublic]
    · intro other
      have absent := not_gives_of_isNew new named (.path other)
      simp [gives_concat_iff, absent, named]

/-- What is taken is settled by what is given. -/
theorem AreGiven.unique {other : BatchOptions} (first : AreGiven options taken)
    (second : AreGiven options other) : taken = other := by
  have isPublic : taken.isPublic = other.isPublic :=
    Bool.eq_iff_iff.mpr (first.isPublic.trans second.isPublic.symm)
  have debugFile : taken.debugFile = other.debugFile :=
    Option.ext fun literal => (first.debugFile literal).trans (second.debugFile literal).symm
  cases taken
  cases other
  rw [mk.injEq]
  exact ⟨isPublic, debugFile⟩

/-- Options give the same in whichever order they stand. -/
theorem AreGiven.perm (areGiven : AreGiven options taken) {others : List BatchOption}
    (same : options.Perm others) : AreGiven others taken where
  isPublic := by simpa only [Gives, same.mem_iff] using areGiven.isPublic
  debugFile := by simpa only [Gives, same.mem_iff] using areGiven.debugFile

end Given

/-- The run: options that are a map together with those before them are all taken. -/
theorem AreGiven.takeFrom_append (areGiven : AreGiven before given)
    (map : AreMap (before ++ middle)) (rest : List BatchOption) :
    ∃ taken, AreGiven (before ++ middle) taken ∧
      takeFrom given (before.map BatchOption.key) (middle ++ rest) =
        takeFrom taken ((before ++ middle).map BatchOption.key) rest := by
  induction middle generalizing before given with
  | nil => exact ⟨given, by rwa [List.append_nil], by rw [List.append_nil, List.nil_append]⟩
  | cons option middle hypothesis =>
    rw [List.append_cons] at map ⊢
    obtain ⟨-, fits, new⟩ := areMap_concat_iff.mp map.front
    obtain ⟨changed, done, areGiven⟩ := areGiven.set fits new
    obtain ⟨taken, last, run⟩ := hypothesis areGiven map
    refine ⟨taken, last, ?_⟩
    rw [← run, List.cons_append, takeFrom, new.find?_eq_none]
    simp only [done, List.map_append, List.map_cons, List.map_nil]

/-- An option that cannot be set ends the taking with its error. -/
theorem takeFrom_of_error {after : List BatchOption} {error : SyntaxError}
    (new : option.IsNew before) (fails : given.set option = .error error) :
    takeFrom given (before.map BatchOption.key) (option :: after) = .error error := by
  simp only [takeFrom, new.find?_eq_none, fails]

/-- An option that offends is told where it stands. -/
theorem takeFrom_of_offends (given : BatchOptions) (after : List BatchOption) (map : AreMap before)
    (offends : option.Offends before told) : ∃ error,
      takeFrom given (before.map BatchOption.key) (option :: after) = .error error ∧
        error.told = told := by
  cases offends with
  | repeated member same =>
    rw [takeFrom, map.find?_eq_some member same]
    exact ⟨_, rfl, rfl⟩
  | @noSwitch literal new named valued =>
    have fails : given.set option = .error ⟨⟨.switchExpected, literal.position⟩, []⟩ := by
      simp [BatchOptions.set, named, valued]
    exact ⟨_, takeFrom_of_error new fails, rfl⟩
  | noPath new named valued =>
    have fails : given.set option = .error ⟨⟨.pathExpected, option.key.position⟩, []⟩ := by
      simp [BatchOptions.set, named, valued]
    exact ⟨_, takeFrom_of_error new fails, rfl⟩
  | unknown new notPublic notFile =>
    have fails : given.set option =
        .error ⟨⟨.unknownOption option.key.text, option.key.position⟩, []⟩ := by
      simp [BatchOptions.set, notPublic, notFile]
    exact ⟨_, takeFrom_of_error new fails, rfl⟩

/-- Options that are a map are taken. -/
theorem ofList_of_areMap (map : AreMap options) :
    ∃ taken, AreGiven options taken ∧ ofList options = .ok taken := by
  obtain ⟨taken, areGiven, run⟩ := areGiven_default.takeFrom_append map []
  rw [List.append_nil] at run
  exact ⟨taken, areGiven, run⟩

/-- Of others the first one that cannot be taken is told. -/
theorem ofList_of_firstOffends (offends : FirstOffends options told) :
    ∃ error, ofList options = .error error ∧ error.told = told := by
  obtain ⟨before, option, after, rfl, map, offends⟩ := offends
  obtain ⟨taken, -, run⟩ := areGiven_default.takeFrom_append map (option :: after)
  obtain ⟨error, fails, same⟩ := takeFrom_of_offends taken after map offends
  exact ⟨error, run.trans fails, same⟩

end BatchOptions

namespace Parse

section Option

/-- The value of an option is read as it is written. -/
theorem reads_optionValue {value : OptionValue} {tokens : List Token}
    (written : value.IsWritten tokens) : Reads optionValue tokens value := by
  cases written with
  | on position =>
    have free : Text.Identifier.isReserved "on" = false := by decide
    exact .ite_of_not_peek (fun _ => rfl) ((reads_identifier free).bind (.pure _))
  | off position =>
    have free : Text.Identifier.isReserved "off" = false := by decide
    exact .ite_of_not_peek (fun _ => rfl) ((reads_identifier free).bind (.pure _))
  | path spelled =>
    refine .ite_of_peek (fun _ => ?_) ((reads_stringLiteral spelled).map OptionValue.path)
    simp [Peek.stringLiteral, spelled]

/-- The key of an option is read as it is written. -/
theorem reads_optionKey {key : Name} (named : key.IsKey) : Reads optionKey [.word key] key := by
  by_cases isPublic : key.text = "pub"
  · exact .ite_of_peek (fun _ => beq_iff_eq.mpr isPublic) (reads_anyWord key)
  · exact .ite_of_not_peek (fun _ => beq_eq_false_iff_ne.mpr isPublic)
      (reads_identifier (named.resolve_left isPublic))

/-- An option is read as it is written. -/
theorem reads_batchOption {option : BatchOption} {tokens : List Token}
    (written : option.IsWritten tokens) : Reads batchOption tokens option := by
  cases written with
  | assigned named joint position written =>
    exact (reads_optionKey named).bind ((reads_single (by decide) joint position).bind
      ((reads_optionValue written).map _))

/-- What is read as the value of an option was written as one. -/
theorem answers_optionValue (standing : List Token) :
    Answers standing optionValue fun value rest =>
      ∃ tokens, value.IsWritten tokens ∧ standing = tokens ++ rest := by
  refine Answers.peek.bind ?_
  rintro _ _ ⟨rfl, rfl⟩
  split
  · refine Answers.stringLiteral.bind ?_
    rintro literal rest ⟨token, rfl, spelled⟩
    exact .pure ⟨[token], .path spelled, rfl⟩
  · refine Answers.identifier.bind ?_
    rintro ⟨text, position⟩ rest ⟨rfl, -⟩
    split
    next isOn =>
      cases eq_of_beq isOn
      exact .pure ⟨_, .on position, rfl⟩
    next =>
      split
      next isOff =>
        cases eq_of_beq isOff
        exact .pure ⟨_, .off position, rfl⟩
      next => exact .failAt

/-- What is read as the key of an option was written as one. -/
theorem answers_optionKey (standing : List Token) :
    Answers standing optionKey fun key rest => key.IsKey ∧ standing = .word key :: rest := by
  refine Answers.peek.bind ?_
  rintro _ _ ⟨rfl, rfl⟩
  split
  next isPublic =>
    refine Answers.anyWord.imp ?_
    rintro key rest rfl
    exact ⟨.inl (eq_of_beq isPublic), rfl⟩
  next =>
    refine Answers.identifier.imp ?_
    rintro key rest ⟨rfl, free⟩
    exact ⟨.inr free, rfl⟩

/-- What is read as an option was written as one. -/
theorem answers_batchOption (standing : List Token) :
    Answers standing batchOption fun option rest =>
      ∃ tokens, option.IsWritten tokens ∧ standing = tokens ++ rest := by
  refine (answers_optionKey standing).bind ?_
  rintro key _ ⟨named, rfl⟩
  have spelled : "=".toList = ['='] := by decide
  refine (Answers.single spelled).bind ?_
  rintro position _ ⟨joint, rfl⟩
  refine (answers_optionValue _).bind ?_
  rintro value rest ⟨tokens, written, rfl⟩
  exact .pure ⟨_, .assigned named joint position written, rfl⟩

end Option

section Options

variable {options : List BatchOption} {option : BatchOption} {tokens : List Token}
  {error : SyntaxError} {stream inside : Stream}

/-- A written option is at least one token. -/
theorem ne_nil_of_isWritten (written : option.IsWritten tokens) : tokens ≠ [] := by
  cases written
  exact List.cons_ne_nil _ _

/-- The entries of a list of options, and what follows each of them. -/
def optionsFrom : Nat → List (Separated BatchOption) → Parser (List (Separated BatchOption)) :=
  listFrom List.isEmpty "," (fun rest => !rest.isEmpty) batchOption

/-- Options in braces are read with more fuel than there are tokens. -/
theorem terminated_batchOption (stream : Stream) :
    terminated batchOption stream = optionsFrom (stream.tokens.length + 1) [] stream := rfl

/-- Behind the last option nothing more is read. -/
theorem optionsFrom_nil (fuel : Nat) (found : List (Separated BatchOption)) (stream : Stream) :
    optionsFrom (fuel + 1) found { stream with tokens := [] } =
      .ok (found.reverse, { stream with tokens := [] }) := rfl

/-- Where something stands, an option is read and perhaps a comma behind it. -/
theorem optionsFrom_succ (present : tokens ≠ []) (fuel : Nat)
    (found : List (Separated BatchOption)) (stream : Stream) :
    optionsFrom (fuel + 1) found { stream with tokens } = (do
      let option ← batchOption
      if ← peek (fun rest => !rest.isEmpty) then
        let position ← mark ","
        optionsFrom fuel (⟨option, some position⟩ :: found)
      else return (⟨option, none⟩ :: found).reverse : Parser (List (Separated BatchOption)))
        { stream with tokens } := by
  obtain ⟨first, more, rfl⟩ := List.exists_cons_of_ne_nil present
  rfl

/-- An option that cannot be read ends the reading with its error. -/
theorem optionsFrom_of_error (present : tokens ≠ [])
    (fails : batchOption { stream with tokens } = .error error) (fuel : Nat)
    (found : List (Separated BatchOption)) :
    optionsFrom (fuel + 1) found { stream with tokens } = .error error := by
  rw [optionsFrom_succ present]
  exact bind_of_error fails

/-- The last option needs no comma. -/
theorem optionsFrom_last (written : option.IsWritten tokens) (fuel : Nat)
    (found : List (Separated BatchOption)) (stream : Stream) :
    optionsFrom (fuel + 1) found { stream with tokens } =
      .ok ((⟨option, none⟩ :: found).reverse, { stream with tokens := [] }) := by
  rw [optionsFrom_succ (ne_nil_of_isWritten written)]
  exact bind_of_ok (reads_batchOption written _ [] (List.append_nil _).symm)

/-- Behind an option stands a comma or what is not expected. -/
theorem optionsFrom_append (written : option.IsWritten tokens) (next : Token)
    (rest : List Token) (fuel : Nat) (found : List (Separated BatchOption)) (stream : Stream) :
    optionsFrom (fuel + 1) found { stream with tokens := tokens ++ next :: rest } =
      (mark "," >>= fun position => optionsFrom fuel (⟨option, some position⟩ :: found))
        { stream with tokens := next :: rest } := by
  rw [optionsFrom_succ (by simp)]
  exact bind_of_ok (reads_batchOption written _ (next :: rest) rfl)

/-- Behind a comma the next option is read. -/
theorem optionsFrom_next (written : option.IsWritten tokens) (joint : Bool) (position : Position)
    (rest : List Token) (fuel : Nat) (found : List (Separated BatchOption)) (stream : Stream) :
    optionsFrom (fuel + 1) found
        { stream with tokens := tokens ++ .mark ',' joint position :: rest } =
      optionsFrom fuel (⟨option, some position⟩ :: found) { stream with tokens := rest } := by
  rw [optionsFrom_append written]
  exact bind_of_ok (reads_single (by decide) joint position _ rest rfl)

/-- Options as they are written are read in their order. -/
theorem optionsFrom_of_areWritten (written : BatchOptions.AreWritten options tokens) {fuel : Nat}
    (enough : tokens.length < fuel) (found : List (Separated BatchOption)) (stream : Stream) :
    ∃ entries, optionsFrom fuel found { stream with tokens } =
        .ok (entries, { stream with tokens := [] }) ∧
      Separated.entries entries = Separated.entries found.reverse ++ options := by
  induction written generalizing fuel found with
  | none =>
    obtain ⟨fuel, rfl⟩ := Nat.exists_eq_add_one.mpr (Nat.zero_lt_of_lt enough)
    exact ⟨_, optionsFrom_nil fuel found stream, (List.append_nil _).symm⟩
  | last written =>
    obtain ⟨fuel, rfl⟩ := Nat.exists_eq_add_one.mpr (Nat.zero_lt_of_lt enough)
    exact ⟨_, optionsFrom_last written fuel found stream, by simp [Separated.entries]⟩
  | @next option others tokens rest written joint position behind hypothesis =>
    obtain ⟨fuel, rfl⟩ := Nat.exists_eq_add_one.mpr (Nat.zero_lt_of_lt enough)
    rw [List.length_append, List.length_cons] at enough
    have less : rest.length < fuel := by omega
    rw [optionsFrom_next written]
    obtain ⟨entries, read, same⟩ := hypothesis less (⟨option, some position⟩ :: found)
    exact ⟨entries, read, by rw [same]; simp [Separated.entries]⟩

/-- What cannot be read is told, whatever options stand in front of it. -/
theorem optionsFrom_of_cannotBeRead (fails : BatchOptions.CannotBeRead inside tokens error)
    {fuel : Nat} (enough : tokens.length < fuel) (found : List (Separated BatchOption)) :
    optionsFrom fuel found { inside with tokens } = .error error := by
  induction fails generalizing fuel found with
  | option present fails =>
    obtain ⟨fuel, rfl⟩ := Nat.exists_eq_add_one.mpr (Nat.zero_lt_of_lt enough)
    exact optionsFrom_of_error present fails fuel found
  | @comma option tokens rest token written other =>
    obtain ⟨fuel, rfl⟩ := Nat.exists_eq_add_one.mpr (Nat.zero_lt_of_lt enough)
    rw [optionsFrom_append written]
    refine bind_of_error ?_
    have absent : marksFrom ",".toList (token :: rest) = none := by
      cases taken : marksFrom ",".toList (token :: rest) with
      | none => rfl
      | some left =>
        obtain ⟨joint, position, same⟩ := Answers.marksFrom_single taken
        exact absurd (List.cons.inj same).1 (other joint position)
    rw [mark_apply, absent]
    rfl
  | later written joint position behind hypothesis =>
    obtain ⟨fuel, rfl⟩ := Nat.exists_eq_add_one.mpr (Nat.zero_lt_of_lt enough)
    rw [optionsFrom_next written]
    rw [List.length_append, List.length_cons] at enough
    exact hypothesis (by omega) _

/-- Tokens are options, or there is something among them that cannot be read as one. -/
theorem areWritten_or_cannotBeRead (inside : Stream) (tokens : List Token) :
    (∃ options, BatchOptions.AreWritten options tokens) ∨
      ∃ error, BatchOptions.CannotBeRead inside tokens error := by
  by_cases present : tokens = []
  · exact .inl ⟨[], present ▸ .none⟩
  cases answer : batchOption { inside with tokens } with
  | error error => exact .inr ⟨error, .option present answer⟩
  | ok pair =>
    obtain ⟨option, finished⟩ := pair
    obtain ⟨front, written, same⟩ := answers_batchOption tokens _ _ _ rfl answer
    subst same
    cases left : finished.tokens with
    | nil => exact .inl ⟨[option], by rw [List.append_nil]; exact .last written⟩
    | cons token rest =>
      by_cases separated : ∃ joint position, token = .mark ',' joint position
      · obtain ⟨joint, position, rfl⟩ := separated
        rcases areWritten_or_cannotBeRead inside rest with ⟨others, behind⟩ | ⟨error, behind⟩
        · exact .inl ⟨option :: others, .next written joint position behind⟩
        · exact .inr ⟨error, .later written joint position behind⟩
      · exact .inr ⟨_, .comma written fun joint position same =>
          separated ⟨joint, position, same⟩⟩
termination_by tokens.length
decreasing_by
  subst same
  simp [left]
  omega

/-- What cannot be read is not written as options. -/
theorem not_areWritten_of_cannotBeRead (fails : BatchOptions.CannotBeRead inside tokens error) :
    ¬ BatchOptions.AreWritten options tokens := by
  intro written
  obtain ⟨entries, read, -⟩ :=
    optionsFrom_of_areWritten written (Nat.lt_succ_self _) [] inside
  have told := optionsFrom_of_cannotBeRead fails (Nat.lt_succ_self _) []
  exact nomatch told.symm.trans read

end Options

section Block

variable {options others : List BatchOption} {inner other : List Token} {closing : Position}
  {stream : Stream} {told : List (String × Position)} {error : SyntaxError}

/-- The options in braces are read first and taken then. -/
theorem batchOptions_withOptions (stream : Stream) (opening closing : Position)
    (inner rest : List Token) :
    batchOptions (stream.withOptions opening closing inner rest) =
      (group .brace (terminated batchOption) >>= fun enclosed =>
        match BatchOptions.ofList (Separated.entries enclosed.value) with
        | .ok options => return options
        | .error error => throw error : Parser BatchOptions)
        (stream.withOptions opening closing inner rest) := rfl

/-- Options that are read are looked at. -/
theorem batchOptions_of_areWritten (written : BatchOptions.AreWritten options inner)
    (stream : Stream) (opening closing : Position) (rest : List Token) :
    batchOptions (stream.withOptions opening closing inner rest) =
      (match BatchOptions.ofList options with
        | .ok taken => .ok (taken, { stream with tokens := rest })
        | .error error => .error error) := by
  obtain ⟨entries, read, same⟩ := optionsFrom_of_areWritten written (Nat.lt_succ_self _) []
    (stream.endInBraces closing)
  have within : terminated batchOption ⟨inner, closing, some .brace, stream.leftover⟩ =
      .ok (entries, stream.endInBraces closing) := by
    rw [terminated_batchOption]
    exact read
  have enclosed : group .brace (terminated batchOption)
      (stream.withOptions opening closing inner rest) =
        .ok (⟨opening, closing, entries⟩, { stream with tokens := rest }) := by
    have standing : (stream.withOptions opening closing inner rest).tokens =
        .group .brace opening closing inner :: rest := rfl
    rw [group_of_ok standing within]
    simp [Stream.withOptions, Stream.endInBraces, Stream.rest?]
  have listed : Separated.entries entries = options := same
  rw [batchOptions_withOptions, bind_of_ok enclosed, listed]
  cases BatchOptions.ofList options <;> rfl

/-- What cannot be read is told instead of anything about the options in front of it. -/
theorem batchOptions_of_cannotBeRead
    (fails : BatchOptions.CannotBeRead (stream.endInBraces closing) inner error)
    (opening : Position) (rest : List Token) :
    batchOptions (stream.withOptions opening closing inner rest) = .error error := by
  have within : terminated batchOption ⟨inner, closing, some .brace, stream.leftover⟩ =
      .error error := by
    rw [terminated_batchOption]
    exact optionsFrom_of_cannotBeRead fails (Nat.lt_succ_self _) []
  rw [batchOptions_withOptions]
  exact bind_of_error (group_of_error rfl within)

/-- Written options that are a map are taken as they are given. -/
theorem batchOptions_of_areMap (written : BatchOptions.AreWritten options inner)
    (map : BatchOptions.AreMap options) (stream : Stream) (opening closing : Position)
    (rest : List Token) : ∃ taken, BatchOptions.AreGiven options taken ∧
      batchOptions (stream.withOptions opening closing inner rest) =
        .ok (taken, { stream with tokens := rest }) := by
  obtain ⟨taken, areGiven, done⟩ := BatchOptions.ofList_of_areMap map
  exact ⟨taken, areGiven, by rw [batchOptions_of_areWritten written, done]⟩

/-- Of written options the first one that offends is told. -/
theorem batchOptions_of_firstOffends (written : BatchOptions.AreWritten options inner)
    (offends : BatchOptions.FirstOffends options told) (stream : Stream)
    (opening closing : Position) (rest : List Token) : ∃ error,
      batchOptions (stream.withOptions opening closing inner rest) = .error error ∧
        error.told = told := by
  obtain ⟨error, fails, same⟩ := BatchOptions.ofList_of_firstOffends offends
  exact ⟨error, by rw [batchOptions_of_areWritten written, fails], same⟩

/-- Options that are taken were a map. -/
theorem areMap_of_ok (written : BatchOptions.AreWritten options inner) {opening : Position}
    {rest : List Token} {result : BatchOptions × Stream}
    (done : batchOptions (stream.withOptions opening closing inner rest) = .ok result) :
    BatchOptions.AreMap options := by
  rcases BatchOptions.areMap_or_firstOffends options with map | ⟨told, offends⟩
  · exact map
  · obtain ⟨error, fails, -⟩ :=
      batchOptions_of_firstOffends written offends stream opening closing rest
    exact nomatch fails.symm.trans done

/-- What is told where the taking fails is the first option that offends. -/
theorem firstOffends_of_error (written : BatchOptions.AreWritten options inner)
    {opening : Position} {rest : List Token}
    (fails : batchOptions (stream.withOptions opening closing inner rest) = .error error) :
    BatchOptions.FirstOffends options error.told := by
  rcases BatchOptions.areMap_or_firstOffends options with map | ⟨told, offends⟩
  · obtain ⟨taken, -, done⟩ := batchOptions_of_areMap written map stream opening closing rest
    exact nomatch fails.symm.trans done
  · obtain ⟨first, again, rfl⟩ :=
      batchOptions_of_firstOffends written offends stream opening closing rest
    cases fails.symm.trans again
    exact offends

/-- What is taken of options is taken of them in any other order, too. -/
theorem ok_of_perm (same : options.Perm others) (written : BatchOptions.AreWritten options inner)
    (behind : BatchOptions.AreWritten others other) {opening : Position} {rest : List Token}
    {result : BatchOptions × Stream}
    (done : batchOptions (stream.withOptions opening closing inner rest) = .ok result) :
    batchOptions (stream.withOptions opening closing other rest) = .ok result := by
  have map := areMap_of_ok written done
  obtain ⟨taken, areGiven, first⟩ :=
    batchOptions_of_areMap written map stream opening closing rest
  obtain ⟨given, alsoGiven, second⟩ :=
    batchOptions_of_areMap behind (map.perm same) stream opening closing rest
  rw [second, ← done, first, (areGiven.perm same).unique alsoGiven]

end Block

/-- The options of a header are taken as a map. Options between braces, written with a comma
between each two, are taken when each of them has a known key with a value of its kind and no key is
given twice, and then they are what is given, in whatever order. Otherwise the first one that cannot
be taken is told. What is not written as options is told before anything else, wherever it stands
among them. -/
theorem header_options_are_map (stream : Stream) (opening closing : Position) (rest : List Token) :
    (∀ options inner, BatchOptions.AreWritten options inner →
      ((∃ taken left, batchOptions (stream.withOptions opening closing inner rest) =
          .ok (taken, left)) ↔ BatchOptions.AreMap options) ∧
      (∀ taken left, batchOptions (stream.withOptions opening closing inner rest) =
          .ok (taken, left) →
        BatchOptions.AreGiven options taken ∧ left = { stream with tokens := rest }) ∧
      (∀ told, (∃ error, batchOptions (stream.withOptions opening closing inner rest) =
          .error error ∧ error.told = told) ↔ BatchOptions.FirstOffends options told) ∧
      ∀ others other, options.Perm others → BatchOptions.AreWritten others other →
        ∀ result, batchOptions (stream.withOptions opening closing inner rest) = .ok result ↔
          batchOptions (stream.withOptions opening closing other rest) = .ok result) ∧
    (∀ inner error, BatchOptions.CannotBeRead (stream.endInBraces closing) inner error →
      batchOptions (stream.withOptions opening closing inner rest) = .error error) ∧
    ∀ inner, (¬ ∃ options, BatchOptions.AreWritten options inner) ↔
      ∃ error, BatchOptions.CannotBeRead (stream.endInBraces closing) inner error := by
  refine ⟨fun options inner written => ⟨⟨?_, ?_⟩, ?_, fun told => ⟨?_, ?_⟩, ?_⟩, ?_, ?_⟩
  · rintro ⟨taken, left, done⟩
    exact areMap_of_ok written done
  · intro map
    obtain ⟨taken, -, done⟩ := batchOptions_of_areMap written map stream opening closing rest
    exact ⟨taken, _, done⟩
  · intro taken left done
    obtain ⟨given, areGiven, again⟩ :=
      batchOptions_of_areMap written (areMap_of_ok written done) stream opening closing rest
    cases done.symm.trans again
    exact ⟨areGiven, rfl⟩
  · rintro ⟨error, fails, rfl⟩
    exact firstOffends_of_error written fails
  · intro offends
    exact batchOptions_of_firstOffends written offends stream opening closing rest
  · intro others other same behind result
    exact ⟨ok_of_perm same written behind, ok_of_perm same.symm behind written⟩
  · intro inner error fails
    exact batchOptions_of_cannotBeRead fails opening rest
  · intro inner
    constructor
    · intro unwritten
      exact (areWritten_or_cannotBeRead _ inner).resolve_left unwritten
    · rintro ⟨error, fails⟩ ⟨options, written⟩
      exact not_areWritten_of_cannotBeRead fails written

namespace Sample

/-- The option of the sample that makes its module public. -/
def switched : BatchOption :=
  ⟨⟨"pub", ⟨1, 10⟩⟩, .switch true⟩

/-- The option of the sample that repeats the first one with the path of a file. -/
def switchedToFile : BatchOption :=
  ⟨⟨"pub", ⟨1, 20⟩⟩, .path ⟨"\"x\"", ⟨1, 26⟩⟩⟩

/-- `pub = on, pub = "x"` -/
def repeatedSwitch : List Token :=
  [.word ⟨"pub", ⟨1, 10⟩⟩, .mark '=' false ⟨1, 14⟩, .word ⟨"on", ⟨1, 16⟩⟩,
    .mark ',' false ⟨1, 18⟩,
    .word ⟨"pub", ⟨1, 20⟩⟩, .mark '=' false ⟨1, 24⟩, .literal "\"x\"" ⟨1, 26⟩]

/-- The options of the sample are written. -/
theorem areWritten_repeatedSwitch :
    BatchOptions.AreWritten [switched, switchedToFile] repeatedSwitch :=
  .next (.assigned (.inl rfl) false _ (.on _)) false _
    (.last (.assigned (.inl rfl) false _ (.path rfl)))

/-- The second option of the sample offends because the first one has its key. -/
theorem firstOffends_repeatedSwitch : BatchOptions.FirstOffends [switched, switchedToFile]
    [("Option `pub` given twice", ⟨1, 20⟩), ("First given here", ⟨1, 10⟩)] := by
  have map : BatchOptions.AreMap [switched] :=
    ⟨by simpa using .isPublic rfl true, List.nodup_singleton _⟩
  exact ⟨[switched], switchedToFile, [], rfl, map,
    .repeated (List.mem_singleton_self switched) rfl⟩

end Sample

open Sample

/-- A switch that is given again, with a file, is told as given twice. -/
theorem header_options_are_map_of_repetition : ∃ error,
    batchOptions (Stream.withOptions ⟨[], ⟨1, 31⟩, none, none⟩ ⟨1, 8⟩ ⟨1, 29⟩ repeatedSwitch
        [.mark ';' false ⟨1, 30⟩]) = .error error ∧
      error.told = [("Option `pub` given twice", ⟨1, 20⟩), ("First given here", ⟨1, 10⟩)] :=
  (((header_options_are_map ⟨[], ⟨1, 31⟩, none, none⟩ ⟨1, 8⟩ ⟨1, 29⟩ [.mark ';' false ⟨1, 30⟩]).1
    _ _ areWritten_repeatedSwitch).2.2.1 _).mpr firstOffends_repeatedSwitch

end Parse

end DataAccess
