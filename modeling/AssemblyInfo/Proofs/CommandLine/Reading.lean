import AssemblyInfo.CommandLine.Invocation
import AssemblyInfo.Proofs.Outcome
import Mathlib.Data.List.Basic

/-!
# Reading command lines that write settings

When a command line that names an output and gives every parameter its value in a word of its own is
read, the words are taken for what they stand for: none of them starts an option of its own. So the
same output is understood as the path of a source file as well.
-/

namespace AssemblyInfo.CommandLine

/-! ### Words -/

theorem words_cons {grammar : Grammar} {text : String} {rest : List String} {words : List Word}
    (read : grammar.words (text :: rest) = .ok words) :
    (text = "--" ∧ words = ⟨text, .dashes⟩ :: rest.map fun later => ⟨later, .plain⟩) ∨
      text ≠ "--" ∧ ∃ role more, grammar.role text = .ok role ∧ grammar.words rest = .ok more ∧
        words = ⟨text, role⟩ :: more := by
  rw [Grammar.words] at read
  split at read
  · rename_i dashes
    exact Or.inl ⟨dashes, (Except.ok.inj read).symm⟩
  · rename_i other
    obtain ⟨role, known, read⟩ := bind_eq_ok.1 read
    obtain ⟨more, later, read⟩ := bind_eq_ok.1 read
    exact Or.inr ⟨other, role, more, known, later, (Except.ok.inj read).symm⟩

theorem text_words {grammar : Grammar} {texts : List String} {words : List Word}
    (read : grammar.words texts = .ok words) : words.map Word.text = texts := by
  induction texts generalizing words with
  | nil =>
    obtain rfl := Except.ok.inj read
    rfl
  | cons text rest ih =>
    rcases words_cons read with ⟨rfl, rfl⟩ | ⟨_, role, more, _, later, rfl⟩
    · rw [List.map_cons, List.map_map]
      exact congrArg _ (List.map_id rest)
    · rw [List.map_cons, ih later]

theorem words_cons_of_role {grammar : Grammar} {text : String} (other : text ≠ "--") {role : Role}
    (known : grammar.role text = .ok role) {rest : List String} {more : List Word}
    (later : grammar.words rest = .ok more) : grammar.words (text :: rest) = .ok (⟨text, role⟩ :: more) := by
  rw [Grammar.words, if_neg other, known, later]
  rfl

theorem words_of_role {grammar : Grammar} {text : String} (other : text ≠ "--") {role : Role}
    (known : grammar.role text = .ok role) : grammar.words [text] = .ok [⟨text, role⟩] :=
  words_cons_of_role other known rfl

theorem wordsOf_eq_ok {grammar : Grammar} {texts : List String} {words : List Word} :
    grammar.wordsOf texts = .ok words ↔ grammar.words texts = .ok words := by
  unfold Grammar.wordsOf Grammar.stop
  cases grammar.words texts <;> simp

/-! ### Actions -/

theorem argument_raise {grammar : Grammar} {flags : List Flag} {reading next : Reading}
    (raised : grammar.raise flags reading = .ok next) : next.argument = reading.argument := by
  induction flags generalizing reading with
  | nil =>
    obtain rfl := Except.ok.inj raised
    rfl
  | cons flag rest ih =>
    cases flag with
    | help => cases raised
    | verbose => exact @ih { reading with verbose := true } raised

theorem argument_act {grammar : Grammar} {role : Role} {reading next : Reading}
    (acted : grammar.act role reading = .ok next) : next.argument = reading.argument := by
  unfold Grammar.act at acted
  split at acted
  · exact argument_raise acted
  · split at acted
    · exact argument_raise acted
    · cases acted
  · cases acted
  · obtain rfl := Except.ok.inj acted
    rfl
  · cases acted
  · obtain rfl := Except.ok.inj acted
    rfl
  · obtain rfl := Except.ok.inj acted
    rfl
  · obtain rfl := Except.ok.inj acted
    rfl

theorem read_noValue (grammar : Grammar) (text value : String) (parameter : Parameter) {role : Role}
    (notPlain : role ≠ .plain) (rest : List Word) (reading : Reading) :
    grammar.read (⟨text, .parameter parameter none⟩ :: ⟨value, role⟩ :: rest) reading =
      grammar.stop (.noValue parameter) := by
  cases role with
  | plain => exact absurd rfl notPlain
  | _ => rfl

theorem values_read_plain {grammar : Grammar} {texts : List String} {reading final : Reading}
    (read : grammar.read (texts.map fun text => ⟨text, .plain⟩) reading = .ok final) :
    final.values = reading.values := by
  induction texts generalizing reading with
  | nil =>
    obtain rfl := Except.ok.inj read
    rfl
  | cons text rest ih =>
    rw [List.map_cons, Grammar.read] at read
    · split at read
      · exact @ih (reading.leave text) read
      · exact @ih (reading.take text) read
    · intro other more dashes
      cases rest <;> cases dashes

/-! ### Parameters with their values -/

/-- `pairTexts pairs` is the names of parameters, each with its value after it. -/
def pairTexts (pairs : List (Parameter × String)) : List String :=
  pairs.flatMap fun pair => [pair.1.long, pair.2]

/-- `reading.giveAll pairs` is `reading` with the values of `pairs`. -/
def Reading.giveAll (reading : Reading) (pairs : List (Parameter × String)) : Reading :=
  pairs.foldl (fun reading pair => reading.give pair.1 pair.2) reading

theorem giveAll_eq (reading : Reading) (pairs : List (Parameter × String)) :
    reading.giveAll pairs = { reading with values := pairs.reverse ++ reading.values } := by
  induction pairs generalizing reading with
  | nil => rfl
  | cons pair rest ih =>
    rw [Reading.giveAll, List.foldl_cons]
    refine (ih (reading.give pair.1 pair.2)).trans ?_
    rw [List.reverse_cons, List.append_assoc]
    rfl

theorem role_long {parameter : Parameter} (known : parameter ∈ Grammar.create.parameters) :
    parameter.long ≠ "--" ∧ Grammar.create.role parameter.long = .ok (.parameter parameter none) := by
  have all : ∀ parameter ∈ Grammar.create.parameters, parameter.long ≠ "--" ∧
      Grammar.create.role parameter.long = .ok (.parameter parameter none) := by
    decide +kernel
  exact all parameter known

theorem words_pairTexts_cons {pair : Parameter × String} {rest : List (Parameter × String)}
    (known : pair.1 ∈ Grammar.create.parameters) {words : List Word}
    (classified : Grammar.create.words (pairTexts (pair :: rest)) = .ok words) :
    ∃ more, Grammar.create.words (pair.2 :: pairTexts rest) = .ok more ∧
      words = ⟨pair.1.long, .parameter pair.1 none⟩ :: more := by
  obtain ⟨other, named⟩ := role_long known
  rcases words_cons classified with ⟨dashes, -⟩ | ⟨_, role, more, read, later, rfl⟩
  · exact absurd dashes other
  · rw [named] at read
    obtain rfl := Except.ok.inj read
    exact ⟨more, later, rfl⟩

/-- Parameters that are read take the words after them for their values. -/
theorem read_pairTexts {pairs : List (Parameter × String)}
    (known : ∀ pair ∈ pairs, pair.1 ∈ Grammar.create.parameters) {words : List Word}
    (classified : Grammar.create.words (pairTexts pairs) = .ok words) {reading final : Reading}
    (done : Grammar.create.read words reading = .ok final) :
    (∀ pair ∈ pairs, pair.2 ≠ "--") ∧ final = reading.giveAll pairs := by
  induction pairs generalizing words reading with
  | nil =>
    obtain rfl := Except.ok.inj classified
    exact ⟨List.forall_mem_nil _, (Except.ok.inj done).symm⟩
  | cons pair rest ih =>
    rw [List.forall_mem_cons] at known
    obtain ⟨more, valued, rfl⟩ := words_pairTexts_cons known.1 classified
    rcases words_cons valued with ⟨-, rfl⟩ | ⟨other, role, later, -, read, rfl⟩
    · rw [read_noValue _ _ _ _ (by decide)] at done
      cases done
    · by_cases plain : role = .plain
      · subst plain
        obtain ⟨values, same⟩ := ih known.2 read done
        exact ⟨List.forall_mem_cons.2 ⟨other, values⟩, same⟩
      · rw [read_noValue _ _ _ _ plain] at done
        cases done

theorem argument_giveAll (reading : Reading) (pairs : List (Parameter × String)) :
    (reading.giveAll pairs).argument = reading.argument := by
  rw [giveAll_eq]

/-! ### The output -/

theorem argument_read_of_option {output : String} {role : Role} (option : role ≠ .plain)
    {pairs : List (Parameter × String)} (known : ∀ pair ∈ pairs, pair.1 ∈ Grammar.create.parameters)
    {words : List Word} (classified : Grammar.create.words (pairTexts pairs) = .ok words) {final : Reading}
    (done : Grammar.create.read (⟨output, role⟩ :: words) {} = .ok final) : final.argument = none := by
  have rest {reading : Reading} (free : reading.argument = none)
      (read : Grammar.create.read words reading = .ok final) : final.argument = none := by
    obtain ⟨-, rfl⟩ := read_pairTexts known classified read
    rw [argument_giveAll, free]
  have acted (read : (Grammar.create.act role {} >>= fun next => Grammar.create.read words next) = .ok final) :
      final.argument = none := by
    obtain ⟨next, acted, read⟩ := bind_eq_ok.1 read
    exact rest (argument_act acted) read
  cases role with
  | plain => exact absurd rfl option
  | dashes => exact rest rfl done
  | unknown => exact @rest (Reading.leave {} output) rfl done
  | flag flag => exact acted done
  | bundle flag more => exact acted done
  | valued flag value => exact acted done
  | parameter parameter value =>
    cases value with
    | some value => exact acted done
    | none =>
      cases pairs with
      | nil =>
        obtain rfl := Except.ok.inj classified
        exact acted done
      | cons pair more =>
        -- The word after it is a name, so it has no value.
        obtain ⟨later, -, rfl⟩ := words_pairTexts_cons (known pair List.mem_cons_self) classified
        rw [read_noValue _ _ _ _ (by nofun)] at done
        cases done

theorem missing_eq_nil {grammar : Grammar} {reading : Reading} (complete : grammar.missing reading = []) :
    (∃ argument, reading.argument = some argument) ∧
      ∀ parameter ∈ grammar.required, ∃ value, reading.values.lookup parameter = some value := by
  unfold Grammar.missing at complete
  rw [List.append_eq_nil_iff, List.map_eq_nil_iff, List.filter_eq_nil_iff] at complete
  obtain ⟨argument, required⟩ := complete
  constructor
  · split at argument
    · exact Option.isSome_iff_exists.1 ‹_›
    · cases argument
  · intro parameter member
    have given := required parameter member
    rw [Option.isNone_iff_eq_none] at given
    exact Option.ne_none_iff_exists'.1 given

theorem commandRead_eq_ok {command : Command} {texts : List String} {reading : Reading} :
    command.read texts = .ok reading ↔
      ∃ words, command.grammar.words texts = .ok words ∧ command.grammar.read words {} = .ok reading ∧
        command.grammar.missing reading = [] := by
  unfold Command.read
  constructor
  · intro done
    obtain ⟨words, classified, done⟩ := bind_eq_ok.1 done
    obtain ⟨other, read, done⟩ := bind_eq_ok.1 done
    split at done
    · rename_i complete
      obtain rfl := Except.ok.inj done
      exact ⟨words, wordsOf_eq_ok.1 classified, read, complete⟩
    · cases done
  · rintro ⟨words, classified, read, complete⟩
    refine bind_eq_ok.2 ⟨words, wordsOf_eq_ok.2 classified, bind_eq_ok.2 ⟨reading, read, ?_⟩⟩
    rw [complete]
    rfl

/-- If an output and parameters with their values are all that is read, then each stands for itself. -/
theorem read_create {output : String} {pairs : List (Parameter × String)}
    (known : ∀ pair ∈ pairs, pair.1 ∈ Grammar.create.parameters) {reading : Reading}
    (done : Command.create.read (output :: pairTexts pairs) = .ok reading) :
    output ≠ "--" ∧ Grammar.create.role output = .ok .plain ∧ (∀ pair ∈ pairs, pair.2 ≠ "--") ∧
      reading = Reading.giveAll { argument := some output } pairs := by
  obtain ⟨words, classified, read, complete⟩ := commandRead_eq_ok.1 done
  obtain ⟨⟨argument, taken⟩, required⟩ := missing_eq_nil complete
  rcases words_cons classified with ⟨-, rfl⟩ | ⟨other, role, more, named, later, rfl⟩
  · -- After a pair of dashes no word is a name, so the required parameter is missing.
    obtain ⟨value, given⟩ := required .config List.mem_cons_self
    rw [values_read_plain read] at given
    cases given
  · by_cases plain : role = .plain
    · subst plain
      refine ⟨other, named, ?_⟩
      have read : Grammar.create.read more { argument := some output } = .ok reading := by
        cases pairs with
        | nil =>
          obtain rfl := Except.ok.inj later
          exact read
        | cons pair rest =>
          obtain ⟨_, -, rfl⟩ := words_pairTexts_cons (known pair List.mem_cons_self) later
          exact read
      exact read_pairTexts known later read
    · rw [argument_read_of_option plain known later read] at taken
      cases taken

/-! ### The output as a path to read -/

theorem longRole_parse_of_create {text : String} (plain : Grammar.create.longRole text = .ok .plain) :
    Grammar.parse.longRole text = .ok .plain := by
  -- The names of the command that reads are the first names of the command that writes.
  have names : Grammar.create.names = Grammar.parse.names ++
      Grammar.create.parameters.map fun parameter => (parameter.long, .parameter parameter) := rfl
  unfold Grammar.longRole at plain ⊢
  split at plain
  rename_i name value _
  split at plain
  · rename_i switch _
    cases switch <;> cases value <;> cases plain
  · rename_i unnamed
    unfold Grammar.named? at unnamed ⊢
    rw [names, List.lookup_append, Option.or_eq_none_iff] at unnamed
    rw [unnamed.1]
    dsimp only
    split at plain
    · rename_i unstarted
      unfold Grammar.startingWith at unstarted ⊢
      rw [names, List.filter_append, List.append_eq_nil_iff] at unstarted
      rw [unstarted.1]
      exact plain
    · rename_i switch _
      cases switch <;> cases value <;> cases plain
    · cases plain

theorem role_parse_of_create {text : String} (plain : Grammar.create.role text = .ok .plain) :
    Grammar.parse.role text = .ok .plain := by
  unfold Grammar.role at plain ⊢
  split at plain
  · exact longRole_parse_of_create plain
  · exact plain
  · rfl

theorem readHead_plain (text : String) (rest : List Word) (reading : Reading) :
    readHead (⟨text, .plain⟩ :: rest) reading = .ok (reading, text :: rest.map Word.text) := by
  cases rest <;> rfl

namespace Invocation

/-- `last? pairs parameter` is the value that `pairs` give to `parameter` last. -/
def last? (pairs : List (Parameter × String)) (parameter : Parameter) : Option String :=
  pairs.reverse.lookup parameter

/-- `command.finish reading` is what `command` asks for after `reading`, unless words are left over. -/
def finish (command : Command) (reading : Reading) : Except Stop Invocation :=
  match reading.leftOver.reverse with
  | [] => .ok { verbose := reading.verbose, logFile := none, task := command.task reading }
  | words => Grammar.main.stop (.unrecognized words)

theorem name_command (command : Command) :
    command.name ≠ "--" ∧ Grammar.main.role command.name = .ok .plain ∧
      Command.ofName? command.name = some command := by
  cases command <;> exact ⟨by decide, rfl, rfl⟩

theorem ofTexts_command (command : Command) {arguments : List String} {words : List Word}
    (classified : Grammar.main.words arguments = .ok words) :
    ofTexts (command.name :: arguments) = command.read arguments >>= finish command := by
  obtain ⟨other, plain, named⟩ := name_command command
  have all : Grammar.main.wordsOf (command.name :: arguments) = .ok (⟨command.name, .plain⟩ :: words) :=
    wordsOf_eq_ok.2 (words_cons_of_role other plain classified)
  have head : readHead (⟨command.name, .plain⟩ :: words) {} = .ok ({}, command.name :: arguments) := by
    rw [readHead_plain, text_words classified]
  unfold ofTexts
  rw [all]
  simp only [bind, Except.bind]
  rw [head]
  dsimp only
  rw [named]
  rfl

/-- A command line that names an output and parameters with their values, if it is read at all, asks for
just that. -/
theorem ofTexts_create {output : String} {pairs : List (Parameter × String)}
    (known : ∀ pair ∈ pairs, pair.1 ∈ Grammar.create.parameters) {invocation : Invocation}
    (read : ofTexts ("create" :: output :: pairTexts pairs) = .ok invocation) :
    (∃ role, Grammar.main.role output = .ok role) ∧ output ≠ "--" ∧
      Grammar.create.role output = .ok .plain ∧ (∀ pair ∈ pairs, pair.2 ≠ "--") ∧
      invocation = ⟨false, none, .create output ((last? pairs .config).getD "") (last? pairs .version)
        (last? pairs .fileVersion) (last? pairs .informationalVersion)⟩ := by
  have classified : ∃ words, Grammar.main.words (output :: pairTexts pairs) = .ok words := by
    obtain ⟨words, classified, -⟩ := bind_eq_ok.1 read
    rcases words_cons (wordsOf_eq_ok.1 classified) with ⟨dashes, -⟩ | ⟨-, _, more, -, later, -⟩
    · exact absurd dashes (by decide)
    · exact ⟨more, later⟩
  obtain ⟨words, classified⟩ := classified
  rw [show "create" = Command.create.name from rfl, ofTexts_command .create classified] at read
  obtain ⟨reading, commandRead, finished⟩ := bind_eq_ok.1 read
  obtain ⟨other, plain, values, rfl⟩ := read_create known commandRead
  rw [giveAll_eq, List.append_nil] at finished
  obtain rfl := Except.ok.inj finished
  refine ⟨?_, other, plain, values, rfl⟩
  rcases words_cons classified with ⟨dashes, -⟩ | ⟨-, role, _, known, -, -⟩
  · exact absurd dashes other
  · exact ⟨role, known⟩

/-- The output of a command line that has been read can be read as a source file. -/
theorem ofTexts_parse {output : String} (other : output ≠ "--") {role : Role}
    (known : Grammar.main.role output = .ok role) (plain : Grammar.create.role output = .ok .plain) :
    ofTexts ["parse", output] = .ok ⟨false, none, .parse output⟩ := by
  have words := words_of_role other (role_parse_of_create plain)
  have commandRead : Command.parse.read [output] = .ok { argument := some output } :=
    commandRead_eq_ok.2 ⟨_, words, rfl, rfl⟩
  rw [show "parse" = Command.parse.name from rfl, ofTexts_command .parse (words_of_role other known), commandRead]
  rfl

end Invocation

end AssemblyInfo.CommandLine
