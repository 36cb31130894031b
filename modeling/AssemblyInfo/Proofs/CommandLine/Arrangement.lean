import AssemblyInfo.Proofs.CommandLine.Reading

/-!
# Arrangements of a command line

The output and the options of a command line that writes settings can stand in any order. Both readings of
the words, up to the command and after it, keep a parameter and its value together, so a command line is
read block by block, and what it asks for does not depend on the order of the blocks.
-/

namespace AssemblyInfo.CommandLine

/-- `IsUndashed text` says that `text` does not start with a dash. -/
def IsUndashed (text : String) : Prop :=
  text.toList.head? ≠ some '-'

instance (text : String) : Decidable (IsUndashed text) :=
  inferInstanceAs (Decidable (text.toList.head? ≠ some '-'))

/-- Words of a command line that stay together. -/
inductive Block where
  | argument (text : String)
  /-- A parameter with its value in a word of its own. -/
  | parameter (parameter : Parameter) (value : String)
  | verbose
  deriving DecidableEq, Repr

/-- `naming which` is the role of the name of `which` with its value in the next word. -/
def Role.naming (which : Parameter) : Role :=
  .parameter which none

namespace Block

def texts : Block → List String
  | argument text => [text]
  | parameter which value => [which.long, value]
  | verbose => [Flag.verbose.short]

/-- `block.words role` is the words of `block`, where `role` is the roles of the names of parameters. -/
def words (role : Parameter → Role) : Block → List Word
  | argument text => [⟨text, .plain⟩]
  | parameter which value => [⟨which.long, role which⟩, ⟨value, .plain⟩]
  | verbose => [⟨Flag.verbose.short, .flag .verbose⟩]

def argument? : Block → Option String
  | argument text => some text
  | _ => none

def pair? : Block → Option (Parameter × String)
  | parameter which value => some (which, value)
  | _ => none

def isVerbose : Block → Bool
  | verbose => true
  | _ => false

/-- `block.Fits` says that `block` belongs to a command line that writes settings, and that no text of its
own starts with a dash. -/
def Fits : Block → Prop
  | argument text => IsUndashed text
  | parameter which value => which ∈ Grammar.create.parameters ∧ IsUndashed value
  | verbose => True

end Block

/-! ### Words of blocks -/

theorem IsUndashed.ne_dashes {text : String} (undashed : IsUndashed text) : text ≠ "--" := by
  rintro rfl
  exact undashed rfl

theorem IsUndashed.role {text : String} (undashed : IsUndashed text) (grammar : Grammar) :
    grammar.role text = .ok .plain := by
  unfold Grammar.role
  split
  · rename_i dashed
    exact absurd (congrArg List.head? dashed) undashed
  · rename_i dashed
    exact absurd (congrArg List.head? dashed) undashed
  · rfl

/-- A grammar that gives the names of parameters the roles `role` takes blocks for their words. -/
theorem words_blocks {grammar : Grammar} {role : Parameter → Role}
    (named : ∀ which ∈ Grammar.create.parameters, grammar.role which.long = .ok (role which))
    {blocks : List Block} (fits : ∀ block ∈ blocks, block.Fits) :
    grammar.words (blocks.flatMap Block.texts) = .ok (blocks.flatMap (Block.words role)) := by
  induction blocks with
  | nil => rfl
  | cons block rest ih =>
    rw [List.forall_mem_cons] at fits
    have later := ih fits.2
    rw [List.flatMap_cons, List.flatMap_cons]
    cases block with
    | argument text =>
      have undashed : IsUndashed text := fits.1
      exact words_cons_of_role undashed.ne_dashes (undashed.role grammar) later
    | parameter which value =>
      obtain ⟨known, undashed⟩ : which ∈ Grammar.create.parameters ∧ IsUndashed value := fits.1
      exact words_cons_of_role (role_long known).1 (named which known)
        (words_cons_of_role undashed.ne_dashes (undashed.role grammar) later)
    | verbose => exact words_cons_of_role (by decide) rfl later

theorem words_create_blocks {blocks : List Block} (fits : ∀ block ∈ blocks, block.Fits) :
    Grammar.create.words (blocks.flatMap Block.texts) =
      .ok (blocks.flatMap (Block.words Role.naming)) :=
  words_blocks (fun _ known => (role_long known).2) fits

/-- Up to the command the names of the parameters mean nothing yet. -/
theorem words_main_blocks {blocks : List Block} (fits : ∀ block ∈ blocks, block.Fits) :
    Grammar.main.words (blocks.flatMap Block.texts) =
      .ok (blocks.flatMap (Block.words fun _ => .unknown)) := by
  refine words_blocks ?_ fits
  decide +kernel

/-! ### Reading block by block -/

/-- `reading.put block` is `reading` after `block`. -/
def Reading.put (reading : Reading) : Block → Reading
  | .argument text => reading.take text
  | .parameter which value => reading.give which value
  | .verbose => { reading with verbose := true }

theorem read_plain (grammar : Grammar) (text : String) {rest : List Word} {reading : Reading}
    (free : reading.argument = none) (apart : ∀ word ∈ rest.head?, word.role ≠ .dashes) :
    grammar.read (⟨text, .plain⟩ :: rest) reading = grammar.read rest (reading.take text) := by
  rw [Grammar.read]
  · rw [free]
    rfl
  · rintro other more rfl
    exact apart _ rfl rfl

/-- No block starts with a pair of dashes. -/
theorem role_head_words {role : Parameter → Role} (named : ∀ which, role which ≠ .dashes) (blocks : List Block) :
    ∀ word ∈ (blocks.flatMap (Block.words role)).head?, word.role ≠ .dashes := by
  intro word member
  cases blocks with
  | nil => cases member
  | cons block rest =>
    cases block <;> obtain rfl := Option.some.inj member
    · nofun
    · exact named _
    · nofun

theorem read_block {block : Block} {reading : Reading}
    (free : block.argument?.isSome → reading.argument = none) (rest : List Block) :
    Grammar.create.read ((block :: rest).flatMap (Block.words Role.naming)) reading =
      Grammar.create.read (rest.flatMap (Block.words Role.naming)) (reading.put block) := by
  rw [List.flatMap_cons]
  cases block with
  | argument text =>
    have apart : ∀ which, Role.naming which ≠ .dashes := fun _ => nofun
    exact read_plain _ text (free rfl) (role_head_words apart rest)
  | parameter which value => rfl
  | verbose => rfl

/-- Blocks with one argument at most are read one after the other. -/
theorem read_blocks {blocks : List Block} {reading : Reading}
    (single : (reading.argument.toList ++ blocks.filterMap Block.argument?).length ≤ 1) :
    Grammar.create.read (blocks.flatMap (Block.words Role.naming)) reading =
      .ok (blocks.foldl Reading.put reading) := by
  induction blocks generalizing reading with
  | nil => rfl
  | cons block rest ih =>
    have free : block.argument?.isSome → reading.argument = none := by
      intro given
      obtain ⟨text, given⟩ := Option.isSome_iff_exists.1 given
      rw [List.filterMap_cons_some given, List.length_append, List.length_cons] at single
      cases taken : reading.argument with
      | none => rfl
      | some other =>
        rw [taken, Option.toList_some, List.length_singleton] at single
        omega
    rw [read_block free, List.foldl_cons]
    refine ih ?_
    cases block with
    | argument text =>
      rw [free rfl] at single
      exact single
    | parameter which value => exact single
    | verbose => exact single

/-- What blocks leave: the argument, the values, the last one first, and whether there is a flag. -/
theorem foldl_put (blocks : List Block) (reading : Reading) :
    blocks.foldl Reading.put reading =
      { reading with
        verbose := reading.verbose || blocks.any Block.isVerbose
        argument := (blocks.filterMap Block.argument?).getLast?.or reading.argument
        values := (blocks.filterMap Block.pair?).reverse ++ reading.values } := by
  induction blocks generalizing reading with
  | nil => simp
  | cons block rest ih =>
    rw [List.foldl_cons, ih]
    cases block with
    | argument text =>
      have last : ((Block.argument text :: rest).filterMap Block.argument?).getLast?.or reading.argument =
          (rest.filterMap Block.argument?).getLast?.or (some text) := by
        rw [List.filterMap_cons_some (rfl : (Block.argument text).argument? = some text), List.getLast?_cons]
        cases (rest.filterMap Block.argument?).getLast? <;> rfl
      rw [last]
      rfl
    | parameter which value =>
      rw [List.filterMap_cons_some (rfl : (Block.parameter which value).pair? = some (which, value)),
        List.reverse_cons, List.append_assoc]
      rfl
    | verbose =>
      rw [List.any_cons, show Block.verbose.isVerbose = true from rfl, Bool.true_or, Bool.or_true]
      rfl

/-! ### Orders -/

/-- Under distinct names the order does not matter. -/
theorem lookup_eq_of_perm {α β : Type} [BEq α] [LawfulBEq α] {pairs others : List (α × β)}
    (permuted : pairs.Perm others) (distinct : (pairs.map Prod.fst).Nodup) (name : α) :
    pairs.lookup name = others.lookup name := by
  induction permuted with
  | nil => rfl
  | cons pair _ ih =>
    rw [List.map_cons, List.nodup_cons] at distinct
    rw [List.lookup_cons, List.lookup_cons, ih distinct.2]
  | swap first second rest =>
    rw [List.map_cons, List.map_cons, List.nodup_cons, List.mem_cons, not_or] at distinct
    rw [List.lookup_cons, List.lookup_cons, List.lookup_cons, List.lookup_cons]
    cases here : name == second.1 with
    | false => rfl
    | true =>
      have other : (name == first.1) = false := by
        rw [eq_of_beq here]
        exact beq_eq_false_iff_ne.2 distinct.1.1
      rw [other]
  | trans before _ ihBefore ihAfter =>
    rw [ihBefore distinct, ihAfter ((before.map Prod.fst).nodup_iff.1 distinct)]

theorem missing_create {reading : Reading} {output config : String} (taken : reading.argument = some output)
    (configured : reading.values.lookup .config = some config) : Grammar.create.missing reading = [] := by
  refine List.append_eq_nil_iff.2 ⟨?_, List.map_eq_nil_iff.2 (List.filter_eq_nil_iff.2 ?_)⟩
  · rw [taken]
    rfl
  · intro which required
    obtain rfl := List.mem_singleton.1 required
    rw [configured]
    exact Bool.false_ne_true

/-- Blocks with one argument and the required parameter, none given twice, are read alike in every order. -/
theorem read_arranged {blocks arranged : List Block} (fits : ∀ block ∈ blocks, block.Fits)
    (permuted : arranged.Perm blocks) {output config : String}
    (argument : blocks.filterMap Block.argument? = [output])
    (distinct : ((blocks.filterMap Block.pair?).map Prod.fst).Nodup)
    (configured : (blocks.filterMap Block.pair?).lookup .config = some config) :
    ∃ reading, Command.create.read (arranged.flatMap Block.texts) = .ok reading ∧
      reading.argument = some output ∧ reading.verbose = blocks.any Block.isVerbose ∧ reading.leftOver = [] ∧
      ∀ which, reading.values.lookup which = (blocks.filterMap Block.pair?).lookup which := by
  have classified := words_create_blocks fun block member => fits block (permuted.mem_iff.1 member)
  have taken : arranged.filterMap Block.argument? = [output] := by
    have same := permuted.filterMap Block.argument?
    rw [argument] at same
    exact List.perm_singleton.1 same
  have given : ∀ which, (arranged.filterMap Block.pair?).reverse.lookup which =
      (blocks.filterMap Block.pair?).lookup which := by
    intro which
    have same := (permuted.filterMap Block.pair?).symm.trans (List.reverse_perm _).symm
    exact (lookup_eq_of_perm same distinct which).symm
  have read := @read_blocks arranged {} (by rw [taken]; exact Nat.le_refl 1)
  rw [foldl_put, taken, List.append_nil] at read
  refine ⟨_, commandRead_eq_ok.2 ⟨_, classified, read, ?_⟩, rfl, ?_, rfl, given⟩
  · exact missing_create rfl ((given .config).trans configured)
  · rw [Bool.false_or, permuted.any_eq]

namespace Invocation

/-- `createPairs config …` is the parameters of a command line that writes settings, with their values. -/
def createPairs (config : String) (version fileVersion informationalVersion : Option String) :
    List (Parameter × String) :=
  (.config, config) ::
    ((version.map fun value => (.version, value)).toList ++
      (fileVersion.map fun value => (.fileVersion, value)).toList ++
      (informationalVersion.map fun value => (.informationalVersion, value)).toList)

/-- `createBlocks verbose output pairs` is the blocks of a command line that writes settings. -/
def createBlocks (verbose : Bool) (output : String) (pairs : List (Parameter × String)) : List Block :=
  (if verbose then [.verbose] else []) ++ .argument output :: pairs.map fun pair => .parameter pair.1 pair.2

section Blocks

variable (verbose : Bool) (output : String) (pairs : List (Parameter × String))

theorem argument?_createBlocks :
    (createBlocks verbose output pairs).filterMap Block.argument? = [output] := by
  have none : (pairs.map fun pair => Block.parameter pair.1 pair.2).filterMap Block.argument? = [] := by
    rw [List.filterMap_map]
    exact List.filterMap_eq_nil_iff.2 fun _ _ => rfl
  cases verbose <;> exact congrArg (output :: ·) none

theorem pair?_createBlocks : (createBlocks verbose output pairs).filterMap Block.pair? = pairs := by
  have all : (pairs.map fun pair => Block.parameter pair.1 pair.2).filterMap Block.pair? = pairs := by
    rw [List.filterMap_map]
    exact List.filterMap_some
  cases verbose <;> exact all

theorem isVerbose_createBlocks : (createBlocks verbose output pairs).any Block.isVerbose = verbose := by
  have none : (pairs.map fun pair => Block.parameter pair.1 pair.2).any Block.isVerbose = false := by
    rw [List.any_map]
    exact List.any_eq_false.2 fun _ _ => nofun
  cases verbose
  · exact none
  · rfl

theorem fits_createBlocks {output : String} {pairs : List (Parameter × String)} (undashed : IsUndashed output)
    (known : ∀ pair ∈ pairs, pair.1 ∈ Grammar.create.parameters ∧ IsUndashed pair.2) :
    ∀ block ∈ createBlocks verbose output pairs, block.Fits := by
  intro block member
  rcases List.mem_append.1 member with flag | member
  · cases verbose
    · cases flag
    · obtain rfl := List.mem_singleton.1 flag
      trivial
  · rcases List.mem_cons.1 member with rfl | member
    · exact undashed
    · obtain ⟨pair, given, rfl⟩ := List.mem_map.1 member
      exact known pair given

end Blocks

section Pairs

variable (config : String) (version fileVersion informationalVersion : Option String)

theorem nodup_createPairs :
    ((createPairs config version fileVersion informationalVersion).map Prod.fst).Nodup := by
  have distinct : [Parameter.config, .version, .fileVersion, .informationalVersion].Nodup := by decide
  refine distinct.sublist ?_
  cases version <;> cases fileVersion <;> cases informationalVersion <;> exact List.isSublist_iff_sublist.1 rfl

theorem lookup_createPairs :
    (createPairs config version fileVersion informationalVersion).lookup .config = some config ∧
      (createPairs config version fileVersion informationalVersion).lookup .version = version ∧
      (createPairs config version fileVersion informationalVersion).lookup .fileVersion = fileVersion ∧
      (createPairs config version fileVersion informationalVersion).lookup .informationalVersion =
        informationalVersion := by
  cases version <;> cases fileVersion <;> cases informationalVersion <;> exact ⟨rfl, rfl, rfl, rfl⟩

theorem known_toList {which : Parameter} (known : which ∈ Grammar.create.parameters) {value : Option String}
    (undashed : ∀ text ∈ value, IsUndashed text) :
    ∀ pair ∈ (value.map fun text => (which, text)).toList,
      pair.1 ∈ Grammar.create.parameters ∧ IsUndashed pair.2 := by
  intro pair member
  obtain ⟨text, given, rfl⟩ := Option.map_eq_some_iff.1 (Option.mem_toList.1 member)
  exact ⟨known, undashed text given⟩

theorem known_createPairs {config : String} {version fileVersion informationalVersion : Option String}
    (undashed : ∀ text ∈ config ::
      (version.toList ++ fileVersion.toList ++ informationalVersion.toList), IsUndashed text) :
    ∀ pair ∈ createPairs config version fileVersion informationalVersion,
      pair.1 ∈ Grammar.create.parameters ∧ IsUndashed pair.2 := by
  have known : ∀ which ∈ [Parameter.config, .version, .fileVersion, .informationalVersion],
      which ∈ Grammar.create.parameters := by
    decide
  simp only [List.forall_mem_cons, List.forall_mem_append, Option.mem_toList] at undashed known
  obtain ⟨configUndashed, ⟨versionUndashed, fileUndashed⟩, informationalUndashed⟩ := undashed
  rw [createPairs, List.forall_mem_cons, List.forall_mem_append, List.forall_mem_append]
  exact ⟨⟨known.1, configUndashed⟩, ⟨known_toList known.2.1 versionUndashed, known_toList known.2.2.1 fileUndashed⟩,
    known_toList known.2.2.2.1 informationalUndashed⟩

end Pairs

/-- A flag in front of the command is as good as one after it. -/
theorem ofTexts_verbose_command (command : Command) {arguments : List String} {words : List Word}
    (classified : Grammar.main.words arguments = .ok words) {reading : Reading}
    (read : command.read arguments = .ok reading) (whole : reading.leftOver = []) :
    ofTexts (Flag.verbose.short :: command.name :: arguments) = .ok ⟨true, none, command.task reading⟩ := by
  obtain ⟨other, plain, named⟩ := name_command command
  have all : Grammar.main.wordsOf (Flag.verbose.short :: command.name :: arguments) =
      .ok (⟨Flag.verbose.short, .flag .verbose⟩ :: ⟨command.name, .plain⟩ :: words) :=
    wordsOf_eq_ok.2 (words_cons_of_role (by decide) rfl (words_cons_of_role other plain classified))
  have head : readHead (⟨Flag.verbose.short, .flag .verbose⟩ :: ⟨command.name, .plain⟩ :: words) {} =
      .ok ({ verbose := true }, command.name :: arguments) := by
    rw [← text_words classified]
    exact readHead_plain command.name words { verbose := true }
  unfold ofTexts
  rw [all]
  simp only [bind, Except.bind]
  rw [head]
  dsimp only
  rw [named]
  dsimp only
  rw [read]
  dsimp only
  rw [whole]
  rfl

section Arranged

variable {output config : String} {version fileVersion informationalVersion : Option String}

/-- Up to the command every order of the blocks is understood, and after it all are read alike. -/
theorem read_createBlocks
    (undashed : ∀ text ∈ output :: config ::
      (version.toList ++ fileVersion.toList ++ informationalVersion.toList), IsUndashed text)
    {verbose : Bool} {arranged : List Block}
    (permuted : arranged.Perm
      (createBlocks verbose output (createPairs config version fileVersion informationalVersion))) :
    ∃ words reading, Grammar.main.words (arranged.flatMap Block.texts) = .ok words ∧
      Command.create.read (arranged.flatMap Block.texts) = .ok reading ∧ reading.leftOver = [] ∧
      reading.verbose = verbose ∧
      Command.create.task reading = .create output config version fileVersion informationalVersion := by
  rw [List.forall_mem_cons] at undashed
  have fits := fits_createBlocks verbose undashed.1 (known_createPairs undashed.2)
  have pairs := pair?_createBlocks verbose output (createPairs config version fileVersion informationalVersion)
  obtain ⟨configured, versioned, fileVersioned, informational⟩ :=
    lookup_createPairs config version fileVersion informationalVersion
  obtain ⟨reading, read, taken, flag, whole, given⟩ :=
    read_arranged fits permuted (argument?_createBlocks verbose output _)
      (by rw [pairs]; exact nodup_createPairs config version fileVersion informationalVersion)
      (by rw [pairs]; exact configured)
  rw [pairs] at given
  refine ⟨_, reading, words_main_blocks fun block member => fits block (permuted.mem_iff.1 member), read, whole,
    flag.trans (isVerbose_createBlocks verbose output _), ?_⟩
  unfold Command.task
  dsimp only
  rw [taken, given, given, given, given, configured, versioned, fileVersioned, informational]
  rfl

/-- The order of the words of a command line that writes settings does not matter, as long as each value
follows its name, and neither does on which side of the command the flag stands. -/
theorem ofTexts_arranged
    (undashed : ∀ text ∈ output :: config ::
      (version.toList ++ fileVersion.toList ++ informationalVersion.toList), IsUndashed text) :
    (∀ (verbose : Bool) (arranged : List Block),
      arranged.Perm (createBlocks verbose output (createPairs config version fileVersion informationalVersion)) →
      ofTexts ("create" :: arranged.flatMap Block.texts) =
        .ok ⟨verbose, none, .create output config version fileVersion informationalVersion⟩) ∧
    ∀ arranged : List Block,
      arranged.Perm (createBlocks false output (createPairs config version fileVersion informationalVersion)) →
      ofTexts ("-v" :: "create" :: arranged.flatMap Block.texts) =
        .ok ⟨true, none, .create output config version fileVersion informationalVersion⟩ := by
  constructor
  · intro verbose arranged permuted
    obtain ⟨words, reading, classified, read, whole, flag, task⟩ := read_createBlocks undashed permuted
    refine (ofTexts_command .create classified).trans (bind_eq_ok.2 ⟨reading, read, ?_⟩)
    unfold finish
    rw [whole, flag, task]
    rfl
  · intro arranged permuted
    obtain ⟨words, reading, classified, read, whole, -, task⟩ := read_createBlocks undashed permuted
    rw [← task]
    exact ofTexts_verbose_command .create classified read whole

end Arranged

/-- The flag stands between the settings and the output once, and in front of the command once. -/
theorem ofTexts_arranged_version :
    (∀ text ∈ ["Info.vb", "info.yml", "1.2"], IsUndashed text) ∧
      ofTexts ["create", "--version", "1.2", "-v", "Info.vb", "--config", "info.yml"] =
        .ok ⟨true, none, .create "Info.vb" "info.yml" (some "1.2") none none⟩ ∧
      ofTexts ["-v", "create", "--config", "info.yml", "Info.vb", "--version", "1.2"] =
        .ok ⟨true, none, .create "Info.vb" "info.yml" (some "1.2") none none⟩ := by
  have undashed : ∀ text ∈ ["Info.vb", "info.yml", "1.2"], IsUndashed text := by decide
  have arranged := @ofTexts_arranged "Info.vb" "info.yml" (some "1.2") none none undashed
  refine ⟨undashed, ?_, ?_⟩
  · exact arranged.1 true
      [.parameter .version "1.2", .verbose, .argument "Info.vb", .parameter .config "info.yml"] (by decide)
  · exact arranged.2 [.parameter .config "info.yml", .argument "Info.vb", .parameter .version "1.2"] (by decide)

end Invocation

end AssemblyInfo.CommandLine
