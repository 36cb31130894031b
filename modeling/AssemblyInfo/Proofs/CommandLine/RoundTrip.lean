import AssemblyInfo.Proofs.CommandLine.Reading
import AssemblyInfo.Proofs.CommandLine.Run
import AssemblyInfo.Proofs.ParseResult.Json
import AssemblyInfo.Proofs.Settings.Mapping
import AssemblyInfo.Proofs.Settings.Precedence
import AssemblyInfo.Proofs.Settings.Save

/-!
# Reading back what a command line has written

One command line writes settings, with overrides, and another reads its output. The second prints a JSON
object in which each field that is set and not blank has its value, and an override prevails over what the
settings file says.
-/

namespace AssemblyInfo
open Text

theorem Settings.isTyped_of_load {session : Session} {path : FilePath} {loaded : Settings}
    (read : load session path = .ok loaded) : loaded.IsTyped := by
  unfold load at read
  obtain ⟨full, -, read⟩ := bind_eq_ok.1 read
  obtain ⟨isFile, -, read⟩ := bind_eq_ok.1 read
  split at read
  · obtain ⟨data, -, read⟩ := bind_eq_ok.1 read
    unfold ofBytes at read
    split at read
    · cases read
    · obtain ⟨root, -, read⟩ := bind_eq_ok.1 read
      unfold ofRoot at read
      split at read
      · obtain ⟨-, rfl⟩ := ofEntries_eq_ok read
        exact isTyped_settled _
      · cases read
  · cases read

namespace CommandLine

/-! ### Overrides -/

/-- `overriding? field` is the parameter that overrides `field`. -/
def overriding? : Field → Option Parameter
  | .version => some .version
  | .fileVersion => some .fileVersion
  | .informationalVersion => some .informationalVersion
  | _ => none

/-- `overridden loaded given?` is `loaded` with the values of parameters in place of its own. -/
def overridden (loaded : Settings) (given? : Parameter → Option String) : Settings :=
  ((loaded.override .version (given? .version)).override .fileVersion (given? .fileVersion)).override
    .informationalVersion (given? .informationalVersion)

/-- `override? given? field` is the override of `field`, if one is given that is not empty. -/
def override? (given? : Parameter → Option String) (field : Field) : Option String :=
  ((overriding? field).bind given?).filter (· ≠ "")

/-- `prevailing? loaded given? field` is the text of `field` after overriding. -/
def prevailing? (loaded : Settings) (given? : Parameter → Option String) (field : Field) : Option String :=
  (override? given? field).or (loaded.value field).text?

variable {loaded : Settings} {given? : Parameter → Option String}

theorem value_overridden (loaded : Settings) (given? : Parameter → Option String) (field : Field) :
    (overridden loaded given?).value field =
      (override? given? field).elim (loaded.value field) .text := by
  unfold overridden override?
  rw [Settings.value_override, Settings.value_override, Settings.value_override]
  cases field <;> simp [overriding?]

theorem declaredValue_overridden {field : Field} {text : String}
    (prevails : prevailing? loaded given? field = some text) (solid : allBlank text.toList = false) :
    (overridden loaded given?).declaredValue field = some text := by
  have held : ((overridden loaded given?).value field).now = .text text := by
    rw [value_overridden]
    unfold prevailing? at prevails
    cases given : override? given? field with
    | some override =>
      rw [given] at prevails
      obtain rfl := Option.some.inj prevails
      rfl
    | none =>
      rw [given] at prevails
      exact Value.text?_eq_some.1 prevails
  unfold Settings.declaredValue
  rw [held]
  simp [solid]

theorem declaredValue_overridden_flag {field : Field} (isFlag : field.isFlag = true) {flag : Bool}
    (held : (loaded.value field).now = .bool flag) :
    (overridden loaded given?).declaredValue field = some (flagText flag) := by
  have unset : override? given? field = none := by
    cases field <;> first | rfl | cases isFlag
  unfold Settings.declaredValue
  rw [value_overridden, unset, Option.elim_none, held]

theorem isTyped_overridden (typed : loaded.IsTyped) : (overridden loaded given?).IsTyped :=
  ((typed.override rfl _).override rfl _).override rfl _

theorem isUnbroken_overridden (unbroken : loaded.IsUnbroken)
    (single : ∀ field text, override? given? field = some text → '\n' ∉ text.toList) :
    (overridden loaded given?).IsUnbroken := by
  have each (field : Field) {parameter : Parameter} (overrides : overriding? field = some parameter) :
      ∀ text, given? parameter = some text → '\n' ∉ text.toList := by
    intro text given
    by_cases empty : text = ""
    · rw [empty]
      decide
    · apply single field
      simp [override?, overrides, given, empty]
  exact ((unbroken.override _ (each .version rfl)).override _ (each .fileVersion rfl)).override _
    (each .informationalVersion rfl)

/-! ### Runs -/

/-- `Completes texts before out after` says that the command line `texts` is read and done: it prints `out`
and turns `before` into `after`. -/
def Completes (texts : List String) (before : Session) (out : String) (after : Session) : Prop :=
  ∃ invocation, Invocation.ofTexts texts = .ok invocation ∧ invocation.perform.run before = (.ok out, after)

theorem run_of_completes {texts : List String} {before after : Session} {out : String}
    (completes : Completes texts before out after) :
    run texts before = (.ok { exit := 0, out, err := after.console }, after) := by
  obtain ⟨invocation, read, done⟩ := completes
  rw [run_of_ok read done, Outcome.printed_reliable]

/-- A command line that ends without a failure is read and done, unless it asks for help. -/
theorem completes_of_run {texts : List String} {before after : Session} {outcome : Outcome}
    (ran : run texts before = (.ok outcome, after)) (exit : outcome.exit = 0)
    (noHelp : ∀ lines, Invocation.ofTexts texts ≠ .error (.help lines)) :
    Completes texts before outcome.out after := by
  cases read : Invocation.ofTexts texts with
  | error stop =>
    rw [run, read] at ran
    dsimp only at ran
    rw [Outcome.printed_reliable] at ran
    obtain ⟨same, -⟩ := Prod.mk.inj ran
    obtain rfl := Except.ok.inj same
    cases stop with
    | help lines => exact absurd read (noHelp lines)
    | misuse program cause => cases exit
  | ok invocation =>
    cases done : invocation.perform.run before with
    | mk result left =>
      cases result with
      | ok out =>
        rw [run_of_ok read done, Outcome.printed_reliable] at ran
        obtain ⟨same, rfl⟩ := Prod.mk.inj ran
        obtain rfl := Except.ok.inj same
        exact ⟨invocation, read, done⟩
      | error fault =>
        rw [run_of_error read done] at ran
        split at ran
        · obtain ⟨same, -⟩ := Prod.mk.inj ran
          obtain rfl := Except.ok.inj same
          cases exit
        · cases ran

/-- `started session` is `session` with the logger of a command line without options. -/
def started (session : Session) : Session :=
  { session with logger := .console (Log.levelFor false) }

theorem run_perform_plain (task : Task) (session : Session) :
    (Invocation.mk false none task).perform.run session = task.perform.run (started session) := by
  have ready : (Invocation.mk false none task).setUp.run session = (.ok ⟨⟩, started session) := by
    rw [started, ← Log.Logger.reset_eq_console session.logger]
    rfl
  rw [Invocation.run_perform, ready]

theorem not_logsTo_started (session : Session) (location : Location) : ¬ (started session).LogsTo location := by
  intro logs
  cases List.mem_singleton.1 logs

theorem load_started (session : Session) (path : FilePath) :
    Settings.load (started session) path = Settings.load session path := rfl

theorem overrideFrom_eq {text? : Option String} (other : text? ≠ some "--") (settings : Settings) (field : Field) :
    overrideFrom settings field text? = settings.override field text? := by
  unfold overrideFrom value?
  cases text? with
  | none => rfl
  | some text =>
    have same : text ≠ "--" := fun dashes => other (congrArg some dashes)
    rw [Option.bind_some, if_neg same]

/-- What is written by a command line is its settings, with its overrides. -/
theorem saved_of_run_create {output config : String} (other : config ≠ "--") {given? : Parameter → Option String}
    (values : ∀ parameter, given? parameter ≠ some "--") {session after : Session} {out : String}
    (read : Settings.load session (.ofString config) = .ok loaded)
    (done : (Task.create output config (given? .version) (given? .fileVersion)
      (given? .informationalVersion)).perform.run session = (.ok out, after)) :
    ∃ full, (Settings.save none (.ofString output) (overridden loaded given?)).run session = (.ok full, after) := by
  have named : requirePath config = .ok (.ofString config) := by
    unfold requirePath value?
    rw [if_neg other]
  have overriding : settings? session config (given? .version) (given? .fileVersion)
      (given? .informationalVersion) = .ok (overridden loaded given?) := by
    rw [settings?, named, ok_bind, read, ok_bind]
    rw [overrideFrom_eq (values _), overrideFrom_eq (values _), overrideFrom_eq (values _)]
    rfl
  rw [run_perform_settings, overriding] at done
  dsimp only at done
  split at done
  · rename_i full left saved
    obtain ⟨-, rfl⟩ := Prod.mk.inj done
    exact ⟨full, saved⟩
  · cases done

theorem mem_of_last? {pairs : List (Parameter × String)} {parameter : Parameter} {text : String}
    (given : Invocation.last? pairs parameter = some text) : (parameter, text) ∈ pairs := by
  obtain ⟨earlier, later, whole, -⟩ := List.lookup_eq_some_iff.1 given
  rw [← List.mem_reverse, whole]
  exact List.mem_append_right _ List.mem_cons_self

theorem completes_parse {output : String}
    (read : Invocation.ofTexts ["parse", output] = .ok ⟨false, none, .parse output⟩) {session : Session}
    {data : List UInt8}
    (holds : ParseResult.HoldsSource (started session) ((started session).placed none (.ofString output)) data) :
    ∃ final, Completes ["parse", output] session
      (String.ofList ((ParseResult.ofBytes (Dialect.ofPath ((started session).placed none (.ofString output)))
        data).toJson.indented 0) ++ "\n") final := by
  have opened : (started session).LogsOpen := Session.logsOpen_console rfl
  have loaded := ParseResult.run_load_of_holdsSource opened holds
  refine ⟨((ParseResult.load none (some (.ofString output))).run (started session)).2, _, read, ?_⟩
  rw [run_perform_plain, Task.perform, Action.run_bind]
  cases ran : (ParseResult.load none (some (.ofString output))).run (started session) with
  | mk outcome final =>
    rw [ran] at loaded
    dsimp only at loaded
    rw [loaded]
    rfl

theorem lookup_members_build {settings : Settings} (typed : settings.IsTyped) (unbroken : settings.IsUnbroken)
    {model : Model} (built : Model.build settings = .ok model) (dialect : Dialect) {field : Field} {text : String}
    (declared : settings.declaredValue field = some text) :
    (ParseResult.ofText dialect (model.render dialect)).members.lookup field.key = some (.text text) := by
  rw [ParseResult.lookup_members, ParseResult.member,
    Settings.value_ofText_build typed unbroken built dialect declared]

/-- What a command line has written is read by another one, which prints what prevails: for each field that
is set and not blank its text, and for each flag that is set its word. -/
theorem run_parse_of_create {output config : String} {pairs : List (Parameter × String)}
    {before after later : Session} {created : Outcome} {loaded : Settings}
    (known : ∀ pair ∈ pairs, pair.1 ∈ Grammar.create.parameters)
    (named : Invocation.last? pairs .config = some config)
    (ran : run ("create" :: output :: pairTexts pairs) before = (.ok created, after)) (exit : created.exit = 0)
    (noHelp : ∀ lines, Invocation.ofTexts ("create" :: output :: pairTexts pairs) ≠ .error (.help lines))
    (read : Settings.load before (.ofString config) = .ok loaded) (unbroken : loaded.IsUnbroken)
    (single : ∀ field text, override? (Invocation.last? pairs) field = some text → '\n' ∉ text.toList)
    (files : later.files = after.files) (directory : later.directory = before.directory) :
    ∃ outcome final members, run ["parse", output] later = (.ok outcome, final) ∧ outcome.exit = 0 ∧
      Json.read? outcome.out = some (.object members) ∧ (members.map Prod.fst).Nodup ∧
      (∀ field text, prevailing? loaded (Invocation.last? pairs) field = some text →
        allBlank text.toList = false → members.lookup field.key = some (.text text)) ∧
      ∀ field flag, field.isFlag = true → (loaded.value field).now = .bool flag →
        members.lookup field.key = some (.text (flagText flag)) := by
  obtain ⟨invocation, understood, done⟩ := completes_of_run ran exit noHelp
  obtain ⟨⟨role, classified⟩, other, plain, values, rfl⟩ := Invocation.ofTexts_create known understood
  have noDashes : ∀ parameter, Invocation.last? pairs parameter ≠ some "--" :=
    fun parameter given => values _ (mem_of_last? given) rfl
  rw [named, run_perform_plain] at done
  obtain ⟨full, saved⟩ := saved_of_run_create (values _ (mem_of_last? named)) noDashes
    ((load_started before _).trans read) done
  obtain ⟨rfl, savedAt⟩ := Settings.savedAt_of_run_save (Session.logsOpen_console rfl) saved
  have sameFiles : (started later).files = after.files := files
  obtain ⟨model, built, holds⟩ :=
    savedAt.holdsSource (not_logsTo_started before _) sameFiles (not_logsTo_started later _)
  -- Where the output is depends on the directory only.
  have placed : (started before).placed none (.ofString output) =
      (started later).placed none (.ofString output) := by
    unfold Session.placed Session.absolute started
    rw [directory]
  rw [placed] at holds
  obtain ⟨final, parsed⟩ := completes_parse (Invocation.ofTexts_parse other classified plain) holds
  rw [Settings.ofBytes_render] at parsed
  have typed : (overridden loaded (Invocation.last? pairs)).IsTyped :=
    isTyped_overridden (Settings.isTyped_of_load read)
  have whole := isUnbroken_overridden unbroken single
  refine ⟨_, final, _, run_of_completes parsed, rfl, ParseResult.read?_printed _,
    ParseResult.nodup_members _, ?_, ?_⟩
  · intro field text prevails solid
    exact lookup_members_build typed whole built _ (declaredValue_overridden prevails solid)
  · intro field flag isFlag held
    exact lookup_members_build typed whole built _ (declaredValue_overridden_flag isFlag held)

/-- A session in a directory with a settings file in which a custom attribute has the name of the title. -/
def twoTitles : Session where
  files :=
    { entries :=
        [(["work", "a.yml"], .file (Encoding.Utf8.encode ("title: First\nversion: '1.5'\n" ++
            "file_version: '1.6'\ncom_visible: true\n" ++
            "custom_attributes:\n- name: AssemblyTitle\n  value: Second\n").toList)),
          (["work"], .directory)] }
  directory := { root := .root, parts := ["work"] }
  home := { root := .root, parts := ["work"] }

/-- Options with a version, and an empty one that overrides nothing. -/
def secondVersion : List (Parameter × String) :=
  [(.version, "2.0"), (.config, "a.yml"), (.fileVersion, "")]

theorem run_parse_of_create_twoTitles :
    ∃ loaded created after outcome final members,
      Settings.load twoTitles (.ofString "a.yml") = .ok loaded ∧ loaded.IsUnbroken ∧
        run ("create" :: "A.cs" :: pairTexts secondVersion) twoTitles = (.ok created, after) ∧
        created.exit = 0 ∧ run ["parse", "A.cs"] after = (.ok outcome, final) ∧ outcome.exit = 0 ∧
        Json.read? outcome.out = some (.object members) ∧
        members.lookup "title" = some (.text "First") ∧ members.lookup "version" = some (.text "2.0") ∧
        members.lookup "file_version" = some (.text "1.6") ∧
        members.lookup "com_visible" = some (.text "true") := by
  let texts : List String := "create" :: "A.cs" :: pairTexts secondVersion
  have noHelp : ∀ lines, Invocation.ofTexts texts ≠ .error (.help lines) := nofun
  have ends : endsIn (fun created after => created.exit = 0 && after.directory = twoTitles.directory)
      (run texts twoTitles) = true := by
    decide +kernel
  obtain ⟨created, after, ran, passed⟩ := exists_ok_of_endsIn ends
  obtain ⟨exit, kept⟩ := (Bool.and_eq_true _ _).mp passed
  have loads : (Settings.load twoTitles (.ofString "a.yml")).toOption.any (fun loaded =>
      decide (loaded.IsUnbroken ∧ loaded.isSet .comVisible = true ∧
        prevailing? loaded (Invocation.last? secondVersion) .title = some "First" ∧
        prevailing? loaded (Invocation.last? secondVersion) .version = some "2.0" ∧
        prevailing? loaded (Invocation.last? secondVersion) .fileVersion = some "1.6")) = true := by
    decide +kernel
  obtain ⟨loaded, read, checked⟩ := exists_ok_of_any loads
  obtain ⟨unbroken, visible, title, version, fileVersion⟩ := of_decide_eq_true checked
  have single : ∀ field text, override? (Invocation.last? secondVersion) field = some text →
      '\n' ∉ text.toList := by
    have all : ∀ field ∈ Field.all, ∀ text ∈ override? (Invocation.last? secondVersion) field,
        '\n' ∉ text.toList := by
      decide
    exact fun field => all field field.mem_all
  obtain ⟨outcome, final, members, parsed, ending, printed, -, given, flags⟩ :=
    run_parse_of_create (by decide) rfl ran (of_decide_eq_true exit) noHelp read unbroken single
      (rfl : after.files = after.files) (of_decide_eq_true kept)
  exact ⟨loaded, created, after, outcome, final, members, read, unbroken, ran, of_decide_eq_true exit,
    parsed, ending, printed, given .title _ title (by decide), given .version _ version (by decide),
    given .fileVersion _ fileVersion (by decide), flags .comVisible true rfl (Settings.now_of_isSet visible)⟩

end CommandLine

end AssemblyInfo
