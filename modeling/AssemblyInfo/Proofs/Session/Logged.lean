import AssemblyInfo.Proofs.FileSystem.Place
import AssemblyInfo.Proofs.Session.Run

/-!
# Sessions that grow

Actions keep the current directory and the logger, and take no file or directory away. A log record
changes the console and the log files, and nothing else. Opening a log file adds to the logger, and makes the
file if it is not there.
-/

namespace AssemblyInfo.Session

/-- `session.LogsTo location` says that `session` logs to the file at `location`. -/
def LogsTo (session : Session) (location : Location) : Prop :=
  .file location ∈ session.logger.handlers

/-- All log files of `session` are there. -/
def LogsOpen (session : Session) : Prop :=
  ∀ location, session.LogsTo location → ∃ data, session.files.at? location = some (.file data)

/-- `later` has the setup of `session`, and what was there is there. -/
structure Grown (session later : Session) : Prop where
  directory : later.directory = session.directory
  logger : later.logger = session.logger
  files : session.files.Extends later.files

/-- Log records alone lead from `session` to `later`. -/
structure Logged (session later : Session) : Prop extends Grown session later where
  untouched : ∀ location, ¬ session.LogsTo location →
    later.files.at? location = session.files.at? location

theorem Grown.trans {session next later : Session} (first : session.Grown next)
    (second : next.Grown later) : session.Grown later where
  directory := second.directory.trans first.directory
  logger := second.logger.trans first.logger
  files := first.files.trans second.files

theorem Grown.logsTo_iff {session later : Session} (grown : session.Grown later) (location : Location) :
    later.LogsTo location ↔ session.LogsTo location := by
  unfold LogsTo
  rw [grown.logger]

theorem LogsOpen.of_grown {session later : Session} (opened : session.LogsOpen)
    (grown : session.Grown later) : later.LogsOpen := by
  intro location logs
  obtain ⟨data, held⟩ := opened location ((grown.logsTo_iff location).1 logs)
  exact grown.files.files location data held

/-- The place of a path depends on the current directory only. -/
theorem Grown.placed {session later : Session} (grown : session.Grown later) (base? : Option FilePath)
    (path : FilePath) : later.placed base? path = session.placed base? path := by
  unfold Session.placed absolute
  rw [grown.directory]

theorem Logged.refl (session : Session) : session.Logged session :=
  ⟨⟨rfl, rfl, .refl _⟩, fun _ _ => rfl⟩

theorem Logged.trans {session next later : Session} (first : session.Logged next)
    (second : next.Logged later) : session.Logged later where
  toGrown := first.toGrown.trans second.toGrown
  untouched := by
    intro location other
    have otherNext := mt (first.logsTo_iff location).1 other
    rw [second.untouched location otherNext, first.untouched location other]

/-! ### Log records -/

/-- What holds of a session holds after a log record, if changes of the console and of log files keep it. -/
theorem emit_induction {Holds : Session → Prop} {session : Session} (start : Holds session)
    (console : ∀ state text, Holds state → Holds { state with console := text })
    (file : ∀ state location data, session.LogsTo location → Holds state →
      Holds { state with files := state.files.append location data })
    (record : Log.Record) : Holds (session.emit record) := by
  -- The state changes from handler to handler. Which files they stand for was settled before.
  have each (handlers : List Log.Handler) : ∀ state, handlers ⊆ session.logger.handlers → Holds state →
      Holds (handlers.foldl (fun state handler => state.handle record handler) state) := by
    induction handlers with
    | nil => exact fun _ _ holds => holds
    | cons handler rest ih =>
      intro state within holds
      obtain ⟨member, others⟩ := List.cons_subset.1 within
      apply ih _ others
      cases handler with
      | console => exact console state _ holds
      | file location =>
        unfold handle
        dsimp only
        split
        · exact file state location _ member holds
        · exact console state _ holds
  unfold emit
  split
  · exact start
  · split
    · exact console session _ start
    · exact each _ session (List.Subset.refl _) start

/-- `later` comes from `session` by logging: its files are the same, but for the log files. -/
structure Told (session later : Session) : Prop where
  directory : later.directory = session.directory
  logger : later.logger = session.logger
  files : FileSystem.SameOutside session.LogsTo session.files later.files

theorem Told.logsTo_iff {session later : Session} (told : session.Told later) (location : Location) :
    later.LogsTo location ↔ session.LogsTo location := by
  unfold LogsTo
  rw [told.logger]

theorem told_emit (session : Session) (record : Log.Record) : session.Told (session.emit record) := by
  refine emit_induction ⟨rfl, rfl, .refl _ _⟩ ?_ ?_ record
  · exact fun state text told => ⟨told.directory, told.logger, told.files⟩
  · intro state location data logs told
    exact ⟨told.directory, told.logger, told.files.trans (FileSystem.sameOutside_append state.files logs data)⟩

theorem grown_emit {session : Session} (opened : session.LogsOpen) (record : Log.Record) :
    session.Grown (session.emit record) := by
  refine emit_induction ⟨rfl, rfl, .refl _⟩ ?_ ?_ record
  · exact fun state text grown => ⟨grown.directory, grown.logger, grown.files⟩
  · intro state location data logs grown
    obtain ⟨before, held⟩ := opened.of_grown grown location ((grown.logsTo_iff location).2 logs)
    exact ⟨grown.directory, grown.logger, grown.files.trans (FileSystem.extends_append held data)⟩

theorem logged_emit {session : Session} (opened : session.LogsOpen) (record : Log.Record) :
    session.Logged (session.emit record) :=
  ⟨grown_emit opened record, (told_emit session record).files⟩

/-! ### Actions on files -/

variable {host : Host}

theorem logged_of_run_emit {session later : Session} (opened : session.LogsOpen) {record : Log.Record}
    {answer : Unit} (ran : (Action.emit record).run session host = (.ok answer, later)) :
    session.Logged later := by
  rw [Action.run_emit] at ran
  rw [← (Prod.mk.inj ran).2]
  exact logged_emit opened record

theorem grown_of_run_ensureDirectories {session later : Session} {path : FilePath} {answer : Unit}
    (ran : (Action.changeFiles fun files => files.ensureDirectories path).run session host = (.ok answer, later)) :
    session.Grown later := by
  rw [Action.run_changeFiles] at ran
  rw [← (Prod.mk.inj ran).2]
  exact ⟨rfl, rfl, FileSystem.extends_ensureDirectories session.files path⟩

/-- A file that has been written is where its path leads to, and holds the bytes. -/
theorem of_run_writeFile {session later : Session} {path : FilePath} {data : List UInt8} {answer : Unit}
    (ran : (Action.writeFile path data).run session host = (.ok answer, later)) :
    session.Grown later ∧ path.hasNull = false ∧ later.files.locate path = .ok path.normalized.parts ∧
      later.files.at? path.normalized.parts = some (.file data) := by
  rw [Action.run_writeFile] at ran
  rcases session.files.write_cases host.stop? path data with
    ⟨fault, refused⟩ | ⟨noNull, located, free, ⟨-, wrote⟩ | ⟨count, fault, -, stopped⟩⟩
  · rw [refused] at ran
    cases ran
  · rw [wrote] at ran
    have grown := FileSystem.extends_put_file free data
    rw [← (Prod.mk.inj ran).2]
    exact ⟨⟨rfl, rfl, grown⟩, noNull, FileSystem.locate_of_extends grown located,
      by rw [FileSystem.at?_put free, if_pos rfl]⟩
  · rw [stopped] at ran
    cases ran

/-! ### Setting the logger up -/

theorem logsOpen_console {session : Session} (console : session.logger.handlers = [.console]) :
    session.LogsOpen := by
  intro location logs
  unfold LogsTo at logs
  rw [console] at logs
  cases List.mem_singleton.1 logs

/-- `session.loggingTo location` is `session` when it logs to the file at `location` as well. -/
def loggingTo (session : Session) (location : Location) : Session :=
  { session with
    files := session.files.append location []
    logger := session.logger.add (.file location) }

/-- Opening a log file fails and changes nothing, or the file is there from then on. -/
theorem openLog_cases (path : FilePath) (session : Session) :
    (∃ fault, (Action.openLog path).run session host = (.error fault, session)) ∨
      session.files.at? (session.absolute path).normalized.parts ≠ some .directory ∧
        (Action.openLog path).run session host =
          (.ok (), session.loggingTo (session.absolute path).normalized.parts) := by
  rw [Action.run_openLog]
  cases aimed : session.files.target (session.absolute path).normalized with
  | error fault => exact Or.inl ⟨fault, rfl⟩
  | ok location =>
    obtain ⟨place, -, -, free⟩ := FileSystem.target_ok aimed
    rw [FilePath.normalized_normalized] at place
    subst place
    exact Or.inr ⟨free, rfl⟩

end AssemblyInfo.Session
