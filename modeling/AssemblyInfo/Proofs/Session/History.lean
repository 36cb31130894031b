import AssemblyInfo.Proofs.Session.Logged

/-!
# Histories of logging

What a history of calls leads to: loggers are set up again and again, perhaps with a file that cannot be
opened, and records are logged in between. The last setup alone decides where a record goes, and each
record goes there once. A log file takes no record with a surrogate, which is reported on the console.
-/

namespace AssemblyInfo

namespace Log

/-- A call of a program. A record is logged at some time. -/
inductive Call where
  | configure (verbose : Bool) (file? : Option FilePath)
  | get (name? : Option Message)
  | log (clock : String) (name? : Option Message) (level : Level) (message : Message)
  deriving DecidableEq, Repr

/-- A record with the time at which it is logged. -/
structure TimedRecord where
  clock : String
  record : Record
  deriving DecidableEq, Repr

namespace Call

def configures : Call → Bool
  | configure .. => true
  | _ => false

/-- `call.timed? level` is what `call` logs, unless `level` keeps it out. -/
def timed? (level : Level) : Call → Option TimedRecord
  | log clock name? other message =>
    if level.admits other then some ⟨clock, loggerName name?, other, message⟩ else none
  | _ => none

end Call

namespace TimedRecord

/-- `timed.fileText?` is the line for `timed` in a file, if a file takes it. -/
def fileText? (timed : TimedRecord) : Option String :=
  (timed.record.fileLine timed.clock).text?

/-- `timed.consoleText report filed` is what the console shows of `timed`: its line, and then `report` if there is
a log file that does not take it. -/
def consoleText (timed : TimedRecord) (report : Record → String) (filed : Bool) : String :=
  timed.record.consoleLine ++ if filed && timed.fileText?.isNone then report timed.record else ""

/-- `timed.fileBytes` are the bytes of `timed` in a file. -/
def fileBytes (timed : TimedRecord) : List UInt8 :=
  timed.fileText?.elim [] fun line => Encoding.Utf8.encode line.toList

end TimedRecord

def consoleText (report : Record → String) (filed : Bool) (records : List TimedRecord) : String :=
  String.join (records.map fun timed => timed.consoleText report filed)

def fileBytes (records : List TimedRecord) : List UInt8 :=
  records.flatMap TimedRecord.fileBytes

/-! ### Records that a file takes -/

namespace Message

theorem text?_eq_none {message : Message} :
    message.text? = none ↔ ∃ number, Symbol.surrogate number ∈ message := by
  unfold text?
  rw [Option.map_eq_none_iff]
  induction message with
  | nil => simp
  | cons symbol rest ih =>
    cases symbol with
    | surrogate number => exact iff_of_true rfl ⟨number, List.mem_cons_self⟩
    | char c =>
      have first : (.char c :: rest).mapM Symbol.char? = (rest.mapM Symbol.char?).map (c :: ·) := by
        rw [List.mapM_cons]
        cases rest.mapM Symbol.char? <;> rfl
      rw [first, Option.map_eq_none_iff, ih]
      simp

theorem not_surrogate_mem_ofString (text : String) (number : Fin 0x800) :
    Symbol.surrogate number ∉ ofString text := by
  simp [ofString]

end Message

/-- A file takes each record without surrogates. -/
theorem TimedRecord.fileText?_eq_none (timed : TimedRecord) :
    timed.fileText? = none ↔
      ∃ number, Symbol.surrogate number ∈ timed.record.logger ++ timed.record.message := by
  unfold fileText? Record.fileLine
  rw [Message.text?_eq_none]
  simp [Message.not_surrogate_mem_ofString]

end Log

namespace Session

def call (session : Session) : Log.Call → Session
  | .configure verbose file? => ((Action.configureLog verbose file?).run session).2
  | .get _ => session
  | .log clock name? level message => { session with clock }.emit ⟨Log.loggerName name?, level, message⟩

def callAll (session : Session) (calls : List Log.Call) : Session :=
  calls.foldl call session

/-- `session.logFile? verbose file?` is the place of the log file if the logger is set up with `file?`, unless
that fails. -/
def logFile? (session : Session) (verbose : Bool) (file? : Option FilePath) : Option Location :=
  match ((Action.configureLog verbose file?).run session).1 with
  | .ok _ => file?.map fun path => (session.absolute path).normalized.parts
  | .error _ => none

/-- The logger of `session` keeps records from `level` on, and sends them to the console, to the file at
`current?` if that is a place, and nowhere else. -/
structure SetUp (session : Session) (level : Log.Level) (current? : Option Location) : Prop where
  logger : session.logger =
    { level := some level, propagates := false, handlers := .console :: (current?.map .file).toList }
  opened : ∀ location ∈ current?, ∃ data, session.files.at? location = some (.file data)

/-- From `session` to `later`, `records` have been written to the console and, as far as a file takes them, to the
file at `current?`, once each and in this order. Apart from reports nothing else has been written anywhere. -/
structure Written (session : Session) (current? : Option Location) (records : List Log.TimedRecord)
    (later : Session) : Prop where
  console : later.console = session.console ++ Log.consoleText session.report current?.isSome records
  report : later.report = session.report
  current : ∀ location ∈ current?,
    later.files.at? location = some (.file (session.files.bytesAt location ++ Log.fileBytes records))
  others : ∀ location, location ∉ current? → later.files.at? location = session.files.at? location

variable {session next later : Session} {level : Log.Level} {current? : Option Location}

theorem Written.trans {first second : List Log.TimedRecord} (start : session.Written current? first next)
    (rest : next.Written current? second later) : session.Written current? (first ++ second) later where
  console := by
    rw [rest.console, start.console, start.report]
    simp [Log.consoleText, String.join_append, String.append_assoc]
  report := rest.report.trans start.report
  current := by
    intro location here
    have between : next.files.bytesAt location = session.files.bytesAt location ++ Log.fileBytes first := by
      rw [FileSystem.bytesAt, start.current location here]
    rw [rest.current location here, between]
    simp [Log.fileBytes]
  others := by
    intro location elsewhere
    rw [rest.others location elsewhere, start.others location elsewhere]

/-! ### Records -/

theorem SetUp.written_nil (setUp : session.SetUp level current?) (clock : String) :
    session.Written current? [] { session with clock } where
  console := String.append_empty.symm
  report := rfl
  current := by
    intro location here
    obtain ⟨data, held⟩ := setUp.opened location here
    simp [held, FileSystem.bytesAt, Log.fileBytes]
  others := fun _ _ => rfl

/-- A record goes to the log file if the file takes it. -/
theorem handle_file_of_some {record : Log.Record} {line : String}
    (taken : (Log.TimedRecord.mk session.clock record).fileText? = some line) (location : Location) :
    session.handle record (.file location) =
      { session with files := session.files.append location (Encoding.Utf8.encode line.toList) } := by
  unfold Log.TimedRecord.fileText? at taken
  dsimp only at taken
  simp only [handle, taken]

/-- A record that the log file does not take is reported. -/
theorem handle_file_of_none {record : Log.Record}
    (refused : (Log.TimedRecord.mk session.clock record).fileText? = none) (location : Location) :
    session.handle record (.file location) =
      { session with console := session.console ++ session.report record } := by
  unfold Log.TimedRecord.fileText? at refused
  dsimp only at refused
  simp only [handle, refused]

theorem SetUp.of_unfiled (setUp : session.SetUp level current?) (record : Log.Record)
    (unfiled : ∀ location ∈ current?, (Log.TimedRecord.mk session.clock record).fileText? = none) {text : String}
    (shown : (Log.TimedRecord.mk session.clock record).consoleText session.report current?.isSome = text) :
    { session with console := session.console ++ text }.SetUp level current? ∧
      session.Written current? [⟨session.clock, record⟩] { session with console := session.console ++ text } := by
  refine ⟨⟨setUp.logger, setUp.opened⟩, ?_, rfl, ?_, fun _ _ => rfl⟩
  · simp [Log.consoleText, shown]
  · intro location here
    obtain ⟨data, held⟩ := setUp.opened location here
    simp [held, FileSystem.bytesAt, Log.fileBytes, Log.TimedRecord.fileBytes, unfiled location here]

theorem SetUp.of_filed {location : Location} (setUp : session.SetUp level (some location)) (record : Log.Record)
    {line : String} (taken : (Log.TimedRecord.mk session.clock record).fileText? = some line) {later : Session}
    (filed : later =
      { session with
        console := session.console ++ record.consoleLine
        files := session.files.append location (Encoding.Utf8.encode line.toList) }) :
    later.SetUp level (some location) ∧ session.Written (some location) [⟨session.clock, record⟩] later := by
  obtain ⟨data, held⟩ := setUp.opened location rfl
  have here := (FileSystem.at?_append held (Encoding.Utf8.encode line.toList) location).trans (if_pos rfl)
  rw [filed]
  refine ⟨⟨setUp.logger, ?_⟩, ?_, rfl, ?_, ?_⟩
  · intro place same
    obtain rfl := Option.some.inj same
    exact ⟨_, here⟩
  · simp [Log.consoleText, Log.TimedRecord.consoleText, taken]
  · intro place same
    obtain rfl := Option.some.inj same
    rw [here]
    simp [held, FileSystem.bytesAt, Log.fileBytes, Log.TimedRecord.fileBytes, taken]
  · intro place elsewhere
    have different : place ≠ location := by
      rintro rfl
      exact elsewhere rfl
    exact (FileSystem.at?_append held _ place).trans (if_neg different)

/-- A record that the level admits is written once to each place. -/
theorem SetUp.emit_admitted (setUp : session.SetUp level current?) (record : Log.Record)
    (admitted : level.admits record.level = true) :
    (session.emit record).SetUp level current? ∧
      session.Written current? [⟨session.clock, record⟩] (session.emit record) := by
  have emitted : session.emit record =
      (current?.map .file).toList.foldl (fun state handler => state.handle record handler)
        (session.handle record .console) := by
    unfold emit Log.Logger.admits
    rw [setUp.logger]
    simp [admitted]
  cases current? with
  | none =>
    rw [emitted]
    exact setUp.of_unfiled record (by rintro _ ⟨⟩) String.append_empty
  | some location =>
    have each : session.emit record = (session.handle record .console).handle record (.file location) := emitted
    cases taken : (Log.TimedRecord.mk session.clock record).fileText? with
    | none =>
      have reported : session.emit record =
          { session with console := session.console ++ (record.consoleLine ++ session.report record) } := by
        rw [each, @handle_file_of_none (session.handle record .console) record taken location, handle,
          String.append_assoc]
      rw [reported]
      exact setUp.of_unfiled record (fun _ _ => taken) (by simp [Log.TimedRecord.consoleText, taken])
    | some line =>
      exact setUp.of_filed record taken
        (each.trans (@handle_file_of_some (session.handle record .console) record line taken location))

theorem SetUp.call (setUp : session.SetUp level current?) {call : Log.Call} (silent : call.configures = false) :
    (session.call call).SetUp level current? ∧
      session.Written current? (call.timed? level).toList (session.call call) := by
  cases call with
  | configure verbose file? => cases silent
  | get name? => exact ⟨setUp, setUp.written_nil session.clock⟩
  | log clock name? other message =>
    have timed : { session with clock }.SetUp level current? := ⟨setUp.logger, setUp.opened⟩
    by_cases admitted : level.admits other = true
    · have each := timed.emit_admitted ⟨Log.loggerName name?, other, message⟩ admitted
      rw [Log.Call.timed?, if_pos admitted]
      exact ⟨each.1, each.2.console, each.2.report, each.2.current, each.2.others⟩
    -- The time passes all the same.
    · have still : session.call (.log clock name? other message) = { session with clock } := by
        unfold Session.call emit Log.Logger.admits
        rw [timed.logger]
        simp [admitted]
      rw [Log.Call.timed?, if_neg admitted, still]
      exact ⟨timed, setUp.written_nil clock⟩

theorem SetUp.callAll (setUp : session.SetUp level current?) {calls : List Log.Call}
    (silent : ∀ call ∈ calls, call.configures = false) :
    (session.callAll calls).SetUp level current? ∧
      session.Written current? (calls.filterMap (Log.Call.timed? level)) (session.callAll calls) := by
  induction calls generalizing session with
  | nil => exact ⟨setUp, setUp.written_nil session.clock⟩
  | cons call rest ih =>
    obtain ⟨between, first⟩ := setUp.call (silent call List.mem_cons_self)
    obtain ⟨last, later⟩ := ih between fun other member => silent other (List.mem_cons_of_mem _ member)
    have records : (call :: rest).filterMap (Log.Call.timed? level) =
        (call.timed? level).toList ++ rest.filterMap (Log.Call.timed? level) := by
      cases found : call.timed? level <;> simp [found]
    rw [records]
    exact ⟨last, first.trans later⟩

/-! ### Setting the logger up -/

theorem call_configure_cases (session : Session) (verbose : Bool) (file? : Option FilePath) :
    session.logFile? verbose file? = none ∧
        session.call (.configure verbose file?) = { session with logger := .console (Log.levelFor verbose) } ∨
      ∃ location, session.logFile? verbose file? = some location ∧
        session.files.at? location ≠ some .directory ∧
        session.call (.configure verbose file?) =
          loggingTo { session with logger := .console (Log.levelFor verbose) } location := by
  unfold logFile? Session.call
  dsimp only
  rw [Action.run_configureLog]
  cases file? with
  | none => exact Or.inl ⟨rfl, rfl⟩
  | some path =>
    dsimp only
    rcases openLog_cases path { session with logger := .console (Log.levelFor verbose) } with
      ⟨fault, failed⟩ | ⟨free, opened⟩
    · rw [failed]
      exact Or.inl ⟨rfl, rfl⟩
    · rw [opened]
      exact Or.inr ⟨_, rfl, free, rfl⟩

/-- The setup before does not matter, and nothing is written yet. -/
theorem setUp_configure (session : Session) (verbose : Bool) (file? : Option FilePath) :
    (session.call (.configure verbose file?)).SetUp (Log.levelFor verbose) (session.logFile? verbose file?) ∧
      session.Written (session.logFile? verbose file?) [] (session.call (.configure verbose file?)) := by
  rcases call_configure_cases session verbose file? with ⟨none, plain⟩ | ⟨location, given, free, opened⟩
  · rw [none, plain]
    refine ⟨⟨rfl, ?_⟩, String.append_empty.symm, rfl, ?_, fun _ _ => rfl⟩
    · rintro location ⟨⟩
    · rintro location ⟨⟩
  · have here := FileSystem.at?_append_nil free
    rw [given, opened]
    refine ⟨⟨rfl, ?_⟩, String.append_empty.symm, rfl, ?_, ?_⟩
    · intro place same
      obtain rfl := Option.some.inj same
      exact ⟨_, here⟩
    · intro place same
      obtain rfl := Option.some.inj same
      exact here.trans (by simp [Log.fileBytes])
    · intro place elsewhere
      have member : location ∈ some location := rfl
      have same : FileSystem.SameOutside (· ∈ some location) session.files (session.files.append location []) :=
        FileSystem.sameOutside_append session.files member []
      exact same place elsewhere

theorem SetUp.logsOpen (setUp : session.SetUp level current?) : session.LogsOpen := by
  intro location logs
  unfold LogsTo at logs
  rw [setUp.logger] at logs
  cases current? with
  | none => cases List.mem_singleton.1 logs
  | some place =>
    have file : Log.Handler.file location = .file place := by
      simpa using logs
    obtain rfl := Log.Handler.file.inj file
    exact setUp.opened location rfl

/-- A logger that has been set up has its log file there, or has none. -/
theorem logsOpen_configureLog (session : Session) (verbose : Bool) (file? : Option FilePath) :
    ((Action.configureLog verbose file?).run session).2.LogsOpen :=
  (setUp_configure session verbose file?).1.logsOpen

/-! ### Histories -/

theorem callAll_append (session : Session) (earlier rest : List Log.Call) :
    session.callAll (earlier ++ rest) = (session.callAll earlier).callAll rest :=
  List.foldl_append

theorem exists_last_configure {calls : List Log.Call} (configured : ∃ call ∈ calls, call.configures = true) :
    ∃ earlier verbose file? rest, calls = earlier ++ .configure verbose file? :: rest ∧
      ∀ call ∈ rest, call.configures = false := by
  induction calls with
  | nil =>
    obtain ⟨call, member, -⟩ := configured
    cases member
  | cons first calls ih =>
    by_cases again : ∃ call ∈ calls, call.configures = true
    · obtain ⟨earlier, verbose, file?, rest, rfl, silent⟩ := ih again
      exact ⟨first :: earlier, verbose, file?, rest, rfl, silent⟩
    · have silent : ∀ call ∈ calls, call.configures = false := by
        intro call member
        apply Bool.eq_false_iff.2
        intro configures
        exact again ⟨call, member, configures⟩
      obtain ⟨call, member, configures⟩ := configured
      rcases List.mem_cons.1 member with rfl | later
      · cases call with
        | configure verbose file? => exact ⟨[], verbose, file?, calls, rfl, silent⟩
        | get name? => cases configures
        | log clock name? level message => cases configures
      · exact absurd ⟨call, later, configures⟩ again

/-- Once the logger has been set up, there is a last setup. The logger is as that setup makes it, and each
record after it has been written once to the console and to the log file, if a file takes it, and to no other
place. A file takes each record without surrogates. -/
theorem callAll_configure (session : Session) :
    (∀ calls : List Log.Call, (∃ call ∈ calls, call.configures = true) →
      ∃ earlier verbose file? rest, calls = earlier ++ .configure verbose file? :: rest ∧
        ∀ call ∈ rest, call.configures = false) ∧
    (∀ (earlier rest : List Log.Call) (verbose : Bool) (file? : Option FilePath),
      (∀ call ∈ rest, call.configures = false) →
        (session.callAll (earlier ++ .configure verbose file? :: rest)).SetUp (Log.levelFor verbose)
            ((session.callAll earlier).logFile? verbose file?) ∧
          (session.callAll earlier).Written ((session.callAll earlier).logFile? verbose file?)
            (rest.filterMap (Log.Call.timed? (Log.levelFor verbose)))
            (session.callAll (earlier ++ .configure verbose file? :: rest))) ∧
    ∀ timed : Log.TimedRecord, timed.fileText? = none ↔
      ∃ number, Log.Symbol.surrogate number ∈ timed.record.logger ++ timed.record.message := by
  refine ⟨fun calls => exists_last_configure, ?_, Log.TimedRecord.fileText?_eq_none⟩
  intro earlier rest verbose file? silent
  obtain ⟨ready, opened⟩ := setUp_configure (session.callAll earlier) verbose file?
  obtain ⟨setUp, written⟩ := ready.callAll silent
  rw [callAll_append]
  exact ⟨setUp, opened.trans written⟩

/-- A session in an empty root directory. -/
def unlogged : Session where
  directory := { root := .root, parts := [] }
  home := { root := .root, parts := [] }

/-- A history with a log file, and then with one that cannot be opened. -/
def firstCalls : List Log.Call :=
  [.log "09:00" none .error "lost", .configure true (some (.ofString "a.log")),
    .log "09:01" (some "cli") .debug "first", .configure true (some (.ofString "..")),
    .log "09:02" (some "cli") .debug "second"]

def lastCalls : List Log.Call :=
  [.log "09:03" (some "cli") .debug "third", .get (some "parser"), .log "09:04" none .error "fourth"]

theorem callAll_configure_anew :
    (∀ call ∈ lastCalls, call.configures = false) ∧
      (unlogged.callAll (firstCalls ++ .configure false (some (.ofString "b.log")) :: lastCalls)).SetUp
        .info (some ["b.log"]) ∧
      (unlogged.callAll firstCalls).Written (some ["b.log"]) [⟨"09:04", "asminfo", .error, "fourth"⟩]
        (unlogged.callAll (firstCalls ++ .configure false (some (.ofString "b.log")) :: lastCalls)) ∧
      (unlogged.callAll firstCalls).console = "lost\n[asminfo] DEBUG first\n[asminfo] DEBUG second\n" ∧
      (unlogged.callAll firstCalls).files.at? ["a.log"] =
        some (.file (Encoding.Utf8.encode "09:01 DEBUG asminfo.cli: first\n".toList)) := by
  have silent : ∀ call ∈ lastCalls, call.configures = false := by decide
  have place : (unlogged.callAll firstCalls).logFile? false (some (.ofString "b.log")) = some ["b.log"] := by
    decide +kernel
  have records : lastCalls.filterMap (Log.Call.timed? (Log.levelFor false)) =
      [⟨"09:04", "asminfo", .error, "fourth"⟩] := by
    decide +kernel
  obtain ⟨setUp, written⟩ := (callAll_configure unlogged).2.1 firstCalls lastCalls false (some (.ofString "b.log")) silent
  rw [place] at setUp written
  rw [records] at written
  exact ⟨silent, setUp, written, by decide +kernel, by decide +kernel⟩

/-- A history that logs the name of a file in no encoding. -/
def undecodedCalls : List Log.Call :=
  [.configure true (some (.ofString "a.log")),
    .log "09:00" none .error (Log.Message.ofString "caf" ++ [.surrogate 0x4e9])]

/-- Logging to a file that is written anew in between. -/
def overwriting : Action Unit := do
  Action.configureLog true (some (.ofString "a.log"))
  Action.emit (Log.debug "cli" "first")
  Action.writeFile (.ofString "/a.log") []
  Action.emit (Log.debug "cli" "second")

/-- A log file misses a record with a surrogate, and the records before the file is written anew. -/
theorem records_missing :
    (unlogged.callAll undecodedCalls).console = "[asminfo] ERROR caf\\udce9\n--- Logging error ---\n" ∧
      (unlogged.callAll undecodedCalls).files.at? ["a.log"] = some (.file []) ∧
      (overwriting.run unlogged).2.console = "[asminfo] DEBUG first\n[asminfo] DEBUG second\n" ∧
      (overwriting.run unlogged).2.files.at? ["a.log"] =
        some (.file (Encoding.Utf8.encode " DEBUG asminfo.cli: second\n".toList)) := by
  refine ⟨?_, ?_, ?_, ?_⟩
  · decide +kernel
  · decide +kernel
  · decide +kernel
  · decide +kernel

end Session

end AssemblyInfo
