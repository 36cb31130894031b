import AssemblyInfo.Session

/-!
# Running actions

How actions run one after the other: the first that fails ends the run, in the session that it leaves.
-/

namespace AssemblyInfo.Action

variable {α β : Type} {host : Host}

theorem run_bind (action : Action α) (next : α → Action β) (session : Session) :
    (action >>= next).run session host =
      match action.run session host with
      | (.ok answer, after) => (next answer).run after host
      | (.error fault, after) => (.error fault, after) := by
  change StateT.run (ExceptT.run (ReaderT.run (action >>= next) host)) session = _
  simp only [ReaderT.run_bind, ExceptT.run_bind, StateT.run_bind]
  unfold run
  cases StateT.run (ExceptT.run (ReaderT.run action host)) session with
  | mk outcome after => cases outcome <;> rfl

/-- What runs to an answer runs there step by step. -/
theorem run_bind_ok {action : Action α} {next : α → Action β} {session after : Session} {answer : β}
    (ran : (action >>= next).run session host = (.ok answer, after)) :
    ∃ first between, action.run session host = (.ok first, between) ∧
      (next first).run between host = (.ok answer, after) := by
  rw [run_bind] at ran
  split at ran
  · rename_i first between started
    exact ⟨first, between, started, ran⟩
  · cases ran

theorem run_pure (answer : α) (session : Session) :
    (pure answer : Action α).run session host = (.ok answer, session) := rfl

theorem run_get (session : Session) :
    (get : Action Session).run session host = (.ok session, session) := rfl

theorem run_read (session : Session) : (read : Action Host).run session host = (.ok host, session) := rfl

theorem run_modify (change : Session → Session) (session : Session) :
    (modify change : Action PUnit).run session host = (.ok ⟨⟩, change session) := rfl

theorem run_emit (record : Log.Record) (session : Session) :
    (emit record).run session host = (.ok (), session.emit record) := rfl

theorem run_ofExcept (outcome : Except Fault α) (session : Session) :
    (ofExcept outcome).run session host = (outcome, session) := by
  cases outcome <;> rfl

theorem run_ofFiles (query : FileSystem → Except Fault α) (session : Session) :
    (ofFiles query).run session host = (query session.files, session) := by
  unfold ofFiles
  rw [run_bind, run_get]
  exact run_ofExcept (query session.files) session

theorem run_changeFiles (change : FileSystem → FileSystem.Change) (session : Session) :
    (changeFiles change).run session host =
      ((change session.files).1, { session with files := (change session.files).2 }) := by
  unfold changeFiles
  rw [run_bind, run_get]
  change (modify _ >>= fun _ => ofExcept _ : Action Unit).run session host = _
  rw [run_bind, run_modify]
  exact run_ofExcept _ _

theorem run_writeFile (path : FilePath) (data : List UInt8) (session : Session) :
    (writeFile path data).run session host =
      ((session.files.write host.stop? path data).1,
        { session with files := (session.files.write host.stop? path data).2 }) := by
  unfold writeFile
  rw [run_bind, run_read]
  exact run_changeFiles _ session

theorem run_openLog (path : FilePath) (session : Session) :
    (openLog path).run session host =
      match session.files.target (session.absolute path).normalized with
      | .ok location =>
        (.ok (), { session with
          files := session.files.append location []
          logger := session.logger.add (.file location) })
      | .error fault => (.error fault, session) := by
  unfold openLog absolute
  simp only [run_bind, run_get, run_pure, run_ofFiles]
  cases session.files.target (session.absolute path).normalized <;> rfl

theorem run_configureLog (verbose : Bool) (file? : Option FilePath) (session : Session) :
    (configureLog verbose file?).run session host =
      match file? with
      | none => (.ok (), { session with logger := .console (Log.levelFor verbose) })
      | some path => (openLog path).run { session with logger := .console (Log.levelFor verbose) } host := by
  unfold configureLog
  rw [run_bind, run_modify, Log.Logger.reset_eq_console]
  cases file? <;> rfl

end AssemblyInfo.Action
