import AssemblyInfo.CommandLine.Run
import AssemblyInfo.Proofs.Session.Run
import AssemblyInfo.Proofs.Settings.Load

/-!
# Runs of command lines

A run first sets the logger up and then does its task. A run that writes settings ends with a message if
the settings file is at fault in a way that is reported, and otherwise leaves the fault to the caller.
-/

namespace AssemblyInfo.CommandLine

variable {host : Host}

namespace Invocation

/-- `invocation.setUp` sets the logger up. -/
def setUp (invocation : Invocation) : Action Unit := do
  Action.configureLog invocation.verbose none
  match invocation.logFile with
  | some text => Action.openLog (← Action.ofExcept (requirePath text))
  | none => pure ()

/-- The task is done once the logger has been set up. -/
theorem run_perform (invocation : Invocation) (session : Session) :
    invocation.perform.run session host =
      match invocation.setUp.run session host with
      | (.ok _, ready) => invocation.task.perform.run ready host
      | (.error fault, left) => (.error fault, left) := by
  unfold perform setUp
  rw [Action.run_bind, Action.run_bind]
  cases (Action.configureLog invocation.verbose none).run session host with
  | mk outcome between =>
    cases outcome with
    | error fault => rfl
    | ok _ =>
      dsimp only
      cases invocation.logFile with
      | none => rfl
      | some text =>
        dsimp only
        rw [Action.run_bind, Action.run_bind]
        cases (Action.ofExcept (requirePath text)).run between host with
        | mk outcome opened =>
          cases outcome with
          | error fault => rfl
          | ok path =>
            dsimp only
            rw [Action.run_bind]
            cases (Action.openLog path).run opened host with
            | mk outcome ready => cases outcome <;> rfl

end Invocation

/-! ### Printing -/

theorem Outcome.printed_eq_ok {outcome other : Outcome} :
    outcome.printed host = .ok other ↔ (outcome.out ≠ "" → host.unprinted? outcome.out = none) ∧ other = outcome := by
  unfold Outcome.printed
  split
  · rename_i empty
    rw [Except.ok.injEq, eq_comm, and_iff_right fun filled => absurd empty filled]
  · rename_i filled
    cases host.unprinted? outcome.out with
    | none => exact ⟨fun same => ⟨fun _ => rfl, (Except.ok.inj same).symm⟩, fun both => congrArg _ both.2.symm⟩
    | some fault =>
      refine iff_of_false nofun ?_
      rintro ⟨printed, -⟩
      cases printed filled

theorem Outcome.printed_reliable (outcome : Outcome) : outcome.printed .reliable = .ok outcome :=
  Outcome.printed_eq_ok.2 ⟨fun _ => rfl, rfl⟩

theorem run_of_ok {texts : List String} {invocation : Invocation} {session after : Session} {out : String}
    (read : Invocation.ofTexts texts = .ok invocation)
    (done : invocation.perform.run session host = (.ok out, after)) :
    run texts session host = (Outcome.printed { exit := 0, out, err := after.console } host, after) := by
  simp only [run, read, done]

theorem run_of_error {texts : List String} {invocation : Invocation} {session after : Session} {fault : Fault}
    (read : Invocation.ofTexts texts = .ok invocation)
    (failed : invocation.perform.run session host = (.error fault, after)) :
    run texts session host =
      if fault.isConfiguration then
        (.ok { exit := 1, err := after.console ++ fault.message ++ "\n" }, after)
      else (.error fault, after) := by
  simp only [run, read, failed]

/-! ### Settings with overrides -/

section Settings

variable (session : Session) (output config : String)
  (version fileVersion informationalVersion : Option String)

/-- `settings? session config version fileVersion informationalVersion` are the settings in the file `config` with
the values of parameters in place of its own. -/
def settings? : Except Fault Settings := do
  let path ← requirePath config
  let loaded ← Settings.load session path
  return overrideFrom
    (overrideFrom (overrideFrom loaded .version version) .fileVersion fileVersion)
    .informationalVersion informationalVersion

/-- The settings are read, and then written. -/
theorem run_perform_settings :
    (Task.create output config version fileVersion informationalVersion).perform.run session host =
      match settings? session config version fileVersion informationalVersion with
      | .error fault => (.error fault, session)
      | .ok settings =>
        match (Settings.save none (.ofString output) settings).run session host with
        | (.ok full, after) => (.ok (written after.directory full), after)
        | (.error fault, after) => (.error fault, after) := by
  unfold Task.perform settings?
  rw [Action.run_bind, Action.run_ofExcept]
  cases requirePath config with
  | error fault => rfl
  | ok path =>
    rw [ok_bind]
    dsimp only
    rw [Action.run_bind, Action.run_get]
    dsimp only
    rw [Action.run_bind, Action.run_ofExcept]
    cases Settings.load session path with
    | error fault => rfl
    | ok loaded =>
      rw [ok_bind]
      dsimp only [pure, Except.pure]
      rw [Action.run_bind]
      split
      · rename_i full after saved
        rw [saved]
        rfl
      · rename_i fault after saved
        rw [saved]

end Settings

/-! ### Settings that are not read -/

theorem run_perform_create {output config : String} {version fileVersion informationalVersion : Option String}
    {path : FilePath} {session : Session} {fault : Fault} (named : requirePath config = .ok path)
    (failed : Settings.load session path = .error fault) :
    (Task.create output config version fileVersion informationalVersion).perform.run session host =
      (.error fault, session) := by
  have refused : settings? session config version fileVersion informationalVersion = .error fault := by
    rw [settings?, named, ok_bind, failed]
    rfl
  rw [run_perform_settings, refused]

/-- Settings are read, or are at fault in a way that is reported, unless a fault escapes. When a command
line that writes them gets so far, it ends with a message or leaves the fault that escapes to the caller. -/
theorem load_unless_escapes (session : Session) (path : FilePath) (fault : Fault) :
    ((Settings.load session path = .error fault ∧ fault.isConfiguration = false) ↔
      Settings.Escapes session path fault) ∧
    ∀ (texts : List String) (invocation : Invocation) (output config : String)
      (version fileVersion informationalVersion : Option String) (before : Session),
      Invocation.ofTexts texts = .ok invocation →
      invocation.task = .create output config version fileVersion informationalVersion →
      invocation.setUp.run before = (.ok (), session) → requirePath config = .ok path →
      Settings.load session path = .error fault →
        run texts before =
          if fault.isConfiguration then
            (.ok { exit := 1, err := session.console ++ fault.message ++ "\n" }, session)
          else (.error fault, session) := by
  refine ⟨Settings.load_escapes_iff, ?_⟩
  intro texts invocation output config version fileVersion informationalVersion before read task ready named failed
  apply run_of_error read
  rw [Invocation.run_perform, ready]
  dsimp only
  rw [task, run_perform_create named failed]

/-- A session in a directory with a settings file in which a scalar looks like a date of a thirteenth
month. -/
def thirteenthMonth : Session where
  files :=
    { entries :=
        [(["work", "a.yml"], .file (Encoding.Utf8.encode "title: 2020-13-45\n".toList)),
          (["work"], .directory)] }
  directory := { root := .root, parts := ["work"] }
  home := { root := .root, parts := ["work"] }

/-- A date that is out of range escapes. -/
theorem load_thirteenthMonth :
    Settings.load thirteenthMonth (.ofString "a.yml") = .error (.calendar .month) ∧
      (run ["create", "A.cs", "--config", "a.yml"] thirteenthMonth).1 = .error (.calendar .month) := by
  constructor
  · exact eq_error_of_fault? (by decide +kernel)
  · exact eq_error_of_fault? (by decide +kernel)

end AssemblyInfo.CommandLine
