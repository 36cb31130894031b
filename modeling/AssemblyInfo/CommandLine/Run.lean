import AssemblyInfo.CommandLine.Invocation
import AssemblyInfo.ParseResult.Load
import AssemblyInfo.Settings.Load
import AssemblyInfo.Settings.Save

/-!
# Running command lines

A command line that asks for help, or that is misused, does nothing else. A fault in what the user
configured ends the program with a message; other faults are left to the caller. What is to be printed
is printed last.
-/

namespace AssemblyInfo.CommandLine

/-- How the program ends, and what it has written. -/
structure Outcome where
  exit : Nat
  out : String := ""
  err : String := ""
  deriving DecidableEq, Repr

/-- `value? text` is the value of a parameter; a pair of dashes gives none. -/
def value? (text : String) : Option String :=
  if text = "--" then none else some text

def requirePath (text : String) : Except Fault FilePath :=
  match value? text with
  | some text => .ok (.ofString text)
  | none => .error (.notPath "list")

/-- `settings.overrideFrom field text?` sets `field` to the value of a parameter, if it is given. -/
def overrideFrom (settings : Settings) (field : Field) (text? : Option String) : Settings :=
  settings.override field (text?.bind value?)

/-- `shownFrom directory path` is `path` seen from `directory`, if it lies below. -/
def shownFrom (directory path : FilePath) : String :=
  ((path.relativeTo? directory).getD path).toString

/-- `written directory path` is what is printed once the file under `path` has been written. -/
def written (directory path : FilePath) : String :=
  "Assembly info written to " ++ shownFrom directory path ++ "\n"

namespace Task

/-- `task.perform` does `task` and returns what it prints. -/
def perform : Task → Action String
  | .parse path => do
    let result ← ParseResult.load none (some (.ofString path))
    return String.ofList (result.toJson.indented 0) ++ "\n"
  | .create output config version fileVersion informationalVersion => do
    let path ← Action.ofExcept (requirePath config)
    let loaded ← Action.ofExcept (Settings.load (← get) path)
    let settings :=
      overrideFrom
        (overrideFrom (overrideFrom loaded .version version) .fileVersion fileVersion)
        .informationalVersion informationalVersion
    let full ← Settings.save none (.ofString output) settings
    return written (← get).directory full

end Task

namespace Invocation

/-- `invocation.perform` sets the logger up and does what `invocation` asks for. -/
def perform (invocation : Invocation) : Action String := do
  Action.configureLog invocation.verbose none
  match invocation.logFile with
  | some text => Action.openLog (← Action.ofExcept (requirePath text))
  | none => pure ()
  invocation.task.perform

end Invocation

/-- `Stop.outcome stop` is how the program ends after `stop`. -/
def Stop.outcome : Stop → Outcome
  | .help lines => { exit := 0, out := String.join (lines.map fun line => line ++ "\n") }
  | .misuse program cause => { exit := 2, err := program ++ ": error: " ++ cause.message ++ "\n" }

/-- `outcome.printed host` prints what is to be printed, unless `host` fails to. -/
def Outcome.printed (outcome : Outcome) (host : Host) : Except Fault Outcome :=
  if outcome.out = "" then .ok outcome
  else
    match host.unprinted? outcome.out with
    | none => .ok outcome
    | some fault => .error fault

/-- `run texts session host` runs the command line `texts`. -/
def run (texts : List String) (session : Session) (host : Host := .reliable) :
    Except Fault Outcome × Session :=
  match Invocation.ofTexts texts with
  | .error stop => (stop.outcome.printed host, session)
  | .ok invocation =>
    match invocation.perform.run session host with
    | (.ok out, after) => (Outcome.printed { exit := 0, out, err := after.console } host, after)
    | (.error fault, after) =>
      if fault.isConfiguration then
        (.ok { exit := 1, err := after.console ++ fault.message ++ "\n" }, after)
      else (.error fault, after)

end AssemblyInfo.CommandLine
