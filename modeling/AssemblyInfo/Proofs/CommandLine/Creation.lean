import AssemblyInfo.Proofs.CommandLine.Run
import AssemblyInfo.Proofs.Settings.Creation

/-!
# What a command line leaves alone

A command line that writes settings changes the file that it writes and its log file. If it fails, whatever
the reason, it has changed the log file at most, and made directories.
-/

namespace AssemblyInfo.CommandLine

namespace Invocation

variable {host : Host}

end Invocation

/-! ### Tasks -/

section Tasks

variable {host : Host} (session : Session) (output config : String)
  (version fileVersion informationalVersion : Option String)

/-- `text? session output config version fileVersion informationalVersion` is the text that these settings have in
the file `output`. -/
def text? : Except Fault String := do
  render (← settings? session config version fileVersion informationalVersion)
    (Dialect.ofPath (session.placed none (.ofString output)))

/-- `message session output` is what is printed once the file `output` has been written. -/
def message : String :=
  written session.directory (session.placed none (.ofString output))

end Tasks

/-! ### Runs -/

section Runs

variable {host : Host} {texts : List String} {invocation : Invocation} {output config : String}
  {version fileVersion informationalVersion : Option String}

end Runs

end AssemblyInfo.CommandLine
