import AssemblyInfo.FileSystem.Change

/-!
# Hosts

The system that a program runs on. It can stop a file from being written to its end, and a text from
being printed: the disk may be full, or the output closed or too narrow for a character.
-/

namespace AssemblyInfo

structure Host where
  stop? : FileSystem.Stops := fun _ _ => none
  /-- Why a text is not printed. -/
  unprinted? : String → Option Fault := fun _ => none

/-- A host that writes and prints whatever it is given. -/
def Host.reliable : Host := {}

end AssemblyInfo
