import AssemblyInfo.Proofs.Settings.Save

/-!
# What writing settings leaves alone

Settings are rendered before anything is made, and the file is written last. So a failure before leaves
directories at most, and a success changes one file. That file is emptied before it is written: where the host
stops the write, a part of the text is left in it.
-/

namespace AssemblyInfo

/-- `Replaces path logs data before after` says that the file under `path` has got the bytes `data`, and that apart
from it and the places in `logs` directories above it have been made at most. -/
structure Replaces (path : FilePath) (logs : Location → Prop) (data : List UInt8) (before after : FileSystem) :
    Prop where
  held : ¬ logs path.normalized.parts → after.at? path.normalized.parts = some (.file data)
  kept : FileSystem.KeptAlong (fun location => logs location ∨ location = path.normalized.parts) path.parent
    before after

/-- `host.Leaves path message? data left` says that `host` fails with the bytes `left` in the file under `path`: it
stops the write of `data`, or it does not print the message after it. -/
inductive Host.Leaves (host : Host) (path : FilePath) (message? : Option String) (data : List UInt8) :
    List UInt8 → Prop
  | stopped {count : Nat} {fault : Fault} (stops : host.stop? path.normalized.parts data = some (count, fault)) :
    Leaves host path message? data (data.take count)
  | unprinted {message : String} {fault : Fault} (asked : message ∈ message?)
    (refused : host.unprinted? message = some fault) : Leaves host path message? data data

/-- `Creates host rendered path message? logs before after Succeeds` says what an attempt on `host` to write the text
`rendered` to the file under `path`, and then to print a message, makes of the files `before`, apart from the places
in `logs`. -/
structure Creates (host : Host) (rendered : Except Fault String) (path : FilePath) (message? : Option String)
    (logs : Location → Prop) (before after : FileSystem) (Succeeds : Prop) : Prop where
  /-- Without a text nothing is changed. -/
  unrendered : ∀ fault, rendered = .error fault → ¬ Succeeds ∧ FileSystem.SameOutside logs before after
  /-- A failure makes directories at most, above the file, unless it is one of the host. -/
  failed : ¬ Succeeds → FileSystem.KeptAlong logs path.parent before after ∨
    ∃ text left, rendered = .ok text ∧ host.Leaves path message? (Encoding.Utf8.encode text.toList) left ∧
      Replaces path logs left before after
  /-- A success makes such directories, and the file with the text. -/
  done : Succeeds → ∃ text, rendered = .ok text ∧
    Replaces path logs (Encoding.Utf8.encode text.toList) before after

variable {host : Host} {rendered : Except Fault String} {path : FilePath} {message? : Option String}
  {logs : Location → Prop} {data : List UInt8} {before between after : FileSystem} {Succeeds : Prop}

namespace Replaces

theorem mono {wider : Location → Prop} (replaces : Replaces path logs data before after)
    (within : ∀ location, logs location → wider location) : Replaces path wider data before after where
  held other := replaces.held (mt (within _) other)
  kept := replaces.kept.mono fun location => Or.imp_left (within location)

end Replaces

namespace Creates

theorem mono {wider : Location → Prop} (creates : Creates host rendered path message? logs before after Succeeds)
    (within : ∀ location, logs location → wider location) :
    Creates host rendered path message? wider before after Succeeds where
  unrendered := by
    intro fault refused
    obtain ⟨fails, same⟩ := creates.unrendered fault refused
    exact ⟨fails, same.mono within⟩
  failed := by
    intro fails
    rcases creates.failed fails with kept | ⟨text, left, rendered, leaves, replaces⟩
    · exact Or.inl (kept.mono within)
    · exact Or.inr ⟨text, left, rendered, leaves, replaces.mono within⟩
  done := by
    intro succeeds
    obtain ⟨text, rendered, replaces⟩ := creates.done succeeds
    exact ⟨text, rendered, replaces.mono within⟩

theorem congr {Other : Prop} (creates : Creates host rendered path message? logs before after Succeeds)
    (same : Succeeds ↔ Other) : Creates host rendered path message? logs before after Other :=
  propext same ▸ creates

end Creates

namespace Settings

end Settings

end AssemblyInfo
