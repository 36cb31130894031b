import AssemblyInfo.ParseResult.Load
import AssemblyInfo.Proofs.Session.Logged
import AssemblyInfo.Proofs.Session.Run

/-!
# Reading source files

A source file that is there is read, and reading it changes nothing but logs.
-/

namespace AssemblyInfo.ParseResult
open Session

theorem run_forM_emit {session : Session} (opened : session.LogsOpen) (records : List Log.Record) :
    ∃ later, (records.forM Action.emit).run session = (.ok ⟨⟩, later) ∧ session.Logged later := by
  induction records generalizing session with
  | nil => exact ⟨session, rfl, .refl session⟩
  | cons record rest ih =>
    have first := logged_emit opened record
    obtain ⟨later, ran, logged⟩ := ih (opened.of_grown first.toGrown)
    refine ⟨later, ?_, first.trans logged⟩
    change (Action.emit record >>= fun _ => rest.forM Action.emit).run session = _
    rw [Action.run_bind, Action.run_emit]
    exact ran

/-- What the file under `path` declares, if it is there and no log file. -/
theorem run_loadAt {session : Session} (opened : session.LogsOpen) {path : FilePath} {location : Location}
    {data : List UInt8} (noNull : path.hasNull = false) (located : session.files.locate path = .ok location)
    (held : session.files.at? location = some (.file data)) (apart : ¬ session.LogsTo location) :
    ∃ later, (loadAt path).run session = (.ok (ofBytes (Dialect.ofPath path) data), later) ∧
      session.Logged later := by
  have isFile := FileSystem.isFile_of_held noNull located held
  have first := logged_emit opened (opening path (Dialect.ofPath path))
  have heldThen := (first.untouched location apart).trans held
  have read := FileSystem.read_of_held noNull (FileSystem.locate_of_extends first.files located) heldThen
  obtain ⟨later, ran, logged⟩ := run_forM_emit (opened.of_grown first.toGrown)
    (records (Dialect.ofPath path) (Encoding.decodeSource data))
  refine ⟨later, ?_, first.trans logged⟩
  unfold loadAt
  rw [Action.run_bind, Action.run_ofFiles, isFile]
  simp only [Bool.not_true, Bool.false_eq_true, if_false]
  rw [Action.run_bind, Action.run_emit]
  simp only
  rw [Action.run_bind, Action.run_ofFiles, read]
  simp only
  rw [Action.run_bind, ran]
  rfl

/-- `HoldsSource session path data` says that `path` leads to a file with the bytes `data`, which is no
log file of `session`. -/
structure HoldsSource (session : Session) (path : FilePath) (data : List UInt8) : Prop where
  noNull : path.hasNull = false
  held : ∃ location, session.files.locate path = .ok location ∧
    session.files.at? location = some (.file data) ∧ ¬ session.LogsTo location

theorem run_load_of_holdsSource {session : Session} (opened : session.LogsOpen)
    {base? : Option FilePath} {path : FilePath} {data : List UInt8}
    (holds : HoldsSource session (session.placed base? path) data) :
    ((load base? (some path)).run session).1 =
      .ok (ofBytes (Dialect.ofPath (session.placed base? path)) data) := by
  obtain ⟨location, located, held, apart⟩ := holds.held
  obtain ⟨later, ran, _⟩ := run_loadAt opened holds.noNull located held apart
  unfold load
  rw [Action.run_bind, Action.run_get]
  simp only
  rw [ran]

end AssemblyInfo.ParseResult
