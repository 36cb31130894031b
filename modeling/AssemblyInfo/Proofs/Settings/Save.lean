import AssemblyInfo.Proofs.Dialect.Selection
import AssemblyInfo.Proofs.Encoding.SourceText
import AssemblyInfo.Proofs.ParseResult.Load
import AssemblyInfo.Proofs.Settings.RoundTrip
import AssemblyInfo.Settings.Save

/-!
# Reading written files

Settings that have been written to a file are read from that file: under the same path, in the dialect
that the name of the file tells, and with the text that they were written with.
-/

namespace AssemblyInfo
open Session

/-! ### The text of a file -/

theorem endWithNewline_cons {c : Char} (other : c ≠ '\n') (rest : List Char) :
    ∃ more, endWithNewline (c :: rest) = c :: more := by
  unfold endWithNewline
  rw [List.reverse_cons, List.dropWhile_append]
  split
  · refine ⟨['\n'], ?_⟩
    simp [other]
  · refine ⟨(rest.reverse.dropWhile (· == '\n')).reverse ++ ['\n'], ?_⟩
    simp

theorem Model.exists_render_csharp (model : Model) : ∃ rest, (model.render .csharp).toList = '/' :: rest := by
  unfold render
  rw [String.toList_ofList]
  exact endWithNewline_cons (by decide) _

theorem Model.exists_render_visualBasic (model : Model) :
    ∃ rest, (model.render .visualBasic).toList = '\'' :: rest := by
  unfold render
  rw [String.toList_ofList]
  exact endWithNewline_cons (by decide) _

/-- A source text starts with the mark of its comment. -/
theorem Model.render_eq_cons (model : Model) (dialect : Dialect) :
    ∃ c rest, (model.render dialect).toList = c :: rest ∧ 0 < c.toNat ∧ c.toNat < 0x80 := by
  cases dialect with
  | csharp =>
    obtain ⟨rest, same⟩ := model.exists_render_csharp
    exact ⟨'/', rest, same, by decide, by decide⟩
  | visualBasic =>
    obtain ⟨rest, same⟩ := model.exists_render_visualBasic
    exact ⟨'\'', rest, same, by decide, by decide⟩

theorem Model.decodeSource_render (model : Model) (dialect : Dialect) :
    Encoding.decodeSource (Encoding.Utf8.encode (model.render dialect).toList) =
      (model.render dialect).toList := by
  obtain ⟨c, rest, same, positive, ascii⟩ := model.render_eq_cons dialect
  rw [same]
  exact Encoding.decodeSource_encode positive ascii rest

namespace Settings

/-! ### Writing -/

/-- `later` comes from `session` by writing `settings` to the file under `path`. -/
structure SavedAt (session : Session) (path : FilePath) (settings : Settings) (later : Session) : Prop
    extends Grown session later where
  noNull : path.hasNull = false
  located : later.files.locate path = .ok path.normalized.parts
  held : ¬ session.LogsTo path.normalized.parts →
    ∃ model, Model.build settings = .ok model ∧ later.files.at? path.normalized.parts =
      some (.file (Encoding.Utf8.encode (model.render (Dialect.ofPath path)).toList))

theorem savedAt_of_run {session later : Session} {path : FilePath} {settings : Settings} {answer : Unit}
    (opened : session.LogsOpen) (saved : (saveAt path settings).run session = (.ok answer, later)) :
    SavedAt session path settings later := by
  unfold saveAt at saved
  simp only at saved
  obtain ⟨model, built, building, saved⟩ := Action.run_bind_ok saved
  obtain ⟨_, told, telling, saved⟩ := Action.run_bind_ok saved
  obtain ⟨_, made, making, saved⟩ := Action.run_bind_ok saved
  obtain ⟨_, written, writing, closing⟩ := Action.run_bind_ok saved
  rw [Action.run_ofExcept] at building
  obtain ⟨build, rfl⟩ := Prod.mk.inj building
  have first := (logged_of_run_emit opened telling).toGrown
  have second := first.trans (grown_of_run_ensureDirectories making)
  obtain ⟨put, noNull, located, held⟩ := of_run_writeFile writing
  have third := second.trans put
  have last := logged_of_run_emit (opened.of_grown third) closing
  refine ⟨third.trans last.toGrown, noNull, FileSystem.locate_of_extends last.files located, ?_⟩
  intro apart
  have untouched := last.untouched _ (mt (third.logsTo_iff _).1 apart)
  exact ⟨model, build, untouched.trans held⟩

theorem savedAt_of_run_save {session later : Session} {base? : Option FilePath} {path full : FilePath}
    {settings : Settings} (opened : session.LogsOpen)
    (saved : (save base? path settings).run session = (.ok full, later)) :
    full = session.placed base? path ∧ SavedAt session full settings later := by
  unfold save at saved
  rw [Action.run_bind, Action.run_get] at saved
  obtain ⟨_, between, writing, answered⟩ := Action.run_bind_ok saved
  rw [Action.run_pure] at answered
  obtain ⟨same, rfl⟩ := Prod.mk.inj answered
  obtain rfl := Except.ok.inj same
  exact ⟨rfl, savedAt_of_run opened writing⟩

/-! ### Reading what was written -/

/-- What has been written is a source file for every session with the same files that does not log to it. -/
theorem SavedAt.holdsSource {session after later : Session} {path : FilePath} {settings : Settings}
    (saved : SavedAt session path settings after) (apart : ¬ session.LogsTo path.normalized.parts)
    (files : later.files = after.files) (apartThen : ¬ later.LogsTo path.normalized.parts) :
    ∃ model, Model.build settings = .ok model ∧ ParseResult.HoldsSource later path
      (Encoding.Utf8.encode (model.render (Dialect.ofPath path)).toList) := by
  obtain ⟨model, built, held⟩ := saved.held apart
  refine ⟨model, built, saved.noNull, path.normalized.parts, ?_, ?_, apartThen⟩
  · rw [files]
    exact saved.located
  · rw [files]
    exact held

theorem ofBytes_render (model : Model) (dialect : Dialect) :
    ParseResult.ofBytes dialect (Encoding.Utf8.encode (model.render dialect).toList) =
      ParseResult.ofText dialect (model.render dialect) := by
  unfold ParseResult.ofBytes ParseResult.ofText
  rw [model.decodeSource_render]

theorem run_load_of_savedAt {session later : Session} {base? : Option FilePath} {path : FilePath}
    {settings : Settings} (opened : session.LogsOpen)
    (apart : ¬ session.LogsTo (session.placed base? path).normalized.parts)
    (saved : SavedAt session (session.placed base? path) settings later) :
    ∃ text, render settings (Dialect.ofPath (session.placed base? path)) = .ok text ∧
      ((ParseResult.load base? (some path)).run later).1 =
        .ok (ParseResult.ofText (Dialect.ofPath (session.placed base? path)) text) := by
  obtain ⟨model, build, holds⟩ := saved.holdsSource apart rfl (mt (saved.logsTo_iff _).1 apart)
  refine ⟨model.render (Dialect.ofPath (session.placed base? path)), ?_, ?_⟩
  · unfold render
    rw [build]
    rfl
  · rw [← saved.placed] at holds ⊢
    rw [ParseResult.run_load_of_holdsSource (opened.of_grown saved.toGrown) holds, ofBytes_render]

/-- Settings that have been written to a file that is no log file are read from there, in the dialect
of that place: the dialect of the path itself, if the path names anything. -/
theorem load_save (base? : Option FilePath) (path full : FilePath) (settings : Settings)
    (session later : Session) (opened : session.LogsOpen)
    (apart : ¬ session.LogsTo (session.placed base? path).normalized.parts)
    (saved : (save base? path settings).run session = (.ok full, later)) :
    full = session.placed base? path ∧
      (path.parts ≠ [] → Dialect.ofPath full = Dialect.ofPath path) ∧
      ∃ text, render settings (Dialect.ofPath full) = .ok text ∧
        ((ParseResult.load base? (some path)).run later).1 =
          .ok (ParseResult.ofText (Dialect.ofPath full) text) := by
  obtain ⟨rfl, savedAt⟩ := savedAt_of_run_save opened saved
  exact ⟨rfl, Dialect.ofPath_placed session base?, run_load_of_savedAt opened apart savedAt⟩

/-- A session in an empty directory, without a logger. -/
def workplace : Session where
  files := { entries := [(["work"], .directory)] }
  directory := { root := .root, parts := ["work"] }
  home := { root := .root, parts := ["work"] }

theorem logsOpen_workplace : workplace.LogsOpen := by
  intro location logs
  cases logs

theorem load_save_workplace :
    workplace.LogsOpen ∧
      ¬ workplace.LogsTo (workplace.placed none (.ofString "new/../Info.VB")).normalized.parts ∧
      ∃ full later text, (save none (.ofString "new/../Info.VB") sample).run workplace = (.ok full, later) ∧
        render sample .visualBasic = .ok text ∧
        ((ParseResult.load none (some (.ofString "new/../Info.VB"))).run later).1 =
          .ok (ParseResult.ofText .visualBasic text) := by
  have apart : ¬ workplace.LogsTo (workplace.placed none (.ofString "new/../Info.VB")).normalized.parts := by
    intro logs
    cases logs
  have saved : ∃ full later,
      (save none (.ofString "new/../Info.VB") sample).run workplace = (.ok full, later) := ⟨_, _, rfl⟩
  obtain ⟨full, later, saved⟩ := saved
  obtain ⟨rfl, _, text, rendered, loaded⟩ :=
    load_save none (.ofString "new/../Info.VB") full sample workplace later logsOpen_workplace apart saved
  exact ⟨logsOpen_workplace, apart, _, later, text, saved, rendered, loaded⟩

/-- A path that names nothing can stand for a file in another dialect than its own. -/
theorem load_save_unnamed :
    ∃ full later text,
      (save (some (.ofString "x.vb")) (.ofString ".") sample).run workplace = (.ok full, later) ∧
      render sample (Dialect.ofPath (.ofString ".")) = .ok text ∧
      ((ParseResult.load (some (.ofString "x.vb")) (some (.ofString "."))).run later).1 ≠
        .ok (ParseResult.ofText (Dialect.ofPath (.ofString ".")) text) := by
  have apart : ¬ workplace.LogsTo
      (workplace.placed (some (.ofString "x.vb")) (.ofString ".")).normalized.parts := by
    intro logs
    cases logs
  have saved : ∃ full later,
      (save (some (.ofString "x.vb")) (.ofString ".") sample).run workplace = (.ok full, later) := ⟨_, _, rfl⟩
  obtain ⟨full, later, saved⟩ := saved
  have typed := isTyped_sample
  have savedAt := (savedAt_of_run_save logsOpen_workplace saved).2
  obtain rfl := (savedAt_of_run_save logsOpen_workplace saved).1
  obtain ⟨text, rendered, loaded⟩ := run_load_of_savedAt logsOpen_workplace apart savedAt
  refine ⟨_, later, _, saved, render_eq typed isSerialisable_sample _, ?_⟩
  have place : Dialect.ofPath (workplace.placed (some (.ofString "x.vb")) (.ofString ".")) = .visualBasic := by
    decide
  rw [place, render_eq typed isSerialisable_sample] at rendered
  obtain rfl := Except.ok.inj rendered
  rw [loaded, place]
  intro same
  have customs := congrArg ParseResult.customAttributes (Except.ok.inj same)
  rw [ofText_eq_readBack typed isOneLine_sample hasForeignNames_sample,
    ofText_eq_readBack typed isOneLine_sample hasForeignNames_sample] at customs
  cases customs

end Settings

end AssemblyInfo
