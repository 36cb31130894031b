import AssemblyInfo.Proofs.Session.Resolution
import AssemblyInfo.Proofs.Settings.Wanted
import AssemblyInfo.Proofs.Value.Hollow

/-!
# Settings files that are not read

A settings file is reported as the user's fault if it is not there, is no YAML or has no mapping at its
root. Whatever else is wrong escapes as it is: a path that leads nowhere, bytes that are no UTF-8, a scalar that
stands for no value, and an integer that is too long to be written.
-/

namespace AssemblyInfo.Settings

variable {session : Session} {path full : FilePath} {yaml : Yaml.Reader} {data : List UInt8} {fault : Fault}

/-- `HoldsFile session path full data` says that `path` leads to the file `full` with the bytes `data`. -/
structure HoldsFile (session : Session) (path full : FilePath) (data : List UInt8) : Prop where
  resolved : session.resolved path = .ok full
  isFile : session.files.isFile full = .ok true
  read : session.files.read full = .ok data

/-- `HasText data text` says that the bytes `data` are a text, and that it is `text` with its line breaks
unified. There is something in it. -/
structure HasText (data : List UInt8) (text : List Char) : Prop where
  decoded : ∃ raw, Encoding.Utf8.decode data = .ok raw ∧ text = Text.unifyBreaks raw
  filled : Text.allBlank text = false

/-- `Unreadable yaml data fault` says that `yaml` makes no settings of the bytes `data` because of `fault`, which
is not reported as the user's. -/
inductive Unreadable (yaml : Yaml.Reader) (data : List UInt8) : Fault → Prop
  | illFormed {stretch : Encoding.Utf8.IllFormed} (flawed : Encoding.Utf8.decode data = .error stretch) :
    Unreadable yaml data (.illFormedText stretch)
  | scalar {text : List Char} {fault : Fault} (hasText : HasText data text)
    (refused : yaml text = .error (.fault fault)) (foreign : fault.isConfiguration = false) :
    Unreadable yaml data fault
  | longInteger {text : List Char} {root value : Value} {entries : Entries} (hasText : HasText data text)
    (loaded : yaml text = .ok root) (mapping : root.entries? = some entries) (wanted : value ∈ entries.wanted)
    (long : value.isLong = true) : Unreadable yaml data .longInteger

/-- `Escapes session path fault` says that the settings file under `path` is not read because of `fault`,
which is not reported as the user's. -/
inductive Escapes (session : Session) (path : FilePath) : Fault → Prop
  | path {fault : Fault} (nowhere : session.LeadsNowhere path fault) : Escapes session path fault
  | content {full : FilePath} {data : List UInt8} {fault : Fault} (holds : HoldsFile session path full data)
    (unreadable : Unreadable session.yaml data fault) : Escapes session path fault

/-! ### Contents -/

theorem ofEntries_of_long {entries : Entries} {value : Value} (wanted : value ∈ entries.wanted)
    (long : value.isLong = true) : ofEntries entries = .error .longInteger := by
  rw [ofEntries_eq, unlessLong, if_pos (List.any_eq_true.2 ⟨value, wanted, long⟩)]

theorem ofRoot_eq_error {name : String} {root : Value} (failed : ofRoot name root = .error fault) :
    fault.isConfiguration = true ∨
      ∃ (entries : Entries) (value : Value), root.entries? = some entries ∧ value ∈ entries.wanted ∧
        value.isLong = true ∧ fault = .longInteger := by
  unfold ofRoot at failed
  split at failed
  · rename_i entries mapping
    rw [ofEntries_eq, unlessLong] at failed
    split at failed
    · rename_i some
      obtain ⟨value, wanted, long⟩ := List.any_eq_true.1 some
      exact Or.inr ⟨entries, value, mapping, wanted, long, (Except.error.inj failed).symm⟩
    · cases failed
  · cases failed
    exact Or.inl rfl

theorem documentOf_eq_error {name : String} {text : List Char} (failed : documentOf yaml name text = .error fault) :
    fault.isConfiguration = true ∨ Text.allBlank text = false ∧ yaml text = .error (.fault fault) := by
  unfold documentOf at failed
  split at failed
  · cases failed
  · rename_i filled
    split at failed
    · cases failed
    · cases failed
      exact Or.inl rfl
    · rename_i other loaded
      obtain rfl := Except.error.inj failed
      exact Or.inr ⟨Bool.eq_false_iff.2 filled, loaded⟩

theorem documentOf_of_filled {name : String} {text : List Char} {root : Value} (filled : Text.allBlank text = false)
    (loaded : yaml text = .ok root) :
    documentOf yaml name text = .ok (if root.isTruthy then root else .map []) := by
  rw [documentOf, filled, loaded]
  rfl

theorem ofBytes_of_hasText {text : List Char} (hasText : HasText data text) (name : String) :
    ofBytes yaml name data = documentOf yaml name text >>= ofRoot name := by
  obtain ⟨⟨raw, decoded, rfl⟩, -⟩ := hasText
  rw [ofBytes, decoded]

/-- A mapping with an entry is no document without content. -/
theorem isTruthy_of_wanted {root value : Value} {entries : Entries} (mapping : root.entries? = some entries)
    (wanted : value ∈ entries.wanted) (long : value.isLong = true) : root.isTruthy = true := by
  cases something : root.isTruthy with
  | true => rfl
  | false =>
    rcases root.entries?_of_not_isTruthy something with empty | ⟨none, -⟩
    · obtain rfl := Option.some.inj (empty.symm.trans mapping)
      have short : (Entries.wanted []).any Value.isLong = false := rfl
      rw [List.any_eq_false] at short
      exact absurd long (short value wanted)
    · rw [none] at mapping
      cases mapping

theorem documentOf_eq_ok {name : String} {text : List Char} {root : Value}
    (read : documentOf yaml name text = .ok root) (something : root.isTruthy = true) :
    Text.allBlank text = false ∧ yaml text = .ok root := by
  unfold documentOf at read
  split at read
  · obtain rfl := Except.ok.inj read
    cases something
  · rename_i filled
    split at read
    · rename_i loaded
      obtain rfl := Except.ok.inj read
      split at something
      · rename_i truthy
        exact ⟨Bool.eq_false_iff.2 filled, by rw [if_pos truthy, loaded]⟩
      · cases something
    · cases read
    · cases read

theorem unreadable_iff (name : String) :
    Unreadable yaml data fault ↔ ofBytes yaml name data = .error fault ∧ fault.isConfiguration = false := by
  constructor
  · intro unreadable
    cases unreadable with
    | illFormed flawed => exact ⟨by rw [ofBytes, flawed], rfl⟩
    | scalar hasText refused foreign =>
      refine ⟨?_, foreign⟩
      rw [ofBytes_of_hasText hasText, documentOf, hasText.filled, refused]
      rfl
    | longInteger hasText loaded mapping wanted long =>
      refine ⟨?_, rfl⟩
      rw [ofBytes_of_hasText hasText, documentOf_of_filled hasText.filled loaded, ok_bind,
        if_pos (isTruthy_of_wanted mapping wanted long), ofRoot, mapping]
      exact ofEntries_of_long wanted long
  · rintro ⟨failed, foreign⟩
    unfold ofBytes at failed
    split at failed
    · rename_i stretch illFormed
      obtain rfl := Except.error.inj failed
      exact .illFormed illFormed
    · rename_i raw decoded
      rcases bind_eq_error.1 failed with document | ⟨root, loaded, failed⟩
      · rcases documentOf_eq_error document with own | ⟨filled, refused⟩
        · rw [foreign] at own
          cases own
        · exact .scalar ⟨⟨raw, decoded, rfl⟩, filled⟩ refused foreign
      · rcases ofRoot_eq_error failed with own | ⟨entries, value, mapping, wanted, long, rfl⟩
        · rw [foreign] at own
          cases own
        · obtain ⟨filled, loaded⟩ := documentOf_eq_ok loaded (isTruthy_of_wanted mapping wanted long)
          exact .longInteger ⟨⟨raw, decoded, rfl⟩, filled⟩ loaded mapping wanted long

/-! ### Files -/

theorem exists_read_of_isFile {files : FileSystem} (isFile : files.isFile path = .ok true) :
    ∃ data, files.read path = .ok data := by
  unfold FileSystem.isFile at isFile
  obtain ⟨found, here, isFile⟩ := bind_eq_ok.1 isFile
  unfold FileSystem.find? at here
  split at isFile
  · rename_i data
    unfold FileSystem.read
    split at here
    · cases here
    · rename_i noNull
      rw [if_neg noNull]
      split at here
      · rename_i location located
        rw [located]
        simp only [Except.ok.inj here]
        exact ⟨data, rfl⟩
      · cases here
      · cases here
  · cases isFile

theorem load_of_holdsFile (holds : HoldsFile session path full data) :
    load session path = ofBytes session.yaml full.name data := by
  unfold load
  rw [holds.resolved, ok_bind, holds.isFile, ok_bind, holds.read]
  rfl

theorem foreign_of_leadsNowhere (nowhere : session.LeadsNowhere path fault) : fault.isConfiguration = false := by
  cases nowhere <;> rfl

/-- What is not reported as the user's fault is exactly what escapes. -/
theorem load_escapes_iff :
    (load session path = .error fault ∧ fault.isConfiguration = false) ↔ Escapes session path fault := by
  constructor
  · rintro ⟨failed, foreign⟩
    have steps := failed
    unfold load at steps
    rcases bind_eq_error.1 steps with unresolved | ⟨full, resolved, steps⟩
    · exact .path (Session.leadsNowhere_iff.2 (Or.inl unresolved))
    rcases bind_eq_error.1 steps with refused | ⟨isFile, found, steps⟩
    · exact .path (Session.leadsNowhere_iff.2 (Or.inr ⟨full, resolved, refused⟩))
    cases isFile with
    | false =>
      cases steps
      cases foreign
    | true =>
      obtain ⟨data, read⟩ := exists_read_of_isFile found
      have holds : HoldsFile session path full data := ⟨resolved, found, read⟩
      rw [load_of_holdsFile holds] at failed
      exact .content holds ((unreadable_iff full.name).2 ⟨failed, foreign⟩)
  · rintro (nowhere | ⟨holds, unreadable⟩)
    · refine ⟨?_, foreign_of_leadsNowhere nowhere⟩
      unfold load
      rcases Session.leadsNowhere_iff.1 nowhere with unresolved | ⟨full, resolved, refused⟩
      · rw [unresolved]
        rfl
      · rw [resolved, ok_bind, refused]
        rfl
    · rw [load_of_holdsFile holds]
      exact (unreadable_iff _).1 unreadable

end AssemblyInfo.Settings
