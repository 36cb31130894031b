import AssemblyInfo.Proofs.Encoding.Utf8
import AssemblyInfo.Proofs.Settings.Load
import AssemblyInfo.Proofs.Value.Now
import AssemblyInfo.Proofs.Yaml.Commentary

/-!
# Roots of settings files

A mapping at the root of a settings file gives its settings, and a file without content gives settings that
want nothing. Any other root is reported as the user's fault, unless it counts as nothing itself: a root that
is false, zero or empty passes for no content.
-/

namespace AssemblyInfo

namespace Settings

/-! ### Documents -/

theorem ofEntries_nil : ofEntries [] = .ok {} := by
  have nothing : ofEntries [] = .ok (settled []) := ofEntries_eq []
  have fields : Entries.fieldOf [] = fun _ => .null := by
    funext field
    unfold Entries.fieldOf
    split <;> rfl
  rw [nothing, settled, fields]
  rfl

theorem ofRoot_of_entries? {name : String} {root : Value} {entries : Entries} (mapping : root.entries? = some entries) :
    ofRoot name root = ofEntries entries := by
  rw [ofRoot, mapping]

/-! ### Files -/

section Files

variable {session : Session} {path full : FilePath} {data : List UInt8} {text : List Char} {root : Value}

theorem load_of_documentOf (holds : HoldsFile session path full data)
    (decoded : Encoding.Utf8.decode data = .ok text)
    (document : documentOf session.yaml full.name (Text.unifyBreaks text) = .ok root) :
    load session path = ofRoot full.name root := by
  rw [load_of_holdsFile holds, ofBytes, decoded]
  simp only [document]
  rfl

theorem load_of_allBlank (holds : HoldsFile session path full data)
    (decoded : Encoding.Utf8.decode data = .ok text) (blank : Text.allBlank (Text.unifyBreaks text) = true) :
    load session path = .ok {} := by
  rw [load_of_documentOf holds decoded (by rw [documentOf, if_pos blank])]
  exact ofEntries_nil

theorem load_of_isTruthy (holds : HoldsFile session path full data)
    (decoded : Encoding.Utf8.decode data = .ok text) (filled : Text.allBlank (Text.unifyBreaks text) = false)
    (loaded : session.yaml (Text.unifyBreaks text) = .ok root) (something : root.isTruthy = true) :
    load session path = ofRoot full.name root := by
  refine load_of_documentOf holds decoded ?_
  rw [documentOf_of_filled filled loaded, if_pos something]

theorem load_of_not_isTruthy (holds : HoldsFile session path full data)
    (decoded : Encoding.Utf8.decode data = .ok text) (filled : Text.allBlank (Text.unifyBreaks text) = false)
    (loaded : session.yaml (Text.unifyBreaks text) = .ok root) (nothing : root.isTruthy = false) :
    load session path = .ok {} := by
  have document : documentOf session.yaml full.name (Text.unifyBreaks text) =
      .ok (if root.isTruthy then root else .map []) := documentOf_of_filled filled loaded
  rw [nothing] at document
  rw [load_of_documentOf holds decoded document]
  exact ofEntries_nil

/-- A settings file that can be decoded and read: a mapping at its root gives its settings, and a blank text,
comments only or null at the root give settings that want nothing. Whatever else stands at the root is
reported, unless it is false, zero or empty. -/
theorem load_root (holds : HoldsFile session path full data) (decoded : Encoding.Utf8.decode data = .ok text) :
    (Text.allBlank (Text.unifyBreaks text) = true → load session path = .ok {}) ∧
    (Yaml.isCommentary (Text.unifyBreaks text) = true → (Text.unifyBreaks text).all Yaml.isPrintable = true →
      session.yaml (Text.unifyBreaks text) = Yaml.load outerLevels (Text.unifyBreaks text) →
      load session path = .ok {}) ∧
    ∀ root, Text.allBlank (Text.unifyBreaks text) = false →
      session.yaml (Text.unifyBreaks text) = .ok root →
      (∀ entries, root.entries? = some entries → load session path = ofEntries entries) ∧
      (root.now = .null ∨ root.now.IsHollow → load session path = .ok {}) ∧
      (root.entries? = none → root.now ≠ .null → ¬ root.now.IsHollow →
        load session path = .error (.settingsNotMapping full.name)) := by
  have blanks := load_of_allBlank holds decoded
  refine ⟨blanks, fun commentary printable same => ?_, fun root filled loaded => ⟨fun entries mapping => ?_, ?_, ?_⟩⟩
  · cases filled : Text.allBlank (Text.unifyBreaks text) with
    | true => exact blanks filled
    | false =>
      have loaded := Yaml.load_of_isCommentary outerLevels commentary
      rw [if_pos printable, ← same] at loaded
      exact load_of_not_isTruthy holds decoded filled loaded rfl
  · cases something : root.isTruthy with
    | true => rw [load_of_isTruthy holds decoded filled loaded something, ofRoot_of_entries? mapping]
    | false =>
      rw [load_of_not_isTruthy holds decoded filled loaded something, ← ofEntries_nil]
      rcases root.entries?_of_not_isTruthy something with empty | ⟨noMapping, -⟩
      · rw [Option.some.inj (empty.symm.trans mapping)]
      · cases noMapping.symm.trans mapping
  · intro nothing
    refine load_of_not_isTruthy holds decoded filled loaded ?_
    rw [← Value.isTruthy_now]
    rcases nothing with null | hollow
    · rw [null]
      rfl
    · exact Value.isTruthy_of_isHollow hollow
  · intro noMapping given full
    cases something : root.isTruthy with
    | true => rw [load_of_isTruthy holds decoded filled loaded something, ofRoot, noMapping]
    | false =>
      rcases root.entries?_of_not_isTruthy something with empty | ⟨-, null | hollow⟩
      · cases noMapping.symm.trans empty
      · exact absurd null given
      · exact absurd hollow full

end Files

/-! ### A settings file -/

/-- A session in a directory with a settings file of the content `text`. -/
def sessionOf (text : String) : Session where
  files :=
    { entries := [(["work", "a.yml"], .file (Encoding.Utf8.encode text.toList)), (["work"], .directory)] }
  directory := { root := .root, parts := ["work"] }
  home := { root := .root, parts := ["work"] }

theorem holdsFile_sessionOf (text : String) :
    HoldsFile (sessionOf text) (.ofString "a.yml") { root := .root, parts := ["work", "a.yml"] }
      (Encoding.Utf8.encode text.toList) where
  resolved := rfl
  isFile := rfl
  read := rfl

/-- A list is reported. -/
theorem load_root_listed :
    HoldsFile (sessionOf "- title: Tools\n") (.ofString "a.yml") { root := .root, parts := ["work", "a.yml"] }
        (Encoding.Utf8.encode "- title: Tools\n".toList) ∧
      load (sessionOf "- title: Tools\n") (.ofString "a.yml") = .error (.settingsNotMapping "a.yml") := by
  have holds := holdsFile_sessionOf "- title: Tools\n"
  have decoded := Encoding.Utf8.decode_encode "- title: Tools\n".toList
  obtain ⟨root, loaded, something⟩ :
      ∃ root, Yaml.load outerLevels (Text.unifyBreaks "- title: Tools\n".toList) = .ok root ∧
        (root.entries?.isNone && root.isTruthy) = true :=
    exists_ok_of_any (by decide +kernel)
  rw [Bool.and_eq_true, Option.isNone_iff_eq_none, ← Value.isTruthy_now] at something
  have filled : Text.allBlank (Text.unifyBreaks "- title: Tools\n".toList) = false := by decide +kernel
  obtain ⟨-, -, roots⟩ := load_root holds decoded
  refine ⟨holds, (roots root filled loaded).2.2 something.1 ?_ ?_⟩
  · intro null
    rw [null] at something
    cases something.2
  · intro hollow
    rw [Value.isTruthy_of_isHollow hollow] at something
    cases something.2

/-- A list without items is no mapping, and not null, but it is not reported. -/
theorem load_emptyList :
    (∃ root, Yaml.load outerLevels (Text.unifyBreaks "[]\n".toList) = .ok root ∧ root.items? = some []) ∧
      load (sessionOf "[]\n") (.ofString "a.yml") = .ok {} := by
  obtain ⟨root, loaded, empty⟩ :
      ∃ root, Yaml.load outerLevels (Text.unifyBreaks "[]\n".toList) = .ok root ∧
        (root.items?.any List.isEmpty && !root.isTruthy) = true :=
    exists_ok_of_any (by decide +kernel)
  rw [Bool.and_eq_true, Bool.not_eq_true', Option.any_eq_true] at empty
  obtain ⟨⟨items, isList, noItems⟩, nothing⟩ := empty
  have filled : Text.allBlank (Text.unifyBreaks "[]\n".toList) = false := by decide +kernel
  refine ⟨⟨root, loaded, by rw [isList, List.isEmpty_iff.1 noItems]⟩, ?_⟩
  exact load_of_not_isTruthy (holdsFile_sessionOf "[]\n") (Encoding.Utf8.decode_encode _) filled loaded nothing

end Settings

end AssemblyInfo
