import AssemblyInfo.Proofs.Encoding.SourceForm
import AssemblyInfo.Proofs.ParseResult.Load

/-!
# Source files in several encodings

What a source file declares depends on its text only, not on the form that the text has in the file.
-/

namespace AssemblyInfo.ParseResult
open Encoding

theorem ofBytes_sourceForm (dialect : Dialect) {form : SourceForm} {text : String}
    (suits : form.Suits text.toList) : ofBytes dialect (form.bytes text.toList) = ofText dialect text := by
  unfold ofBytes ofText
  rw [SourceForm.decodeSource_bytes suits]

/-- A text is decoded from every form that suits it, and a file with the text in any such form declares
what the text declares. -/
theorem load_sourceForm (form : SourceForm) (text : String) (suits : form.Suits text.toList) :
    decodeSource (form.bytes text.toList) = text.toList ∧
    ∀ (session : Session) (base? : Option FilePath) (path : FilePath), session.LogsOpen →
      HoldsSource session (session.placed base? path) (form.bytes text.toList) →
      ((load base? (some path)).run session).1 =
        .ok (ofText (Dialect.ofPath (session.placed base? path)) text) := by
  refine ⟨SourceForm.decodeSource_bytes suits, ?_⟩
  intro session base? path opened holds
  rw [run_load_of_holdsSource opened holds, ofBytes_sourceForm _ suits]

/-- A text with a character that is written as a surrogate pair. -/
def clefSource : String := "[assembly: AssemblyTitle(\"𝄞\")]"

/-- A session with `clefSource` in a file, with the low bytes first. -/
def clefSession : Session where
  files := { entries := [
    (["work"], .directory),
    (["work", "Info.cs"], .file ((SourceForm.marked (.utf16 .littleEndian)).bytes clefSource.toList))] }
  directory := { root := .root, parts := ["work"] }
  home := { root := .root, parts := ["work"] }

theorem load_sourceForm_clef :
    (SourceForm.marked (.utf16 .littleEndian)).Suits clefSource.toList ∧ clefSession.LogsOpen ∧
      ((SourceForm.marked (.utf16 .littleEndian)).bytes clefSource.toList).take 4 =
        [0xFF, 0xFE, 0x5B, 0x00] ∧
      decodeSource ((SourceForm.marked (.utf16 .littleEndian)).bytes clefSource.toList) =
        clefSource.toList ∧
      ∃ result, ((load none (some (.ofString "Info.cs"))).run clefSession).1 = .ok result ∧
        result.value .title = some "𝄞" := by
  have suits : (SourceForm.marked (.utf16 .littleEndian)).Suits clefSource.toList := by
    change clefSource.toList.head? ≠ some '\x00'
    decide
  have opened : clefSession.LogsOpen := by
    intro location logs
    cases logs
  have apart : ¬ clefSession.LogsTo ["work", "Info.cs"] := by
    intro logs
    cases logs
  obtain ⟨decoded, loaded⟩ := load_sourceForm _ clefSource suits
  have holds : HoldsSource clefSession (clefSession.placed none (.ofString "Info.cs"))
      ((SourceForm.marked (.utf16 .littleEndian)).bytes clefSource.toList) :=
    ⟨by decide, _, rfl, rfl, apart⟩
  exact ⟨suits, opened, by decide, decoded, _, loaded clefSession none _ opened holds, by decide +kernel⟩

end AssemblyInfo.ParseResult
