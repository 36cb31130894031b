import AssemblyInfo.Proofs.Encoding.Utf8Lines
import AssemblyInfo.Proofs.ParseResult.Lines
import AssemblyInfo.ParseResult.Load

/-!
# Damaged source files

In a source file without a byte order mark, bytes that cannot be read do no harm beyond their line. What
the file declares is what its lines declare, each decoded on its own.
-/

namespace AssemblyInfo
open Encoding Text

/-- Two byte strings that differ in one line only. -/
structure OneLineApart (first second : List UInt8) where
  before : List (List UInt8)
  line : List UInt8
  other : List UInt8
  after : List (List UInt8)
  first_lines : first.splitOn lineFeed = before ++ line :: after
  second_lines : second.splitOn lineFeed = before ++ other :: after

/-- `apart.Confines read` says that `read` finds the same in both byte strings, in the same order, but for
what it finds in the line that differs. -/
def OneLineApart.Confines {α : Type} {first second : List UInt8} (apart : OneLineApart first second)
    (read : List Char → List α) : Prop :=
  let found := fun line => read (Utf8.decodeReplacing line)
  read (decodeSource first) = apart.before.flatMap found ++ found apart.line ++ apart.after.flatMap found ∧
    read (decodeSource second) = apart.before.flatMap found ++ found apart.other ++ apart.after.flatMap found

/-- `ReadsByLine read` says that `read` finds in a text what it finds on its lines. -/
def ReadsByLine {α : Type} (read : List Char → List α) : Prop :=
  ∀ first second, read (first ++ '\n' :: second) = read first ++ read second

theorem ReadsByLine.of_filterMap {α : Type} {read : List Char → List α} {readLine : List Char → Option α}
    (byLines : ∀ text, read text = (splitLines text).filterMap readLine) : ReadsByLine read := by
  intro first second
  rw [byLines, byLines, byLines, splitLines_append, List.filterMap_append]

/-- The lines of a byte string are decoded one by one. -/
theorem ReadsByLine.decodeReplacing {α : Type} {read : List Char → List α} (byLine : ReadsByLine read)
    (bytes : List UInt8) :
    read (Utf8.decodeReplacing bytes) =
      (bytes.splitOn lineFeed).flatMap fun line => read (Utf8.decodeReplacing line) := by
  by_cases feed : lineFeed ∈ bytes
  · obtain ⟨line, rest, split, single⟩ := List.eq_append_cons_of_mem feed
    have shorter : rest.length < bytes.length := by
      rw [split, List.length_append, List.length_cons]
      omega
    have later := decodeReplacing byLine rest
    rw [split, Utf8.decodeReplacing_append_lineFeed, byLine, later, List.splitOn_append_cons_self,
      List.flatMap_append, List.splitOn_eq_singleton single, List.flatMap_singleton]
  · rw [List.splitOn_eq_singleton feed, List.flatMap_singleton]
termination_by bytes.length

theorem OneLineApart.confines {α : Type} {read : List Char → List α} (byLine : ReadsByLine read)
    {first second : List UInt8} (apart : OneLineApart first second)
    (firstUnmarked : markedCharset? first = none) (secondUnmarked : markedCharset? second = none) :
    apart.Confines read := by
  have lines : ∀ bytes line, markedCharset? bytes = none →
      bytes.splitOn lineFeed = apart.before ++ line :: apart.after →
      read (decodeSource bytes) =
        apart.before.flatMap (fun line => read (Utf8.decodeReplacing line)) ++
          read (Utf8.decodeReplacing line) ++
          apart.after.flatMap fun line => read (Utf8.decodeReplacing line) := by
    intro bytes line unmarked split
    rw [decodeSource_of_unmarked unmarked, byLine.decodeReplacing, split, List.flatMap_append,
      List.flatMap_cons, List.append_assoc]
  exact ⟨lines first apart.line firstUnmarked apart.first_lines,
    lines second apart.other secondUnmarked apart.second_lines⟩

namespace ParseResult

/-- Without a byte order mark, lines are decoded each on its own. So of two files that differ in one line
all other lines declare the same, in the same order, whatever bytes the one line holds. -/
theorem decodeSource_lines :
    (∀ before after, markedCharset? (before ++ lineFeed :: after) = none →
      decodeSource (before ++ lineFeed :: after) =
        Utf8.decodeReplacing before ++ '\n' :: Utf8.decodeReplacing after) ∧
    ∀ {first second : List UInt8} (apart : OneLineApart first second), markedCharset? first = none →
      markedCharset? second = none → ∀ dialect : Dialect,
        (∀ field : Field, apart.Confines (field.declarations dialect)) ∧
        apart.Confines (declaredAll dialect .quoted internalsVisibleToName) ∧
        apart.Confines customAll := by
  constructor
  · intro before after unmarked
    rw [decodeSource_of_unmarked unmarked, Utf8.decodeReplacing_append_lineFeed]
  · intro first second apart firstUnmarked secondUnmarked dialect
    have confines := fun {α : Type} {read : List Char → List α} (byLine : ReadsByLine read) =>
      apart.confines byLine firstUnmarked secondUnmarked
    refine ⟨fun field => confines (.of_filterMap (declarations_eq_filterMap field dialect)), ?_,
      confines (.of_filterMap customAll_eq_filterMap)⟩
    exact confines (.of_filterMap (declaredAll_eq_filterMap dialect .quoted newline_notMem_internalsVisibleToName))

/-- A declaration with `bytes` in its argument. -/
def copyrightLine (bytes : List UInt8) : List UInt8 :=
  Utf8.encode "[assembly: AssemblyCopyright(\"".toList ++ bytes ++ Utf8.encode "\")]".toList

/-- A file whose first line is `line`. -/
def fileWith (line : List UInt8) : List UInt8 :=
  line ++ lineFeed :: Utf8.encode "[assembly: AssemblyTitle(\"Legacy\")]".toList

/-- A file with a legacy copyright sign, and the same file cut within a character at the end of its first
line. -/
def legacyApart : OneLineApart (fileWith (copyrightLine [0xA9, 0x20])) (fileWith [0x5B, 0xE2, 0x82]) where
  before := []
  line := copyrightLine [0xA9, 0x20]
  other := [0x5B, 0xE2, 0x82]
  after := [Utf8.encode "[assembly: AssemblyTitle(\"Legacy\")]".toList]
  first_lines := by decide +kernel
  second_lines := by decide +kernel

theorem decodeSource_lines_legacy :
    markedCharset? (fileWith (copyrightLine [0xA9, 0x20])) = none ∧
      markedCharset? (fileWith [0x5B, 0xE2, 0x82]) = none ∧
      (decodeSource (fileWith [0x5B, 0xE2, 0x82])).take 3 = ['[', replacement, '\n'] ∧
      Field.title.declarations .csharp (decodeSource (fileWith (copyrightLine [0xA9, 0x20]))) = ["Legacy"] ∧
      Field.title.declarations .csharp (decodeSource (fileWith [0x5B, 0xE2, 0x82])) = ["Legacy"] := by
  have firstUnmarked : markedCharset? (fileWith (copyrightLine [0xA9, 0x20])) = none := by decide +kernel
  have secondUnmarked : markedCharset? (fileWith [0x5B, 0xE2, 0x82]) = none := by decide +kernel
  obtain ⟨decoded, confined⟩ := decodeSource_lines
  obtain ⟨fields, _, _⟩ := confined legacyApart firstUnmarked secondUnmarked .csharp
  obtain ⟨first, second⟩ := fields .title
  refine ⟨firstUnmarked, secondUnmarked, ?_, ?_, ?_⟩
  · have cut := decoded [0x5B, 0xE2, 0x82] _ secondUnmarked
    rw [fileWith, cut]
    rfl
  · rw [first]
    decide +kernel
  · rw [second]
    decide +kernel

end ParseResult

end AssemblyInfo
