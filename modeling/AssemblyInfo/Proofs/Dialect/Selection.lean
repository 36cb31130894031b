import AssemblyInfo.Dialect
import AssemblyInfo.Proofs.Text.LowerCase
import AssemblyInfo.Session
import Mathlib.Data.List.Basic

/-!
# Dialects of paths

The last component of a path decides in which dialect the file is written, in whatever way the path is
written and from wherever it is seen.
-/

namespace AssemblyInfo
open Text

namespace FilePath

/-! ### The last component -/

/-- `lastComponent? text` is the last component of the path `text` that is neither empty nor a dot. -/
def lastComponent? (text : String) : Option (List Char) :=
  ((text.toList.splitOn '/').filter fun part => part ≠ [] ∧ part ≠ ['.']).getLast?

theorem splitSlashes_eq_splitOn (chars : List Char) : splitSlashes chars = chars.splitOn '/' := by
  induction chars with
  | nil => rfl
  | cons c rest ih =>
    rw [splitSlashes, List.splitOn_cons_eq_if_modifyHead, ih]
    by_cases slash : c = '/'
    · rw [if_pos slash, if_pos (beq_iff_eq.2 slash)]
    · rw [if_neg slash, if_neg (mt beq_iff_eq.1 slash)]
      cases found : rest.splitOn '/' with
      | nil => exact (List.splitOn_ne_nil _ _ found).elim
      | cons part parts => rfl

theorem isPart_ofList (part : List Char) :
    isPart (String.ofList part) = decide (part ≠ [] ∧ part ≠ ['.']) := by
  have spelled (text : String) : (String.ofList part = text) ↔ part = text.toList := by
    rw [← String.toList_inj, String.toList_ofList]
  rw [isPart, Bool.eq_iff_iff, Bool.and_eq_true, bne_iff_ne, bne_iff_ne, decide_eq_true_eq, ne_eq, ne_eq,
    spelled, spelled]
  rfl

theorem parts_ofString (text : String) :
    (ofString text).parts =
      ((text.toList.splitOn '/').filter fun part => part ≠ [] ∧ part ≠ ['.']).map String.ofList := by
  unfold ofString
  rw [splitSlashes_eq_splitOn, List.filter_map]
  refine congrArg _ (List.filter_congr fun part _ => ?_)
  exact isPart_ofList part

theorem getLast?_parts_ofString (text : String) :
    (ofString text).parts.getLast? = (lastComponent? text).map String.ofList := by
  rw [parts_ofString, List.getLast?_map, lastComponent?]

theorem parts_ofString_ne_nil {text : String} (named : lastComponent? text ≠ none) :
    (ofString text).parts ≠ [] := by
  intro empty
  have last := getLast?_parts_ofString text
  rw [empty] at last
  exact named (Option.map_eq_none_iff.1 last.symm)

theorem toList_name_ofString (text : String) :
    (ofString text).name.toList = (lastComponent? text).getD [] := by
  rw [name, getLast?_parts_ofString]
  cases lastComponent? text with
  | none => rfl
  | some part => exact String.toList_ofList

/-! ### Suffixes -/

theorem eq_append_of_lastDot? {chars stem ending : List Char} (found : lastDot? chars = some (stem, ending)) :
    chars = stem ++ ending := by
  induction chars generalizing stem with
  | nil => cases found
  | cons c rest ih =>
    rw [lastDot?] at found
    split at found
    · rename_i before after later
      obtain ⟨rfl, rfl⟩ := Prod.mk.inj (Option.some.inj found)
      exact congrArg (c :: ·) (ih later)
    · split at found
      · obtain ⟨rfl, rfl⟩ := Prod.mk.inj (Option.some.inj found)
        rfl
      · cases found

theorem lastDot?_of_notMem {chars : List Char} (absent : '.' ∉ chars) : lastDot? chars = none := by
  induction chars with
  | nil => rfl
  | cons c rest ih =>
    rw [List.mem_cons, not_or] at absent
    rw [lastDot?, ih absent.2]
    exact if_neg (Ne.symm absent.1)

theorem lastDot?_append {rest : List Char} (absent : '.' ∉ rest) (stem : List Char) :
    lastDot? (stem ++ '.' :: rest) = some (stem, '.' :: rest) := by
  induction stem with
  | nil =>
    rw [List.nil_append, lastDot?, lastDot?_of_notMem absent]
    rfl
  | cons c stem ih => rw [List.cons_append, lastDot?, ih]

theorem suffixOf_append {stem rest : List Char} (nonempty : stem ≠ []) (further : rest ≠ [])
    (absent : '.' ∉ rest) : suffixOf (stem ++ '.' :: rest) = '.' :: rest := by
  rw [suffixOf, lastDot?_append absent]
  cases stem with
  | nil => exact absurd rfl nonempty
  | cons c stem =>
    cases rest with
    | nil => exact absurd rfl further
    | cons d rest => rfl

theorem exists_stem_of_suffixOf {name : List Char} (present : suffixOf name ≠ []) :
    ∃ stem, stem ≠ [] ∧ name = stem ++ suffixOf name := by
  unfold suffixOf at present ⊢
  split at present
  · rename_i first stem dot c rest found
    exact ⟨first :: stem, List.cons_ne_nil _ _, eq_append_of_lastDot? found⟩
  · exact absurd rfl present

/-- A path with a name has the name wherever it is seen from. -/
theorem name_join (base : FilePath) {path : FilePath} (named : path.parts ≠ []) :
    (base.join path).name = path.name := by
  unfold join name
  split
  · rfl
  · rw [List.getLast?_append_of_ne_nil _ named]

end FilePath

namespace Dialect

theorem isSimple_suffix : ∀ c ∈ visualBasic.suffix.toList, IsSimple c := by
  intro c member
  have chars : visualBasic.suffix.toList = ['.', 'v', 'b'] := rfl
  rw [chars, List.mem_cons, List.mem_cons, List.mem_singleton] at member
  rcases member with rfl | rfl | rfl <;> exact ⟨by decide, by decide, by decide⟩

theorem lower_suffix_eq_iff (chars : List Char) :
    lower (String.ofList chars) = visualBasic.suffix ↔ chars.map Char.toLower = ".vb".toList := by
  rw [lower, ← String.toList_inj, String.toList_ofList, String.toList_ofList, lowerChars,
    lowerFrom_eq_iff [] isSimple_suffix]
  rfl

/-- A word that is spelled like the suffix of Visual Basic starts with a dot and has no other. -/
theorem eq_cons_of_map_toLower {ending : List Char} (spelled : ending.map Char.toLower = ".vb".toList) :
    ∃ rest, ending = '.' :: rest ∧ rest ≠ [] ∧ '.' ∉ rest := by
  have shape : ending.map Char.toLower = ['.', 'v', 'b'] := spelled
  obtain ⟨dot, rest, rfl, dotted, letters⟩ := List.map_eq_cons_iff.1 shape
  refine ⟨rest, ?_, ?_, ?_⟩
  · rcases toLower_cases dot with same | small
    · rw [← same, dotted]
    · rw [dotted] at small
      cases small
  · rintro rfl
    cases letters
  · intro member
    have lowered : Char.toLower '.' ∈ rest.map Char.toLower := List.mem_map_of_mem member
    rw [letters] at lowered
    exact absurd lowered (by decide)

theorem ofPath_eq_visualBasic_iff (path : FilePath) :
    ofPath path = .visualBasic ↔
      ∃ stem ending, path.name.toList = stem ++ ending ∧ stem ≠ [] ∧ ending.map Char.toLower = ".vb".toList := by
  have decided : ofPath path = .visualBasic ↔
      (FilePath.suffixOf path.name.toList).map Char.toLower = ".vb".toList := by
    rw [← lower_suffix_eq_iff]
    unfold ofPath
    split
    · exact iff_of_true rfl ‹_›
    · exact iff_of_false nofun ‹_›
  rw [decided]
  constructor
  · intro spelled
    have present : FilePath.suffixOf path.name.toList ≠ [] := by
      intro empty
      rw [empty] at spelled
      cases spelled
    obtain ⟨stem, nonempty, split⟩ := FilePath.exists_stem_of_suffixOf present
    exact ⟨stem, _, split, nonempty, spelled⟩
  · rintro ⟨stem, ending, split, nonempty, spelled⟩
    obtain ⟨rest, rfl, further, absent⟩ := eq_cons_of_map_toLower spelled
    rw [split, FilePath.suffixOf_append nonempty further absent]
    exact spelled

theorem ofPath_eq_csharp_iff (path : FilePath) : ofPath path = .csharp ↔ ofPath path ≠ .visualBasic := by
  cases ofPath path <;> decide

theorem ofPath_of_getLast?_dot {path : FilePath} (dotted : path.name.toList.getLast? = some '.') :
    ofPath path = .csharp := by
  rw [ofPath_eq_csharp_iff, ne_eq, ofPath_eq_visualBasic_iff]
  rintro ⟨stem, ending, split, -, spelled⟩
  obtain ⟨rest, rfl, -, -⟩ := eq_cons_of_map_toLower spelled
  rw [split, List.getLast?_append_of_ne_nil _ (List.cons_ne_nil _ _)] at dotted
  have last := congrArg List.getLast? spelled
  rw [List.getLast?_map, dotted] at last
  exact absurd last (by decide)

theorem ofPath_of_name_eq_suffix {path : FilePath} (bare : path.name.toList = ".vb".toList) :
    ofPath path = .csharp := by
  rw [ofPath_eq_csharp_iff, ne_eq, ofPath_eq_visualBasic_iff]
  rintro ⟨stem, ending, split, nonempty, spelled⟩
  have lengths := congrArg List.length (bare.symm.trans split)
  have three := congrArg List.length spelled
  rw [List.length_map] at three
  rw [List.length_append, three, Nat.right_eq_add, List.length_eq_zero_iff] at lengths
  exact nonempty lengths

theorem ofPath_join (base : FilePath) {path : FilePath} (named : path.parts ≠ []) :
    ofPath (base.join path) = ofPath path := by
  unfold ofPath FilePath.suffix
  rw [FilePath.name_join base named]

theorem ofPath_placed (session : Session) (base? : Option FilePath) {path : FilePath}
    (named : path.parts ≠ []) : ofPath (session.placed base? path) = ofPath path :=
  ofPath_join _ named

/-- Visual Basic is for the paths whose last component ends in its suffix, spelled in any case, with
something before it. So a component that is the suffix alone, or that ends in a dot, does not ask for it.
A path with a component has the same dialect wherever it is seen from. -/
theorem ofPath_ofString (text : String) :
    (ofPath (.ofString text) = .visualBasic ↔
      ∃ stem ending, FilePath.lastComponent? text = some (stem ++ ending) ∧ stem ≠ [] ∧
        ending.map Char.toLower = ".vb".toList) ∧
    (∀ name, FilePath.lastComponent? text = some name →
      name = ".vb".toList ∨ ".vb.".toList <:+ name ∨ "..".toList <:+ name →
      ofPath (.ofString text) = .csharp) ∧
    (FilePath.lastComponent? text ≠ none →
      (∀ base : FilePath, ofPath (base.join (.ofString text)) = ofPath (.ofString text)) ∧
      ∀ (session : Session) (base? : Option FilePath),
        ofPath (session.placed base? (.ofString text)) = ofPath (.ofString text)) := by
  have named := FilePath.toList_name_ofString text
  refine ⟨?_, fun name last special => ?_, fun present => ?_⟩
  · rw [ofPath_eq_visualBasic_iff, named]
    cases FilePath.lastComponent? text with
    | none =>
      refine iff_of_false ?_ (by rintro ⟨_, _, missing, -⟩; cases missing)
      rintro ⟨stem, ending, empty, nonempty, -⟩
      exact nonempty (List.append_eq_nil_iff.1 empty.symm).1
    | some name => simp only [Option.getD_some, Option.some.injEq]
  · rw [last, Option.getD_some] at named
    have ends {ending : List Char} (dotted : ending.getLast? = some '.') (suffix : ending <:+ name) :
        ofPath (.ofString text) = .csharp := by
      obtain ⟨before, rfl⟩ := suffix
      refine ofPath_of_getLast?_dot ?_
      rw [named, List.getLast?_append, dotted]
      rfl
    rcases special with rfl | vb | dots
    · exact ofPath_of_name_eq_suffix named
    · exact ends rfl vb
    · exact ends rfl dots
  · have parts := FilePath.parts_ofString_ne_nil present
    exact ⟨fun base => ofPath_join base parts, fun session base? => ofPath_placed session base? parts⟩

theorem ofPath_ofString_upperCase :
    ofPath (.ofString "My Project//Info.VB/./") = .visualBasic ∧
      ofPath (.ofString "Info.vb/.vb") = .csharp ∧
      ofPath ((FilePath.ofString "/work/Old.cs").join (.ofString "My Project//Info.VB/./")) = .visualBasic := by
  have present : FilePath.lastComponent? "My Project//Info.VB/./" = some "Info.VB".toList := by decide +kernel
  obtain ⟨selected, -, joined⟩ := ofPath_ofString "My Project//Info.VB/./"
  have basic := selected.2 ⟨"Info".toList, ".VB".toList, present, by decide, by decide⟩
  refine ⟨basic, (ofPath_ofString "Info.vb/.vb").2.1 ".vb".toList (by decide +kernel) (Or.inl rfl), ?_⟩
  rw [(joined (by rw [present]; nofun)).1, basic]

end Dialect

end AssemblyInfo
