import AssemblyInfo.Proofs.FileSystem.Extends

/-!
# Places along paths

Where a change of the files happens. Directories are made at places that a path passes, where nothing
stands. A file is written to the place that its path leads to. Everywhere else all stays as it is.
-/

namespace AssemblyInfo

namespace FilePath

/-! ### Paths without pairs of dots -/

theorem collapse_of_not_mem {before parts : List String} (plain : ".." ∉ parts) :
    collapse before parts = before.reverse ++ parts := by
  induction parts generalizing before with
  | nil => rw [collapse, List.append_nil]
  | cons part rest ih =>
    obtain ⟨forth, later⟩ := List.ne_and_not_mem_of_not_mem_cons plain
    rw [collapse, if_neg (Ne.symm forth), ih later, List.reverse_cons, List.append_assoc, List.singleton_append]

theorem not_mem_collapse {before parts : List String} (plain : ".." ∉ before) :
    ".." ∉ collapse before parts := by
  induction parts generalizing before with
  | nil => rwa [collapse, List.mem_reverse]
  | cons part rest ih =>
    unfold collapse
    split
    · exact ih fun member => plain (List.mem_of_mem_tail member)
    · rename_i forth
      exact ih (List.not_mem_cons_of_ne_of_not_mem (Ne.symm forth) plain)

theorem normalized_normalized (path : FilePath) : path.normalized.normalized = path.normalized := by
  unfold normalized
  rw [collapse_of_not_mem (not_mem_collapse List.not_mem_nil), List.reverse_nil, List.nil_append]

/-! ### Places on the way -/

/-- `path.Passes location` says that some of the first components of `path` lead to `location`. -/
def Passes (path : FilePath) (location : Location) : Prop :=
  ∃ start, start <+: path.parts ∧ location = collapse [] start

end FilePath

namespace FileSystem

/-- `later` has at each place what `files` has there, unless the place is exempt. -/
def SameOutside (exempt : Location → Prop) (files later : FileSystem) : Prop :=
  ∀ location, ¬ exempt location → later.at? location = files.at? location

/-- `later` has at each place what `files` has there, unless the place is exempt, or a directory has been
made there, where `path` passes and nothing stood. -/
def KeptAlong (exempt : Location → Prop) (path : FilePath) (files later : FileSystem) : Prop :=
  ∀ location, ¬ exempt location →
    later.at? location = files.at? location ∨
      files.at? location = none ∧ later.at? location = some .directory ∧ path.Passes location

variable {exempt : Location → Prop} {path : FilePath} {files next later : FileSystem}

theorem SameOutside.refl (exempt : Location → Prop) (files : FileSystem) : SameOutside exempt files files :=
  fun _ _ => rfl

theorem SameOutside.trans (first : SameOutside exempt files next) (second : SameOutside exempt next later) :
    SameOutside exempt files later := by
  intro location other
  rw [second location other, first location other]

theorem SameOutside.mono {wider : Location → Prop} (same : SameOutside exempt files later)
    (within : ∀ location, exempt location → wider location) : SameOutside wider files later :=
  fun location other => same location (mt (within location) other)

theorem KeptAlong.trans (first : KeptAlong exempt path files next)
    (second : KeptAlong exempt path next later) : KeptAlong exempt path files later := by
  intro location other
  rcases first location other with same | ⟨free, made, passed⟩
  · rw [← same]
    exact second location other
  -- Nothing is made where the first has made a directory.
  · rcases second location other with same | ⟨freeAgain, -, -⟩
    · exact Or.inr ⟨free, same.trans made, passed⟩
    · rw [made] at freeAgain
      cases freeAgain

theorem KeptAlong.mono {wider : Location → Prop} (kept : KeptAlong exempt path files later)
    (within : ∀ location, exempt location → wider location) : KeptAlong wider path files later :=
  fun location other => kept location (mt (within location) other)

theorem sameOutside_append (files : FileSystem) {location : Location} (exempted : exempt location)
    (data : List UInt8) : SameOutside exempt files (files.append location data) := by
  intro other outside
  have different : other ≠ location := by
    rintro rfl
    exact outside exempted
  unfold append
  split <;> exact at?_put_of_ne files different _

end FileSystem

end AssemblyInfo
