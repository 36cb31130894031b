import AssemblyInfo.Proofs.FileSystem.Place
import AssemblyInfo.Proofs.Outcome
import AssemblyInfo.Settings.Load

/-!
# Resolving paths

Where a path leads that may start with a tilde, and which paths lead nowhere: the home directory of a stranger,
a null character, and a path or component that is too long.
-/

namespace AssemblyInfo

variable {fault : Fault}

/-! ### Long paths -/

namespace FileSystem

/-- `files.IsTooLong path` says that `path`, or a component that existing directories lead to, is too long. -/
def IsTooLong (files : FileSystem) (path : FilePath) : Prop :=
  pathLimit ≤ path.toString.utf8ByteSize ∨
    ∃ before part after, path.parts = before ++ part :: after ∧ nameLimit < part.utf8ByteSize ∧
      ∀ start, start <+: before → files.at? start = some .directory

theorem requireDirectory_eq_ok {files : FileSystem} {location : Location} :
    files.requireDirectory location = .ok () ↔ files.at? location = some .directory := by
  refine ⟨requireDirectory_ok, ?_⟩
  intro here
  rw [requireDirectory, here]

theorem requireDirectory_ne_tooLong (files : FileSystem) (location : Location) :
    files.requireDirectory location ≠ .error .nameTooLong := by
  unfold requireDirectory
  split <;> nofun

/-- `files.IsLongFrom location parts` says that a component of `parts` is too long, and that directories lead to it
from `location` on. -/
def IsLongFrom (files : FileSystem) (location : Location) (parts : List String) : Prop :=
  ∃ before part after, parts = before ++ part :: after ∧ nameLimit < part.utf8ByteSize ∧
    ∀ start, start <+: before → files.at? (location ++ start) = some .directory

theorem isLongFrom_cons {files : FileSystem} {location : Location} {first : String} {rest : List String} :
    files.IsLongFrom location (first :: rest) ↔ files.at? location = some .directory ∧
      (nameLimit < first.utf8ByteSize ∨ files.IsLongFrom (location ++ [first]) rest) := by
  constructor
  · rintro ⟨before, part, after, same, long, directories⟩
    have here := directories [] List.nil_prefix
    rw [List.append_nil] at here
    refine ⟨here, ?_⟩
    cases before with
    | nil =>
      obtain ⟨rfl, -⟩ := List.cons.inj same
      exact Or.inl long
    | cons other before =>
      obtain ⟨rfl, rfl⟩ := List.cons.inj same
      refine Or.inr ⟨before, part, after, rfl, long, ?_⟩
      intro start within
      rw [← List.append_cons]
      exact directories (first :: start) (List.cons_prefix_cons.2 ⟨rfl, within⟩)
  · rintro ⟨here, long | ⟨before, part, after, rfl, long, directories⟩⟩
    · refine ⟨[], first, rest, rfl, long, ?_⟩
      intro start within
      rw [List.prefix_nil.1 within, List.append_nil]
      exact here
    · refine ⟨first :: before, part, after, rfl, long, ?_⟩
      intro start within
      rcases List.prefix_cons_iff.1 within with rfl | ⟨more, rfl, inner⟩
      · rw [List.append_nil]
        exact here
      · rw [List.append_cons]
        exact directories more inner

/-- A long component is found on the way, if the way leads so far. -/
theorem follow_eq_tooLong {files : FileSystem} {parts : List String} (plain : ".." ∉ parts) (location : Location) :
    files.follow location parts = .error .nameTooLong ↔ files.IsLongFrom location parts := by
  induction parts generalizing location with
  | nil => exact iff_of_false nofun (by rintro ⟨before, part, after, same, -⟩; simp at same)
  | cons first rest ih =>
    obtain ⟨forth, plain⟩ := List.ne_and_not_mem_of_not_mem_cons plain
    rw [isLongFrom_cons, ← requireDirectory_eq_ok]
    unfold follow
    cases required : files.requireDirectory location with
    | error cause =>
      have other : cause ≠ .nameTooLong := by
        rintro rfl
        exact files.requireDirectory_ne_tooLong location required
      refine iff_of_false (fun failed => other (Except.error.inj failed)) ?_
      rintro ⟨⟨⟩, -⟩
    | ok _ =>
      rw [ok_bind, if_neg (Ne.symm forth)]
      split
      · rename_i long
        exact iff_of_true rfl ⟨rfl, Or.inl long⟩
      · rename_i short
        rw [ih plain, or_iff_right short]
        exact ⟨fun later => ⟨rfl, later⟩, And.right⟩

theorem locate_eq_tooLong {files : FileSystem} {path : FilePath} (plain : ".." ∉ path.parts) :
    files.locate path = .error .nameTooLong ↔ files.IsTooLong path := by
  unfold locate IsTooLong
  split
  · rename_i short
    rw [follow_eq_tooLong plain, or_iff_right (Nat.not_le.2 short)]
    rfl
  · rename_i long
    exact iff_of_true rfl (Or.inl (Nat.not_lt.1 long))

theorem isFile_eq_error {files : FileSystem} {path : FilePath} (noNull : path.hasNull = false)
    (plain : ".." ∉ path.parts) :
    files.isFile path = .error fault ↔ files.IsTooLong path ∧ fault = refuse path .nameTooLong := by
  have found : files.find? path = .error fault ↔ files.IsTooLong path ∧ fault = refuse path .nameTooLong := by
    unfold find?
    rw [noNull, ← locate_eq_tooLong plain]
    cases files.locate path with
    | ok location => exact iff_of_false nofun (by rintro ⟨⟨⟩, -⟩)
    | error cause => cases cause <;> simp [eq_comm]
  unfold isFile
  rw [bind_eq_error, found, or_iff_left]
  rintro ⟨entry, -, failed⟩
  split at failed <;> cases failed

end FileSystem

/-! ### Null characters -/

namespace FilePath

theorem mem_of_mem_collapse {before parts : List String} {part : String} (member : part ∈ collapse before parts) :
    part ∈ before ∨ part ∈ parts := by
  induction parts generalizing before with
  | nil => exact Or.inl (List.mem_reverse.1 member)
  | cons first rest ih =>
    unfold collapse at member
    split at member
    · rcases ih member with earlier | later
      · exact Or.inl (List.mem_of_mem_tail earlier)
      · exact Or.inr (List.mem_cons_of_mem _ later)
    · rcases ih member with earlier | later
      · rcases List.mem_cons.1 earlier with rfl | earlier
        · exact Or.inr List.mem_cons_self
        · exact Or.inl earlier
      · exact Or.inr (List.mem_cons_of_mem _ later)

theorem hasNull_normalized {path : FilePath} (noNull : path.hasNull = false) : path.normalized.hasNull = false := by
  unfold hasNull at noNull ⊢
  rw [List.any_eq_false] at noNull ⊢
  intro part member
  rcases mem_of_mem_collapse member with ⟨⟨⟩⟩ | member
  exact noNull part member

end FilePath

/-! ### Paths from home -/

/-- `path.StartsAtHome user` says that `path` starts with a tilde and the name `user`. -/
def FilePath.StartsAtHome (path : FilePath) (user : List Char) : Prop :=
  path.root = .here ∧ ∃ rest, path.parts.map String.toList = ('~' :: user) :: rest

namespace Session

variable {session : Session} {path full : FilePath}

/-- `session.LeadsTo path full` says that `path` leads to the absolute path `full`. -/
inductive LeadsTo (session : Session) (path : FilePath) : FilePath → Prop
  | plain (noTilde : ∀ user, ¬ path.StartsAtHome user) : LeadsTo session path (session.absolute path)
  | fromHome {user : List Char} {home : FilePath} (tilde : path.StartsAtHome user) (noNull : '\x00' ∉ user)
    (lives : session.homeOf? (String.ofList user) = some home) :
    LeadsTo session path (session.absolute (home.join { path with parts := path.parts.tail }))

/-- `session.LeadsNowhere path fault` says that `path` leads nowhere because of `fault`. -/
inductive LeadsNowhere (session : Session) (path : FilePath) : Fault → Prop
  | nullInName {user : List Char} (tilde : path.StartsAtHome user) (null : '\x00' ∈ user) :
    LeadsNowhere session path .nullInPath
  | stranger {user : List Char} (tilde : path.StartsAtHome user) (noNull : '\x00' ∉ user)
    (unknown : session.homeOf? (String.ofList user) = none) : LeadsNowhere session path .noHome
  | null {full : FilePath} (leads : session.LeadsTo path full) (null : full.hasNull = true) :
    LeadsNowhere session path .nullInPath
  | tooLong {full : FilePath} (leads : session.LeadsTo path full) (noNull : full.hasNull = false)
    (long : session.files.IsTooLong { full.normalized with root := .root }) :
    LeadsNowhere session path (FileSystem.refuse { full.normalized with root := .root } .nameTooLong)

theorem expanded_of_startsAtHome {user : List Char} (tilde : path.StartsAtHome user) :
    session.expanded path =
      if '\x00' ∈ user then .error .nullInPath
      else (session.homeOf? (String.ofList user)).elim (.error .noHome) fun home =>
        .ok (home.join { path with parts := path.parts.tail }) := by
  obtain ⟨here, rest, parts⟩ := tilde
  unfold expanded
  rw [here, parts]
  simp only [List.contains_iff_mem]
  cases session.homeOf? (String.ofList user) <;> rfl

theorem expanded_of_plain (noTilde : ∀ user, ¬ path.StartsAtHome user) : session.expanded path = .ok path := by
  unfold expanded
  split
  · rename_i user rest here parts
    exact absurd ⟨here, rest, parts⟩ (noTilde user)
  · rfl

theorem leadsTo_iff :
    session.LeadsTo path full ↔ ∃ expanded, session.expanded path = .ok expanded ∧ full = session.absolute expanded := by
  constructor
  · rintro (noTilde | ⟨tilde, noNull, lives⟩)
    · exact ⟨path, expanded_of_plain noTilde, rfl⟩
    · refine ⟨_, ?_, rfl⟩
      rw [expanded_of_startsAtHome tilde, if_neg noNull, lives]
      rfl
  · rintro ⟨expanded, done, rfl⟩
    by_cases tilde : ∃ user, path.StartsAtHome user
    · obtain ⟨user, tilde⟩ := tilde
      rw [expanded_of_startsAtHome tilde] at done
      split at done
      · cases done
      · rename_i noNull
        cases lives : session.homeOf? (String.ofList user) with
        | none =>
          rw [lives] at done
          cases done
        | some home =>
          rw [lives] at done
          obtain rfl := Except.ok.inj done
          exact .fromHome tilde noNull lives
    · have noTilde := not_exists.1 tilde
      rw [expanded_of_plain noTilde] at done
      obtain rfl := Except.ok.inj done
      exact .plain noTilde

theorem resolved_of_leadsTo (leads : session.LeadsTo path full) :
    session.resolved path =
      if full.hasNull then .error .nullInPath else .ok { full.normalized with root := .root } := by
  obtain ⟨expanded, done, rfl⟩ := leadsTo_iff.1 leads
  unfold resolved
  rw [done]
  rfl

theorem resolved_of_expanded_eq_error (failed : session.expanded path = .error fault) :
    session.resolved path = .error fault := by
  rw [resolved, failed]
  rfl

theorem leadsNowhere_of_expanded (failed : session.expanded path = .error fault) :
    session.LeadsNowhere path fault := by
  by_cases tilde : ∃ user, path.StartsAtHome user
  · obtain ⟨user, tilde⟩ := tilde
    rw [expanded_of_startsAtHome tilde] at failed
    split at failed
    · rename_i null
      cases failed
      exact .nullInName tilde null
    · rename_i noNull
      cases lives : session.homeOf? (String.ofList user) with
      | none =>
        rw [lives] at failed
        cases failed
        exact .stranger tilde noNull lives
      | some home =>
        rw [lives] at failed
        cases failed
  · rw [expanded_of_plain (not_exists.1 tilde)] at failed
    cases failed

/-- A file that is looked for under a resolved path is found or not, unless the path is too long. -/
theorem isFile_resolved (noNull : full.hasNull = false) :
    session.files.isFile { full.normalized with root := .root } = .error fault ↔
      session.files.IsTooLong { full.normalized with root := .root } ∧
        fault = FileSystem.refuse { full.normalized with root := .root } .nameTooLong :=
  FileSystem.isFile_eq_error (FilePath.hasNull_normalized noNull) (FilePath.not_mem_collapse List.not_mem_nil)

/-- A path that leads nowhere is refused when it is resolved, or when a file is looked for. -/
theorem leadsNowhere_iff :
    session.LeadsNowhere path fault ↔
      session.resolved path = .error fault ∨
        ∃ resolved, session.resolved path = .ok resolved ∧ session.files.isFile resolved = .error fault := by
  constructor
  · intro nowhere
    cases nowhere with
    | nullInName tilde null =>
      exact Or.inl (resolved_of_expanded_eq_error (by rw [expanded_of_startsAtHome tilde, if_pos null]))
    | stranger tilde noNull unknown =>
      refine Or.inl (resolved_of_expanded_eq_error ?_)
      rw [expanded_of_startsAtHome tilde, if_neg noNull, unknown]
      rfl
    | null leads null => exact Or.inl (by rw [resolved_of_leadsTo leads, if_pos null])
    | tooLong leads noNull long =>
      refine Or.inr ⟨_, ?_, (isFile_resolved noNull).2 ⟨long, rfl⟩⟩
      rw [resolved_of_leadsTo leads, noNull]
      rfl
  · intro refused
    cases done : session.expanded path with
    | error other =>
      rw [resolved_of_expanded_eq_error done] at refused
      rcases refused with same | ⟨_, ⟨⟩, _⟩
      cases same
      exact leadsNowhere_of_expanded done
    | ok expanded =>
      have leads : session.LeadsTo path (session.absolute expanded) := leadsTo_iff.2 ⟨expanded, done, rfl⟩
      rw [resolved_of_leadsTo leads] at refused
      cases null : (session.absolute expanded).hasNull with
      | true =>
        rw [null] at refused
        rcases refused with same | ⟨_, ⟨⟩, _⟩
        cases same
        exact .null leads null
      | false =>
        rw [null] at refused
        rcases refused with ⟨⟨⟩⟩ | ⟨_, same, failed⟩
        cases same
        obtain ⟨long, rfl⟩ := (isFile_resolved null).1 failed
        exact .tooLong leads null long

end Session

end AssemblyInfo
