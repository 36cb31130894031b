import AssemblyInfo.FileSystem.Change

/-!
# Growing file systems

No change turns a directory into a file or a file into a directory, or takes one away. So a path that
leads somewhere keeps leading there. Without links it leads to where its components without pairs of
dots say.
-/

namespace AssemblyInfo.FileSystem

theorem at?_put_of_ne (files : FileSystem) {location other : Location} (different : other ≠ location)
    (entry : Entry) : (files.put location entry).at? other = files.at? other := by
  have filtered : (files.entries.filter fun present => present.1 != location).lookup other =
      files.entries.lookup other := by
    induction files.entries with
    | nil => rfl
    | cons first rest ih =>
      obtain ⟨name, content⟩ := first
      by_cases removed : name = location
      · simp [removed, ih, List.lookup_cons, beq_eq_false_iff_ne.2 different]
      · simp [removed, ih, List.lookup_cons]
  unfold at? put
  simp [List.lookup_cons, beq_eq_false_iff_ne.2 different, filtered]

theorem at?_put {files : FileSystem} {location : Location} (free : files.at? location ≠ some .directory)
    (entry : Entry) (other : Location) :
    (files.put location entry).at? other = if other = location then some entry else files.at? other := by
  have nonempty : location ≠ [] := by
    rintro rfl
    exact free rfl
  by_cases same : other = location
  · subst same
    simp [at?, put, nonempty]
  · rw [at?_put_of_ne files same, if_neg same]

/-- Directories and files of `files` are there in `later` too, files perhaps with other bytes. -/
structure Extends (files later : FileSystem) : Prop where
  directories : ∀ location, files.at? location = some .directory → later.at? location = some .directory
  files : ∀ location data, files.at? location = some (.file data) →
    ∃ other, later.at? location = some (.file other)

theorem Extends.refl (files : FileSystem) : files.Extends files :=
  ⟨fun _ here => here, fun _ data here => ⟨data, here⟩⟩

theorem Extends.trans {files next later : FileSystem} (first : files.Extends next)
    (second : next.Extends later) : files.Extends later where
  directories location here := second.directories location (first.directories location here)
  files := by
    intro location data here
    obtain ⟨other, there⟩ := first.files location data here
    exact second.files location other there

theorem extends_put_file {files : FileSystem} {location : Location}
    (free : files.at? location ≠ some .directory) (data : List UInt8) :
    files.Extends (files.put location (.file data)) := by
  refine ⟨?_, ?_⟩
  · intro other here
    rw [at?_put free, if_neg]
    · exact here
    · rintro rfl
      exact free here
  · intro other before here
    rw [at?_put free]
    split
    · exact ⟨data, rfl⟩
    · exact ⟨before, here⟩

theorem extends_put_directory {files : FileSystem} {location : Location}
    (free : files.at? location = none) : files.Extends (files.put location .directory) := by
  have unoccupied : files.at? location ≠ some .directory := by
    rw [free]
    rintro ⟨⟩
  have other : ∀ place entry, files.at? place = some entry → place ≠ location := by
    rintro place entry here rfl
    rw [free] at here
    cases here
  refine ⟨?_, ?_⟩
  · intro place here
    rw [at?_put unoccupied, if_neg (other place _ here)]
    exact here
  · intro place data here
    rw [at?_put unoccupied, if_neg (other place _ here)]
    exact ⟨data, here⟩

/-! ### Following paths -/

theorem requireDirectory_ok {files : FileSystem} {location : Location}
    (required : files.requireDirectory location = .ok ()) : files.at? location = some .directory := by
  unfold requireDirectory at required
  split at required
  · assumption
  · cases required
  · cases required

theorem follow_of_extends {files later : FileSystem} (grown : files.Extends later) {parts : List String}
    {location target : Location} (led : files.follow location parts = .ok target) :
    later.follow location parts = .ok target := by
  induction parts generalizing location with
  | nil => exact led
  | cons part rest ih =>
    unfold follow at led ⊢
    cases required : files.requireDirectory location with
    | error cause =>
      rw [required] at led
      cases led
    | ok done =>
      have here := grown.directories location (requireDirectory_ok required)
      have there : later.requireDirectory location = .ok () := by
        unfold requireDirectory
        rw [here]
      rw [required] at led
      rw [there]
      change (if _ then _ else _) = _ at led ⊢
      split at led
      · rename_i back
        rw [if_pos back]
        exact ih led
      · rename_i forth
        rw [if_neg forth]
        split at led
        · cases led
        · rename_i short
          rw [if_neg short]
          exact ih led

theorem follow_eq_collapse {files : FileSystem} {parts : List String} {location target : Location}
    (led : files.follow location parts = .ok target) :
    target = FilePath.collapse location.reverse parts := by
  induction parts generalizing location with
  | nil =>
    unfold FilePath.collapse
    rw [List.reverse_reverse]
    exact (Except.ok.inj led).symm
  | cons part rest ih =>
    unfold follow at led
    unfold FilePath.collapse
    cases required : files.requireDirectory location with
    | error cause =>
      rw [required] at led
      cases led
    | ok done =>
      rw [required] at led
      change (if _ then _ else _) = _ at led
      split at led
      · rename_i back
        rw [if_pos back, ih led, List.tail_reverse]
      · rename_i forth
        split at led
        · cases led
        · rw [if_neg forth, ih led, List.reverse_append]
          rfl

theorem locate_of_extends {files later : FileSystem} (grown : files.Extends later) {path : FilePath}
    {location : Location} (located : files.locate path = .ok location) :
    later.locate path = .ok location := by
  unfold locate at located ⊢
  split at located
  · rename_i short
    rw [if_pos short]
    exact follow_of_extends grown located
  · cases located

theorem locate_eq_normalized {files : FileSystem} {path : FilePath} {location : Location}
    (located : files.locate path = .ok location) : location = path.normalized.parts := by
  unfold locate at located
  split at located
  · exact follow_eq_collapse located
  · cases located

/-! ### Changes -/

/-- `files.bytesAt location` are the bytes of the file at `location`, if there is one. -/
def bytesAt (files : FileSystem) (location : Location) : List UInt8 :=
  match files.at? location with
  | some (.file data) => data
  | _ => []

theorem at?_append_nil {files : FileSystem} {location : Location}
    (free : files.at? location ≠ some .directory) :
    (files.append location []).at? location = some (.file (files.bytesAt location)) := by
  unfold append bytesAt
  cases held : files.at? location with
  | none => exact (at?_put free _ _).trans (if_pos rfl)
  | some entry =>
    cases entry with
    | directory => exact absurd held free
    | file before =>
      dsimp only
      rw [at?_put free, if_pos rfl, List.append_nil]

theorem at?_append {files : FileSystem} {location : Location} {before : List UInt8}
    (held : files.at? location = some (.file before)) (data : List UInt8) (other : Location) :
    (files.append location data).at? other =
      if other = location then some (.file (before ++ data)) else files.at? other := by
  have free : files.at? location ≠ some .directory := by
    rw [held]
    rintro ⟨⟩
  unfold append
  rw [held]
  exact at?_put free _ other

theorem extends_append {files : FileSystem} {location : Location} {before : List UInt8}
    (held : files.at? location = some (.file before)) (data : List UInt8) :
    files.Extends (files.append location data) := by
  unfold append
  rw [held]
  exact extends_put_file (by rw [held]; rintro ⟨⟩) _

theorem makeDirectory_ok {files grown : FileSystem} {path : FilePath}
    (made : files.makeDirectory path = .ok grown) :
    files.at? path.normalized.parts = none ∧ grown = files.put path.normalized.parts .directory := by
  unfold makeDirectory at made
  cases located : files.locate path with
  | error cause =>
    rw [located] at made
    cases made
  | ok location =>
    obtain rfl := locate_eq_normalized located
    rw [located] at made
    simp only [bind, Except.bind] at made
    split at made
    · cases made
    · rename_i free
      split at made
      · cases made
      · exact ⟨free, (Except.ok.inj made).symm⟩

theorem extends_makeDirectory {files grown : FileSystem} {path : FilePath}
    (made : files.makeDirectory path = .ok grown) : files.Extends grown := by
  obtain ⟨free, rfl⟩ := makeDirectory_ok made
  exact extends_put_directory free

theorem extends_ensureDirectory (files : FileSystem) (path : FilePath) :
    files.Extends (files.ensureDirectory path).2 := by
  unfold ensureDirectory
  split
  · exact extends_makeDirectory ‹_›
  · exact Extends.refl files

theorem extends_ensureWithin (depth : Nat) (files : FileSystem) (path : FilePath) :
    files.Extends (files.ensureWithin depth path).2 := by
  induction depth generalizing path with
  | zero => exact extends_ensureDirectory files path
  | succ depth ih =>
    have above := ih path.parent
    unfold ensureWithin
    split
    · split
      · rename_i grown made
        rw [made] at above
        exact above.trans (extends_ensureDirectory grown path)
      · exact above
    · exact extends_ensureDirectory files path

/-- Making directories takes nothing away, whether it fails or not. -/
theorem extends_ensureDirectories (files : FileSystem) (path : FilePath) :
    files.Extends (files.ensureDirectories path).2 := by
  unfold ensureDirectories
  split
  · exact Extends.refl files
  · exact extends_ensureWithin _ files path

theorem target_ok {files : FileSystem} {path : FilePath} {location : Location}
    (aimed : files.target path = .ok location) :
    location = path.normalized.parts ∧ path.hasNull = false ∧ files.locate path = .ok location ∧
      files.at? location ≠ some .directory := by
  unfold target at aimed
  split at aimed
  · cases aimed
  · rename_i noNull
    split at aimed
    · cases aimed
    · rename_i place located
      split at aimed
      · cases aimed
      · rename_i free
        split at aimed
        · cases aimed
        · obtain rfl := Except.ok.inj aimed
          exact ⟨locate_eq_normalized located, Bool.eq_false_iff.2 noNull, located, free⟩

theorem append_put {files : FileSystem} {location : Location} (free : files.at? location ≠ some .directory)
    (data : List UInt8) :
    (files.put location (.file [])).append location data = files.put location (.file data) := by
  have emptied : (files.put location (.file [])).at? location = some (.file []) := by
    rw [at?_put free, if_pos rfl]
  unfold append
  rw [emptied]
  simp [put]

/-- Writing fails and changes nothing, or it puts a file where the path leads to, with all the data or with
as much of it as the file takes. -/
theorem write_cases (files : FileSystem) (stop? : Stops) (path : FilePath) (data : List UInt8) :
    (∃ fault, files.write stop? path data = (.error fault, files)) ∨
      path.hasNull = false ∧ files.locate path = .ok path.normalized.parts ∧
        files.at? path.normalized.parts ≠ some .directory ∧
        (stop? path.normalized.parts data = none ∧
            files.write stop? path data = (.ok (), files.put path.normalized.parts (.file data)) ∨
          ∃ count fault, stop? path.normalized.parts data = some (count, fault) ∧
            files.write stop? path data =
              (.error fault, files.put path.normalized.parts (.file (data.take count)))) := by
  unfold write
  cases aimed : files.target path with
  | error fault => exact Or.inl ⟨fault, rfl⟩
  | ok location =>
    obtain ⟨rfl, noNull, located, free⟩ := target_ok aimed
    refine Or.inr ⟨noNull, located, free, ?_⟩
    simp only [append_put free]
    cases stopped : stop? path.normalized.parts data with
    | none => exact Or.inl ⟨rfl, rfl⟩
    | some stop => exact Or.inr ⟨stop.1, stop.2, rfl, rfl⟩

/-! ### Reading -/

section Reading

variable {files : FileSystem} {path : FilePath} {location : Location} {data : List UInt8}

theorem isFile_of_held (noNull : path.hasNull = false) (located : files.locate path = .ok location)
    (held : files.at? location = some (.file data)) : files.isFile path = .ok true := by
  unfold isFile find?
  rw [if_neg (by rw [noNull]; exact Bool.false_ne_true), located]
  simp only [held]
  rfl

theorem read_of_held (noNull : path.hasNull = false) (located : files.locate path = .ok location)
    (held : files.at? location = some (.file data)) : files.read path = .ok data := by
  unfold read
  rw [if_neg (by rw [noNull]; exact Bool.false_ne_true), located]
  simp only [held]

end Reading

end AssemblyInfo.FileSystem
