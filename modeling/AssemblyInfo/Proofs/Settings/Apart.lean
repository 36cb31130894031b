import AssemblyInfo.Proofs.Model.NameSpaces
import AssemblyInfo.Proofs.Settings.RoundTrip

/-!
# Settings that differ in one field

A text is written as it is, so a line feed in it starts a line of the source text, and that line can be
a declaration. Nothing else that is written for one field reaches what is read for others: not what
stands on its first line, whatever that is, nor the name space that it needs.
-/

namespace AssemblyInfo
open Folded Text Model

/-- `first.AgreesApart second field` says that two settings have the same values, but for `field`. -/
structure Settings.AgreesApart (first second : Settings) (field : Field) : Prop where
  values : ∀ other, other ≠ field → first.value other = second.value other
  internals : first.internalsVisibleTo = second.internalsVisibleTo
  customs : first.customAttributes = second.customAttributes
  metadata : first.metadataAttributes = second.metadataAttributes

/-- `first.AgreesApart second field` says that two texts declare the same, but for `field`. -/
structure ParseResult.AgreesApart (first second : ParseResult) (field : Field) : Prop where
  values : ∀ other, other ≠ field → first.value other = second.value other
  internals : first.internalsVisibleTo = second.internalsVisibleTo
  customs : first.customAttributes = second.customAttributes

theorem ParseResult.AgreesApart.of_declarations {dialect : Dialect} {first second : String} {field : Field}
    (fields : ∀ other : Field, other ≠ field →
      other.declarations dialect first.toList = other.declarations dialect second.toList)
    (internals : declaredAll dialect .quoted internalsVisibleToName first.toList =
      declaredAll dialect .quoted internalsVisibleToName second.toList)
    (customs : customAll first.toList = customAll second.toList) :
    (ofText dialect first).AgreesApart (ofText dialect second) field where
  values := by
    intro other different
    rw [value_ofText, value_ofText, fields other different]
  internals := internals
  customs := customs

/-- `DeclaresOnly dialect field text` says that `text` declares nothing but `field`. -/
structure DeclaresOnly (dialect : Dialect) (field : Field) (text : List Char) : Prop where
  fields : ∀ other, other ≠ field → other.declarations dialect text = []
  internals : declaredAll dialect .quoted internalsVisibleToName text = []
  customs : customAll text = []

/-- `dialect.completed after` is `after`, the end of a quoted argument, with the end of its declaration. -/
def Dialect.completed (dialect : Dialect) (after : List Char) : List Char :=
  after ++ '"' :: ')' :: dialect.closing.toList

/-- `settings.KeepsTo dialect field` says that the text of `field`, where it goes on after a line feed,
declares nothing but `field`. -/
def Settings.KeepsTo (settings : Settings) (dialect : Dialect) (field : Field) : Prop :=
  ∀ text line after, (settings.value field).text? = some text →
    text.toList = line ++ '\n' :: after → '\n' ∉ line → DeclaresOnly dialect field (dialect.completed after)

theorem Settings.keepsTo_of_oneLine {settings : Settings} {field : Field}
    (single : ∀ text, (settings.value field).text? = some text → '\n' ∉ text.toList) (dialect : Dialect) :
    settings.KeepsTo dialect field := by
  intro text line after held split _
  have oneLine := single text held
  rw [split] at oneLine
  exact (oneLine (List.mem_append_right _ List.mem_cons_self)).elim

/-! ### The declaration of a field -/

/-- `read` finds nothing on lines that declare `field`, nor on lines that declare nothing. -/
structure Overlooks {α : Type} (dialect : Dialect) (field : Field) (read : List Char → Option α) : Prop
    extends ReadsDeclarations read where
  named : ∀ rest, read (dialect.opening.toList ++ (field.attributeName.toList ++ '(' :: rest)) = none

theorem overlooks_declaredOn? (dialect : Dialect) (form : ArgumentForm) {field : Field} {name : String}
    (known : name ∈ knownNames) (other : name ≠ field.attributeName) :
    Overlooks dialect field (declaredOn? dialect form name.toList) where
  toReadsDeclarations := readsDeclarations_declaredOn? dialect form name.toList
  named := by
    intro rest
    have written := attributeName_mem_knownNames field
    exact declaredOn?_other dialect form (isWordRun_knownNames _ known) (isWordRun_knownNames _ written)
      (fun same => other (String.toList_inj.1 same).symm) (unended_knownNames _ known _ written) rest

theorem overlooks_customOn? (dialect : Dialect) (field : Field) : Overlooks dialect field customOn? where
  toReadsDeclarations := readsDeclarations_customOn?
  named := by
    intro rest
    cases dialect with
    | csharp => exact customOn?_knownName (attributeName_mem_knownNames field) rest
    | visualBasic =>
      rw [Dialect.visualBasic.opening_eq_cons]
      exact customOn?_of_head (by decide) _

section Reading

variable {α : Type} {read : List Char → Option α} {dialect : Dialect} {field : Field}

/-- What is read from the declaration of a field is read from the further lines of its text. -/
theorem read_declaration_of_overlooks (overlooks : Overlooks dialect field read) {text : String}
    (nothing : ∀ line after, text.toList = line ++ '\n' :: after → '\n' ∉ line →
      (splitLines (dialect.completed after)).filterMap read = []) :
    (splitLines (dialect.declaration (invocation field.attributeName (quote text))).toList).filterMap read =
      [] := by
  have run := isWordRun_knownNames _ (attributeName_mem_knownNames field)
  have opening := dialect.newline_notMem_opening
  have name := run.notMem (c := '\n') (by decide)
  rw [invocation_toList]
  by_cases feed : '\n' ∈ text.toList
  · obtain ⟨line, after, split, single⟩ := List.eq_append_cons_of_mem feed
    have lines : dialect.opening.toList ++ (field.attributeName.toList ++ '(' :: ((quote text).toList ++
        ')' :: dialect.closing.toList)) =
        (dialect.opening.toList ++ (field.attributeName.toList ++ '(' :: '"' :: line)) ++
          '\n' :: dialect.completed after := by
      simp [quote, split, Dialect.completed]
    have first : '\n' ∉ dialect.opening.toList ++ (field.attributeName.toList ++ '(' :: '"' :: line) := by
      simp only [List.mem_append, List.mem_cons, not_or]
      exact ⟨opening, name, by decide, by decide, single⟩
    rw [lines, splitLines_append, List.filterMap_append, nothing line after split single,
      splitLines_of_newline_notMem first, List.filterMap_cons, overlooks.named]
    rfl
  · have whole := newline_notMem_declaration dialect run (newline_notMem_quote feed)
    rw [invocation_toList] at whole
    rw [splitLines_of_newline_notMem whole, List.filterMap_cons, overlooks.named]
    rfl

end Reading

/-! ### Two settings -/

namespace Settings

/-- `settings.fieldRead dialect read field` is what `read` finds in the declaration of `field`. -/
def fieldRead {α : Type} (settings : Settings) (dialect : Dialect) (read : List Char → Option α)
    (field : Field) : List α :=
  (settings.value field).argument?.toList.flatMap fun text =>
    (splitLines (dialect.declaration (invocation field.attributeName text)).toList).filterMap read

theorem fieldRead_of_overlooks {α : Type} {settings : Settings} {dialect : Dialect} {field : Field}
    {read : List Char → Option α} (typed : settings.IsTyped) (plain : field.isFlag = false)
    (overlooks : Overlooks dialect field read)
    (nothing : ∀ text line after, (settings.value field).text? = some text →
      text.toList = line ++ '\n' :: after → '\n' ∉ line →
      (splitLines (dialect.completed after)).filterMap read = []) :
    settings.fieldRead dialect read field = [] := by
  unfold fieldRead Value.argument?
  rcases Value.eq_null_or_text (typed.texts field plain) with null | ⟨text, isText⟩
  · rw [null]
    rfl
  · have held : (settings.value field).text? = some text := by
      unfold Value.text?
      rw [isText]
    rw [isText]
    simp only [Option.toList_some, List.flatMap_singleton]
    exact read_declaration_of_overlooks overlooks fun line after => nothing text line after held

variable {first second : Settings} {field : Field}

theorem AgreesApart.refusal? (apart : first.AgreesApart second field) : first.refusal? = second.refusal? := by
  unfold Settings.refusal?
  rw [apart.customs]

theorem AgreesApart.friends (apart : first.AgreesApart second field) : first.friends = second.friends := by
  unfold Settings.friends internalsNames
  rw [apart.internals]

theorem AgreesApart.unknownEntries (apart : first.AgreesApart second field) :
    first.unknownEntries = second.unknownEntries := by
  unfold Settings.unknownEntries customEntries metadataEntries
  rw [apart.customs, apart.metadata]

/-- The name spaces that are needed differ by the one of the field at most. -/
theorem AgreesApart.nameSpaces (apart : first.AgreesApart second field) :
    (first.insertions.filterMap Insertion.nameSpace?).filter (apartFrom field.nameSpace) =
      (second.insertions.filterMap Insertion.nameSpace?).filter (apartFrom field.nameSpace) := by
  have own : ∀ settings : Settings,
      ((settings.fieldInsertion? field).bind Insertion.nameSpace?).filter (apartFrom field.nameSpace) =
        none := by
    intro settings
    unfold fieldInsertion?
    cases (settings.value field).argument? with
    | none => rfl
    | some text =>
      rw [Option.filter_eq_none_iff]
      intro needed member
      change (some field.nameSpace).filter (· != "") = some needed at member
      obtain ⟨same, _⟩ := Option.filter_eq_some_iff.1 member
      obtain rfl := Option.some.inj same
      exact fun kept => apartFrom_eq_true.1 kept rfl
  have fields : ((Field.all.filterMap first.fieldInsertion?).filterMap Insertion.nameSpace?).filter
      (apartFrom field.nameSpace) =
      ((Field.all.filterMap second.fieldInsertion?).filterMap Insertion.nameSpace?).filter
        (apartFrom field.nameSpace) := by
    rw [List.filterMap_filterMap, List.filterMap_filterMap, List.filter_filterMap, List.filter_filterMap]
    apply List.filterMap_congr
    intro other _
    by_cases same : other = field
    · rw [same, own, own]
    · unfold fieldInsertion?
      rw [apart.values other same]
  have internals : first.internalsInsertions = second.internalsInsertions := by
    unfold internalsInsertions internalsNames
    rw [apart.internals]
  unfold insertions
  simp only [List.filterMap_append, List.filter_append]
  rw [fields, internals, apart.customs, apart.metadata]

theorem contents_flatMap (settings : Settings) {α : Type} (dialect : Dialect) (read : List Char → Option α) :
    ((empty.insertAll settings.insertions).contents.flatMap fun content =>
        (splitLines (dialect.declaration content).toList).filterMap read) =
      Field.all.flatMap (settings.fieldRead dialect read) ++
      ((settings.friends.map internalsFragment ++
        settings.unknownEntries.map fun entry => invocation entry.1 entry.2).flatMap fun content =>
          (splitLines (dialect.declaration content).toList).filterMap read) := by
  rw [contents_insertAll, List.append_assoc, List.flatMap_append, List.filterMap_eq_flatMap_toList,
    List.flatMap_assoc]
  refine congrArg (· ++ _) ?_
  apply List.flatMap_congr
  intro other _
  unfold fieldRead
  cases (settings.value other).argument? <;> rfl

/-- A reader that overlooks a field reads the same from the source texts of both settings, if it reads
nothing from what the texts of the field put on further lines. -/
theorem AgreesApart.filterMap_render {α : Type} {dialect : Dialect} {read : List Char → Option α}
    (apart : first.AgreesApart second field) (overlooks : Overlooks dialect field read)
    (firstNothing : first.fieldRead dialect read field = [])
    (secondNothing : second.fieldRead dialect read field = []) :
    (splitLines ((empty.insertAll first.insertions).render dialect).toList).filterMap read =
      (splitLines ((empty.insertAll second.insertions).render dialect).toList).filterMap read := by
  have reads := overlooks.toReadsDeclarations
  have oneLine : '\n' ∉ (lower field.nameSpace).toList := by
    cases field <;> decide +kernel
  have imports := read_imports_eq reads dialect oneLine apart.nameSpaces
  have fields : Field.all.flatMap (first.fieldRead dialect read) =
      Field.all.flatMap (second.fieldRead dialect read) := by
    apply List.flatMap_congr
    intro other _
    by_cases same : other = field
    · rw [same, firstNothing, secondNothing]
    · unfold fieldRead
      rw [apart.values other same]
  rw [filterMap_splitLines_render_eq reads, filterMap_splitLines_render_eq reads, imports, contents_flatMap,
    contents_flatMap, fields, apart.friends, apart.unknownEntries]

theorem AgreesApart.ofText {dialect : Dialect} (apart : first.AgreesApart second field)
    (plain : field.isFlag = false) (firstTyped : first.IsTyped) (secondTyped : second.IsTyped)
    (firstKeeps : first.KeepsTo dialect field) (secondKeeps : second.KeepsTo dialect field) :
    (ParseResult.ofText dialect ((empty.insertAll first.insertions).render dialect)).AgreesApart
      (ParseResult.ofText dialect ((empty.insertAll second.insertions).render dialect)) field := by
  -- A part of the reading agrees if it overlooks the field, and what keeps to the field as well.
  have agree : ∀ {α : Type} {read : List Char → Option α}, Overlooks dialect field read →
      (∀ text, DeclaresOnly dialect field text → (splitLines text).filterMap read = []) →
      (splitLines ((empty.insertAll first.insertions).render dialect).toList).filterMap read =
        (splitLines ((empty.insertAll second.insertions).render dialect).toList).filterMap read := by
    intro α read overlooks nothing
    apply apart.filterMap_render overlooks
    · exact fieldRead_of_overlooks firstTyped plain overlooks fun text line after held split single =>
        nothing _ (firstKeeps text line after held split single)
    · exact fieldRead_of_overlooks secondTyped plain overlooks fun text line after held split single =>
        nothing _ (secondKeeps text line after held split single)
  apply ParseResult.AgreesApart.of_declarations
  · intro other different
    have named : other.attributeName ≠ field.attributeName := fun same => different (attributeName_injective same)
    have declared := agree
      (overlooks_declaredOn? dialect other.form (attributeName_mem_knownNames other) named)
      fun text only => by rw [← declarations_eq_filterMap, only.fields other different]
    rwa [← declarations_eq_filterMap, ← declarations_eq_filterMap] at declared
  · have byLines := declaredAll_eq_filterMap dialect .quoted newline_notMem_internalsVisibleToName
    have declared := agree
      (overlooks_declaredOn? dialect .quoted internalsVisibleToName_mem_knownNames (internalsVisibleToName_ne field))
      fun text only => by rw [← byLines, only.internals]
    rwa [← byLines, ← byLines] at declared
  · have declared := agree (overlooks_customOn? dialect field)
      fun text only => by rw [← customAll_eq_filterMap, only.customs]
    rwa [← customAll_eq_filterMap, ← customAll_eq_filterMap] at declared

/-- Two settings of the declared types that differ in one text have source texts that declare the same
apart from it, as long as no text declares something else on its further lines. Or neither has a source
text, because a custom attribute is refused. -/
theorem ofText_render_agreesApart {first second : Settings} {field : Field} (plain : field.isFlag = false)
    (firstTyped : first.IsTyped) (secondTyped : second.IsTyped) (apart : first.AgreesApart second field)
    (dialect : Dialect) (firstKeeps : first.KeepsTo dialect field) (secondKeeps : second.KeepsTo dialect field) :
    (first.IsSerialisable → ∃ text, render first dialect = .ok text) ∧
    ((∃ fault, render first dialect = .error fault ∧ render second dialect = .error fault) ∨
      ∃ text other, render first dialect = .ok text ∧ render second dialect = .ok other ∧
        (ParseResult.ofText dialect text).AgreesApart (ParseResult.ofText dialect other) field) := by
  have rendered := render_typed firstTyped dialect
  have otherRendered := render_typed secondTyped dialect
  rw [← apart.refusal?] at otherRendered
  constructor
  · intro serialisable
    rw [rendered, serialisable.not_refused]
    exact ⟨_, rfl⟩
  · cases refused : first.refusal? with
    | some fault =>
      rw [refused] at rendered otherRendered
      exact Or.inl ⟨fault, rendered, otherRendered⟩
    | none =>
      rw [refused] at rendered otherRendered
      exact Or.inr ⟨_, _, rendered, otherRendered,
        apart.ofText plain firstTyped secondTyped firstKeeps secondKeeps⟩

/-- Settings with nothing but a title. -/
def titled (title : String) : Settings where
  value field :=
    match field with
    | .title => .text title
    | _ => .null

theorem isTyped_titled (title : String) : (titled title).IsTyped where
  texts := by
    intro field _
    cases field <;> rfl
  flags := by
    intro field flag
    cases field <;> first | rfl | cases flag
  internals := rfl

theorem agreesApart_titled (title other : String) : (titled title).AgreesApart (titled other) .title where
  values := by
    intro field different
    cases field <;> first | rfl | exact (different rfl).elim
  internals := rfl
  customs := rfl
  metadata := rfl

/-- A title that goes on with something like a declaration. -/
def notesTitle : String := "Tools\n[assembly: see notes"

theorem keepsTo_notesTitle : (titled notesTitle).KeepsTo .csharp .title := by
  intro text line after held split single
  obtain rfl := Option.some.inj held
  have lines : "Tools".toList ++ '\n' :: "[assembly: see notes".toList = line ++ '\n' :: after := split
  obtain ⟨_, _, rfl⟩ := (List.append_cons_inj_of_notMem (by decide) (by decide)).1 lines
  have fields : ∀ other ∈ Field.all, other.declarations .csharp
      (Dialect.csharp.completed "[assembly: see notes".toList) = [] := by
    decide +kernel
  exact ⟨fun other _ => fields other other.mem_all, by decide +kernel, by decide +kernel⟩

theorem ofText_render_agreesApart_notes :
    (Field.title.isFlag = false ∧ (titled "Tools").IsTyped ∧ (titled notesTitle).IsTyped ∧
      (titled "Tools").AgreesApart (titled notesTitle) .title ∧ (titled "Tools").KeepsTo .csharp .title ∧
      (titled notesTitle).KeepsTo .csharp .title) ∧
    ∃ text other, render (titled "Tools") .csharp = .ok text ∧ render (titled notesTitle) .csharp = .ok other ∧
      (ParseResult.ofText .csharp text).AgreesApart (ParseResult.ofText .csharp other) .title := by
  have typed := isTyped_titled "Tools"
  have notesTyped := isTyped_titled notesTitle
  have apart := agreesApart_titled "Tools" notesTitle
  have keeps : (titled "Tools").KeepsTo .csharp .title := by
    apply keepsTo_of_oneLine
    rintro text ⟨⟩
    decide
  have notesKeeps := keepsTo_notesTitle
  obtain ⟨rendered, agree⟩ :=
    ofText_render_agreesApart rfl typed notesTyped apart .csharp keeps notesKeeps
  refine ⟨⟨rfl, typed, notesTyped, apart, keeps, notesKeeps⟩, ?_⟩
  rcases agree with ⟨fault, refused, _⟩ | agree
  · have serialisable : (titled "Tools").IsSerialisable := by
      intro custom member
      cases member
    obtain ⟨text, made⟩ := rendered serialisable
    rw [refused] at made
    cases made
  · exact agree

/-- The only declaration of a title is read by its lines. -/
theorem declarations_titled (title : String) (dialect : Dialect) (field : Field) :
    field.declarations dialect ((empty.insertAll (titled title).insertions).render dialect).toList =
      (splitLines (dialect.declaration (invocation "AssemblyTitle" (quote title))).toList).filterMap
        (declaredOn? dialect field.form field.attributeName.toList) := by
  have reads := readsDeclarations_declaredOn? dialect field.form field.attributeName.toList
  have oneLine : '\n' ∉ (lower "System.Reflection").toList := by decide +kernel
  have needed : ((titled title).insertions.filterMap Insertion.nameSpace?).filter
      (apartFrom "System.Reflection") = [] := by
    change ["System.Reflection"].filter (apartFrom "System.Reflection") = []
    decide +kernel
  have contents : (empty.insertAll (titled title).insertions).contents =
      [invocation "AssemblyTitle" (quote title)] := by
    rw [contents_insertAll]
    rfl
  rw [declarations_eq_filterMap, filterMap_splitLines_render_eq reads, read_imports_apartFrom reads dialect oneLine,
    sortedNameSpaces_insertAll, needed, contents, List.flatMap_singleton, firstsBy, List.mergeSort_nil,
    List.flatMap_nil, List.nil_append]

/-- A title that ends its declaration and starts one of a company on the next line. -/
def forgingTitle : String := "a\")]\n[assembly: AssemblyCompany(\"b"

/-- Without a restriction on further lines, a title can declare a company. -/
theorem ofText_render_forgingTitle :
    ((titled "a").IsTyped ∧ (titled forgingTitle).IsTyped ∧
      (titled "a").AgreesApart (titled forgingTitle) .title) ∧
    ∃ text other, render (titled "a") .csharp = .ok text ∧ render (titled forgingTitle) .csharp = .ok other ∧
      (ParseResult.ofText .csharp text).value .company = none ∧
      (ParseResult.ofText .csharp other).value .company = some "b" := by
  refine ⟨⟨isTyped_titled _, isTyped_titled _, agreesApart_titled _ _⟩, _, _,
    render_typed (isTyped_titled _) .csharp, render_typed (isTyped_titled _) .csharp, ?_, ?_⟩
  · rw [ParseResult.value_ofText, declarations_titled]
    decide +kernel
  · rw [ParseResult.value_ofText, declarations_titled]
    decide +kernel

end Settings

end AssemblyInfo
