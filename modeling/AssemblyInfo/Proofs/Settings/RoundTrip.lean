import AssemblyInfo.Proofs.Settings.OneLine
import Mathlib.Data.List.Nodup

/-!
# Reading settings back

Settings of the declared types whose texts hold no line feeds can be read back from their source text.
Every field that is set and not blank comes back as it is, and so do the assemblies with access to
internals. The other attributes come back from a source text with square brackets only.
-/

namespace AssemblyInfo
open Folded Text Model

namespace Settings

/-- `settings.declaredValue field` is the value of `field`, unless it is null or blank. -/
def declaredValue (settings : Settings) (field : Field) : Option String :=
  match (settings.value field).now with
  | .text s => if allBlank s.toList then none else some s
  | .bool flag => some (flagText flag)
  | _ => none

/-- `settings.isSet field` is the flag that `settings` give to `field`. -/
def isSet (settings : Settings) (field : Field) : Bool :=
  match (settings.value field).now with
  | .bool flag => flag
  | _ => false

/-- `settings.readBack dialect` is what the source text of `settings` declares. -/
def readBack (settings : Settings) (dialect : Dialect) : ParseResult where
  value field := (settings.declaredValue field).or field.default
  internalsVisibleTo := settings.friends.filter fun name => !allBlank name.toList
  customAttributes :=
    match dialect with
    | .csharp => settings.unknownEntries.map fun entry => ⟨entry.1, entry.2⟩
    | .visualBasic => []

end Settings

/-- Where a list holds an item once, and nothing is read from the others, that item is what is read. -/
theorem filterMap_eq_of_others {α β : Type} {read : α → Option β} {items : List α} {item : α}
    (distinct : items.Nodup) (member : item ∈ items)
    (others : ∀ other ∈ items, other ≠ item → read other = none) :
    items.filterMap read = (read item).toList := by
  induction items with
  | nil => cases member
  | cons first rest ih =>
    obtain ⟨absent, distinct⟩ := List.nodup_cons.1 distinct
    rw [List.filterMap_cons]
    rcases List.mem_cons.1 member with rfl | later
    · have nothing : rest.filterMap read = [] := by
        rw [List.filterMap_eq_nil_iff]
        intro other found
        apply others other (List.mem_cons_of_mem _ found)
        rintro rfl
        exact absent found
      rw [nothing]
      cases read item <;> rfl
    · have different : first ≠ item := by
        rintro rfl
        exact absent later
      rw [others first List.mem_cons_self different]
      exact ih distinct later fun other found => others other (List.mem_cons_of_mem _ found)

theorem attributeName_injective {first second : Field} (same : first.attributeName = second.attributeName) :
    first = second :=
  List.inj_on_of_nodup_map Settings.nodup_lower_attributeName first.mem_all second.mem_all
    (congrArg lower same)

namespace Settings

variable {settings : Settings}

theorem read_declaredValue (typed : settings.IsTyped) (oneLine : settings.IsOneLine) (dialect : Dialect)
    (field : Field) :
    ((settings.value field).argument?.bind fun text =>
      declaredOn? dialect field.form field.attributeName.toList
        (dialect.declaration (invocation field.attributeName text)).toList) = settings.declaredValue field := by
  have run := isWordRun_knownNames _ (attributeName_mem_knownNames field)
  unfold Value.argument? declaredValue Field.form
  cases flag : field.isFlag with
  | false =>
    rcases Value.eq_null_or_text (typed.texts field flag) with null | ⟨s, text⟩
    · rw [null]
      rfl
    · have single : '\n' ∉ s.toList := by
        apply oneLine.texts field s
        unfold Value.text?
        rw [text]
      rw [text]
      exact declaredOn?_quoted dialect run single
  | true =>
    rcases Value.eq_null_or_flag (typed.flags field flag) with null | ⟨given, isFlag⟩
    · rw [null]
      rfl
    · have solid : allBlank (flagText given).toList = false := by
        cases given <;> decide
      have read := declaredOn?_bare dialect run (newline_notMem_flagText given)
      rw [solid] at read
      rw [isFlag]
      exact read

/-- Of all fields, only `field` itself is read as `field`. -/
theorem filterMap_fields (typed : settings.IsTyped) (oneLine : settings.IsOneLine) (dialect : Dialect)
    (field : Field) :
    (Field.all.filterMap fun other => (settings.value other).argument?.bind fun text =>
      declaredOn? dialect field.form field.attributeName.toList
        (dialect.declaration (invocation other.attributeName text)).toList) =
      (settings.declaredValue field).toList := by
  rw [filterMap_eq_of_others (by decide) field.mem_all, read_declaredValue typed oneLine]
  intro other _ different
  cases (settings.value other).argument? with
  | none => rfl
  | some text =>
    exact declaredOn?_known dialect field.form (attributeName_mem_knownNames field)
      (attributeName_mem_knownNames other) fun same => different (attributeName_injective same)

section Reading

variable (oneLine : settings.IsOneLine) (foreign : settings.HasForeignNames) (dialect : Dialect)

include oneLine foreign

/-- Reading the source text of `settings` goes over their declarations one by one. -/
theorem filterMap_splitLines_settings {α : Type} {read : List Char → Option α} (reads : ReadsDeclarations read) :
    (splitLines ((empty.insertAll settings.insertions).render dialect).toList).filterMap read =
      (Field.all.filterMap fun field => (settings.value field).argument?.bind fun text =>
        read (dialect.declaration (invocation field.attributeName text)).toList) ++
      (settings.friends.filterMap fun name =>
        read (dialect.declaration (invocation internalsVisibleToName (quote name))).toList) ++
      settings.unknownEntries.filterMap fun entry =>
        read (dialect.declaration (invocation entry.1 entry.2)).toList := by
  rw [filterMap_splitLines_render_of_oneLine reads (fun _ => newline_notMem_nameSpace oneLine)
    (fun _ => newline_notMem_content oneLine foreign dialect), contents_insertAll, List.filterMap_append,
    List.filterMap_append, List.filterMap_filterMap, List.filterMap_map, List.filterMap_map]
  simp only [Option.bind_map]
  rfl

/-- The attributes that are not well known are read as no well-known one. -/
theorem unknownEntries_not_declared {name : String} (known : name ∈ knownNames) (form : ArgumentForm) :
    (settings.unknownEntries.filterMap fun entry =>
      declaredOn? dialect form name.toList
        (dialect.declaration (invocation entry.1 entry.2)).toList) = [] := by
  rw [List.filterMap_eq_nil_iff]
  intro entry member
  obtain ⟨⟨run, unknown⟩, _⟩ := unknownEntries_readable oneLine foreign member
  exact declaredOn?_unknown dialect form known run unknown

theorem declarations_render (typed : settings.IsTyped) (field : Field) :
    field.declarations dialect ((empty.insertAll settings.insertions).render dialect).toList =
      (settings.declaredValue field).toList := by
  have known := attributeName_mem_knownNames field
  have internals : (settings.friends.filterMap fun name =>
      declaredOn? dialect field.form field.attributeName.toList
        (dialect.declaration (invocation internalsVisibleToName (quote name))).toList) = [] := by
    rw [List.filterMap_eq_nil_iff]
    intro name _
    exact declaredOn?_known dialect field.form known internalsVisibleToName_mem_knownNames
      (internalsVisibleToName_ne field)
  rw [declarations_eq_filterMap, filterMap_splitLines_settings oneLine foreign dialect
    (readsDeclarations_declaredOn? dialect _ _), filterMap_fields typed oneLine dialect field, internals,
    unknownEntries_not_declared oneLine foreign dialect known, List.append_nil, List.append_nil]

theorem internals_render :
    declaredAll dialect .quoted internalsVisibleToName
      ((empty.insertAll settings.insertions).render dialect).toList =
      settings.friends.filter fun name => !allBlank name.toList := by
  have known := internalsVisibleToName_mem_knownNames
  have fields : (Field.all.filterMap fun other => (settings.value other).argument?.bind fun text =>
      declaredOn? dialect .quoted internalsVisibleToName.toList
        (dialect.declaration (invocation other.attributeName text)).toList) = [] := by
    rw [List.filterMap_eq_nil_iff]
    intro other _
    cases (settings.value other).argument? with
    | none => rfl
    | some text =>
      exact declaredOn?_known dialect .quoted known (attributeName_mem_knownNames other)
        (internalsVisibleToName_ne other).symm
  have friends : (settings.friends.filterMap fun name =>
      declaredOn? dialect .quoted internalsVisibleToName.toList
        (dialect.declaration (invocation internalsVisibleToName (quote name))).toList) =
      settings.friends.filter fun name => !allBlank name.toList := by
    rw [← List.filterMap_eq_filter]
    apply List.filterMap_congr
    intro name member
    rw [declaredOn?_quoted dialect (isWordRun_knownNames _ known) (newline_notMem_friend oneLine member),
      Option.guard]
    cases allBlank name.toList <;> rfl
  rw [declaredAll_eq_filterMap dialect .quoted newline_notMem_internalsVisibleToName,
    filterMap_splitLines_settings oneLine foreign dialect (readsDeclarations_declaredOn? dialect _ _),
    fields, friends, unknownEntries_not_declared oneLine foreign dialect known, List.nil_append,
    List.append_nil]

theorem customs_render :
    customAll ((empty.insertAll settings.insertions).render dialect).toList =
      (settings.readBack dialect).customAttributes := by
  rw [customAll_eq_filterMap, filterMap_splitLines_settings oneLine foreign dialect readsDeclarations_customOn?]
  cases dialect with
  | visualBasic =>
    simp only [customOn?_visualBasic]
    simp [readBack]
  | csharp =>
    have fields : (Field.all.filterMap fun other => (settings.value other).argument?.bind fun text =>
        customOn? (Dialect.csharp.declaration (invocation other.attributeName text)).toList) = [] := by
      rw [List.filterMap_eq_nil_iff]
      intro other _
      cases (settings.value other).argument? with
      | none => rfl
      | some text => exact customOn?_known (attributeName_mem_knownNames other)
    have internals : (settings.friends.filterMap fun name =>
        customOn? (Dialect.csharp.declaration (invocation internalsVisibleToName (quote name))).toList) = [] := by
      rw [List.filterMap_eq_nil_iff]
      intro name _
      exact customOn?_known internalsVisibleToName_mem_knownNames
    have unknown : (settings.unknownEntries.filterMap fun entry =>
        customOn? (Dialect.csharp.declaration (invocation entry.1 entry.2)).toList) =
        settings.unknownEntries.map fun entry => ⟨entry.1, entry.2⟩ := by
      rw [← List.filterMap_eq_map]
      apply List.filterMap_congr
      intro entry member
      obtain ⟨⟨run, foreignName⟩, single, solid⟩ := unknownEntries_readable oneLine foreign member
      rw [customOn?_csharp run single, foreignName, solid]
      rfl
    rw [fields, internals, unknown, List.nil_append, List.nil_append]
    rfl

end Reading

theorem ofText_eq_readBack (typed : settings.IsTyped) (oneLine : settings.IsOneLine)
    (foreign : settings.HasForeignNames) (dialect : Dialect) :
    ParseResult.ofText dialect ((empty.insertAll settings.insertions).render dialect) =
      settings.readBack dialect := by
  have fields := declarations_render oneLine foreign dialect typed
  unfold ParseResult.ofText ParseResult.ofChars
  rw [internals_render oneLine foreign, customs_render oneLine foreign]
  simp only [fields, Option.head?_toList]
  rfl

theorem render_typed (typed : settings.IsTyped) (dialect : Dialect) :
    render settings dialect =
      match settings.refusal? with
      | some fault => .error fault
      | none => .ok ((empty.insertAll settings.insertions).render dialect) := by
  rw [render, build_typed typed]
  cases settings.refusal? <;> rfl

theorem render_eq (typed : settings.IsTyped) (serialisable : settings.IsSerialisable) (dialect : Dialect) :
    render settings dialect = .ok ((empty.insertAll settings.insertions).render dialect) := by
  rw [render_typed typed, serialisable.not_refused]

theorem isTrue_readBack (typed : settings.IsTyped) (dialect : Dialect) {field : Field}
    (flag : field.isFlag = true) :
    ParseResult.isTrue ((settings.readBack dialect).value field) = settings.isSet field := by
  have noDefault : field.default = none := by
    cases field <;> first | rfl | cases flag
  change ParseResult.isTrue ((settings.declaredValue field).or field.default) = settings.isSet field
  rw [noDefault]
  unfold declaredValue isSet
  rcases Value.eq_null_or_flag (typed.flags field flag) with null | ⟨given, isFlag⟩
  · rw [null]
    rfl
  · rw [isFlag]
    cases given <;> decide

/-- Settings of the declared types without line feeds come back from their source text. -/
theorem ofText_render (settings : Settings) (typed : settings.IsTyped) (oneLine : settings.IsOneLine)
    (foreign : settings.HasForeignNames) (serialisable : settings.IsSerialisable) (dialect : Dialect) :
    ∃ text, render settings dialect = .ok text ∧
      ParseResult.ofText dialect text = settings.readBack dialect ∧
      (ParseResult.ofText dialect text).isComVisible = settings.isSet .comVisible ∧
      (ParseResult.ofText dialect text).isClsCompliant = settings.isSet .clsCompliant := by
  have declared := ofText_eq_readBack typed oneLine foreign dialect
  refine ⟨_, render_eq typed serialisable dialect, declared, ?_, ?_⟩
  · rw [declared]
    exact isTrue_readBack typed dialect rfl
  · rw [declared]
    exact isTrue_readBack typed dialect rfl

/-- Settings with a text that needs care, a flag, a friend, a custom attribute and metadata. -/
def sample : Settings where
  value field :=
    match field with
    | .title => .text "Tools (\"beta\")]"
    | .comVisible => .bool true
    | _ => .null
  internalsVisibleTo := .list [.text "\"Tools.Tests\"", .null]
  customAttributes := some [some ⟨some "Owner", some "Tools", .list [.bool true]⟩, none]
  metadataAttributes := some [some { key := some "Site", value := some "a)b" }]

theorem isTyped_sample : sample.IsTyped where
  texts := by
    intro field flag
    cases field <;> first | rfl | cases flag
  flags := by
    intro field flag
    cases field <;> first | rfl | cases flag
  internals := rfl

theorem customAttributes_sample {custom : CustomAttribute} (member : custom ∈ given sample.customAttributes) :
    custom = ⟨some "Owner", some "Tools", .list [.bool true]⟩ :=
  List.mem_singleton.1 member

theorem isOneLine_sample : sample.IsOneLine where
  texts := by
    intro field s text
    cases field <;> cases text
    decide
  internals := by decide
  customs := by
    intro custom member
    rw [customAttributes_sample member]
    exact ⟨by rintro _ ⟨⟩; decide, by rintro _ ⟨⟩⟩
  metadata := by
    intro metadata member
    have only : metadata = { key := some "Site", value := some "a)b" } := List.mem_singleton.1 member
    rw [only]
    exact ⟨by rintro _ ⟨⟩; decide, by rintro _ ⟨⟩; decide, by rintro _ ⟨⟩; decide⟩

theorem hasForeignNames_sample : sample.HasForeignNames := by
  intro custom member
  rw [customAttributes_sample member]
  rintro _ ⟨⟩
  exact ⟨.of_all (by decide), by decide +kernel⟩

theorem isSerialisable_sample : sample.IsSerialisable := by
  intro custom member
  rw [customAttributes_sample member]
  exact ⟨"[true]", rfl⟩

theorem ofText_render_sample :
    (sample.IsTyped ∧ sample.IsOneLine ∧ sample.HasForeignNames ∧ sample.IsSerialisable) ∧
    ∃ text, render sample .csharp = .ok text ∧
      (ParseResult.ofText .csharp text).value .title = some "Tools (\"beta\")]" ∧
      (ParseResult.ofText .csharp text).value .version = some "1.0.0.0" ∧
      (ParseResult.ofText .csharp text).internalsVisibleTo = ["Tools.Tests"] ∧
      (ParseResult.ofText .csharp text).customAttributes =
        [⟨"Owner", "[true]"⟩, ⟨"AssemblyMetadata", "\"Site\", \"a)b\""⟩] ∧
      (ParseResult.ofText .csharp text).isComVisible = true := by
  have typed := isTyped_sample
  have oneLine := isOneLine_sample
  have foreign := hasForeignNames_sample
  have serialisable := isSerialisable_sample
  obtain ⟨text, rendered, same, visible, _⟩ := ofText_render sample typed oneLine foreign serialisable .csharp
  refine ⟨⟨typed, oneLine, foreign, serialisable⟩, text, rendered, ?_⟩
  rw [visible, same]
  exact ⟨rfl, rfl, by decide, by decide, rfl⟩

end Settings

end AssemblyInfo
