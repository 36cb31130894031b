import AssemblyInfo.Proofs.Declaration.Invocation
import AssemblyInfo.Proofs.Json.Printable
import AssemblyInfo.Proofs.Settings.Declared
import AssemblyInfo.Proofs.Value.Unbroken

/-!
# Settings without line feeds

If no text of settings holds a line feed, then every declaration in their source text stands on one
line: quotes are put around a text and taken off, but nothing else is added, and what is written as
JSON stands on one line in any case.
-/

namespace AssemblyInfo
open Folded Text Model

namespace Settings

/-- No text of `settings` holds a line feed. -/
structure IsOneLine (settings : Settings) : Prop where
  texts : ∀ field s, (settings.value field).text? = some s → '\n' ∉ s.toList
  internals : ∀ name ∈ settings.internalsNames, '\n' ∉ name.toList
  customs : ∀ custom ∈ given settings.customAttributes,
    (∀ nameSpace, custom.nameSpace = some nameSpace → '\n' ∉ nameSpace.toList) ∧
      ∀ s, custom.value.text? = some s → '\n' ∉ s.toList
  metadata : ∀ metadata ∈ given settings.metadataAttributes,
    (∀ nameSpace, metadata.nameSpace = some nameSpace → '\n' ∉ nameSpace.toList) ∧
      (∀ key, metadata.key = some key → '\n' ∉ key.toList) ∧
      ∀ value, metadata.value = some value → '\n' ∉ value.toList

/-- The custom attributes of `settings` have names of word characters that are not well known. -/
def HasForeignNames (settings : Settings) : Prop :=
  ∀ custom ∈ given settings.customAttributes, ∀ name, custom.name = some name →
    IsWordRun name.toList ∧ isKnown name.toList = false

end Settings

/-! ### Texts on one line -/

theorem Value.argument?_cases {value : Value} {argument : String}
    (written : value.argument? = some argument) :
    (∃ s, value.text? = some s ∧ argument = quote s) ∨
      ∃ flag, value.now = .bool flag ∧ argument = flagText flag := by
  unfold argument? at written
  split at written
  · rename_i s text
    refine Or.inl ⟨s, ?_, (Option.some.inj written).symm⟩
    unfold text?
    rw [text]
  · rename_i flag isFlag
    exact Or.inr ⟨flag, isFlag, (Option.some.inj written).symm⟩
  · cases written

theorem CustomAttribute.argument?_cases {custom : CustomAttribute} {argument : String}
    (written : custom.argument? = some argument) :
    (∃ s, custom.value.text? = some s ∧ argument = quote s) ∨ custom.value.serialise = .ok argument := by
  unfold argument? at written
  split at written
  · cases written
  · rename_i s text
    refine Or.inl ⟨s, ?_, (Option.some.inj written).symm⟩
    unfold Value.text?
    rw [text]
  · rw [Value.serialise_now] at written
    cases serialised : custom.value.serialise with
    | error fault =>
      rw [serialised] at written
      cases written
    | ok text =>
      rw [serialised] at written
      exact Or.inr (congrArg Except.ok (Option.some.inj written))

namespace Settings

variable {settings : Settings}

theorem mem_insertPairs_nil {pairs : List (String × String)} {entry : String × String}
    (member : entry ∈ insertPairs [] pairs) :
    (∃ pair ∈ pairs, entry.1 = pair.1) ∧ ∃ pair ∈ pairs, entry.2 = pair.2 :=
  mem_insertPairs member

theorem customEntries_foreign (foreign : settings.HasForeignNames) {entry : String × String}
    (member : entry ∈ settings.customEntries) :
    IsWordRun entry.1.toList ∧ isKnown entry.1.toList = false := by
  obtain ⟨⟨pair, found, same⟩, _⟩ := mem_insertPairs_nil member
  obtain ⟨custom, present, made⟩ := List.mem_filterMap.1 found
  rw [same]
  exact foreign custom present pair.1 (CustomAttribute.of_pair? made).1

theorem customEntries_oneLine (oneLine : settings.IsOneLine) {entry : String × String}
    (member : entry ∈ settings.customEntries) :
    '\n' ∉ entry.2.toList ∧ allBlank entry.2.toList = false := by
  obtain ⟨_, ⟨pair, found, same⟩⟩ := mem_insertPairs_nil member
  obtain ⟨custom, present, made⟩ := List.mem_filterMap.1 found
  have written := (CustomAttribute.of_pair? made).2
  rw [same]
  rcases CustomAttribute.argument?_cases written with ⟨s, text, quoted⟩ | serialised
  · rw [quoted]
    exact ⟨newline_notMem_quote ((oneLine.customs custom present).2 s text), allBlank_quote s⟩
  · exact ⟨newline_notMem_of_allAsciiPrintable (Value.allAsciiPrintable_serialise serialised),
      Value.allBlank_serialise serialised⟩

theorem metadataEntries_oneLine (oneLine : settings.IsOneLine) {entry : String × String}
    (member : entry ∈ settings.metadataEntries) :
    '\n' ∉ entry.1.toList ∧ '\n' ∉ entry.2.toList := by
  have each : ∀ pair ∈ (given settings.metadataAttributes).filterMap MetadataAttribute.pair?,
      '\n' ∉ pair.1.toList ∧ '\n' ∉ pair.2.toList := by
    intro pair found
    obtain ⟨metadata, present, made⟩ := List.mem_filterMap.1 found
    obtain ⟨key, value, keyed, valued, rfl⟩ := MetadataAttribute.of_pair? made
    obtain ⟨_, keys, values⟩ := oneLine.metadata metadata present
    exact ⟨newline_notMem_quote (keys key keyed), newline_notMem_quote (values value valued)⟩
  obtain ⟨⟨named, namedMember, sameName⟩, ⟨valued, valuedMember, sameValue⟩⟩ := mem_insertPairs_nil member
  rw [sameName, sameValue]
  exact ⟨(each named namedMember).1, (each valued valuedMember).2⟩

theorem metadataName_foreign : IsWordRun metadataName.toList ∧ isKnown metadataName.toList = false :=
  ⟨.of_all (by decide), by decide +kernel⟩

/-- The attributes that are not well known have names and arguments that can be read back. -/
theorem unknownEntries_readable (oneLine : settings.IsOneLine) (foreign : settings.HasForeignNames)
    {entry : String × String} (member : entry ∈ settings.unknownEntries) :
    (IsWordRun entry.1.toList ∧ isKnown entry.1.toList = false) ∧
      '\n' ∉ entry.2.toList ∧ allBlank entry.2.toList = false := by
  unfold unknownEntries at member
  rcases List.mem_append.1 member with custom | metadata
  · exact ⟨customEntries_foreign foreign custom, customEntries_oneLine oneLine custom⟩
  · obtain ⟨pair, found, rfl⟩ := List.mem_map.1 metadata
    obtain ⟨key, value⟩ := metadataEntries_oneLine oneLine found
    refine ⟨metadataName_foreign, ?_, allBlank_eq_false (c := ',') (by simp) (by decide)⟩
    simp [key, value]

theorem newline_notMem_fieldNameSpace (field : Field) : '\n' ∉ field.nameSpace.toList := by
  cases field <;> decide

theorem newline_notMem_needed {insertion : Insertion} {needed : Option String}
    (single : ∀ nameSpace, needed = some nameSpace → '\n' ∉ nameSpace.toList)
    {target : ModelTable} {name text nameSpace : String} (made : insertion = .entry target name needed text)
    (needs : insertion.nameSpace? = some nameSpace) : '\n' ∉ nameSpace.toList := by
  rw [made, Insertion.nameSpace?, Option.filter_eq_some_iff] at needs
  exact single nameSpace needs.1

/-- The name spaces that `settings` ask for hold no line feed either. -/
theorem insertions_oneLine (oneLine : settings.IsOneLine) {insertion : Insertion}
    (asked : insertion ∈ settings.insertions) {nameSpace : String}
    (needs : insertion.nameSpace? = some nameSpace) : '\n' ∉ nameSpace.toList := by
  unfold insertions internalsInsertions at asked
  rw [List.mem_append, List.mem_append, List.mem_append, List.mem_append] at asked
  rcases asked with ((written | fragment | required) | custom) | metadata
  · obtain ⟨field, _, made⟩ := List.mem_filterMap.1 written
    obtain ⟨text, _, same⟩ := Option.map_eq_some_iff.1 made
    apply newline_notMem_needed _ same.symm needs
    rintro _ ⟨⟩
    exact newline_notMem_fieldNameSpace field
  · obtain ⟨name, _, rfl⟩ := List.mem_map.1 fragment
    cases needs
  · split at required
    · cases required
    · rw [List.mem_singleton.1 required] at needs
      obtain rfl := Option.some.inj needs
      decide
  · obtain ⟨custom, present, made⟩ := List.mem_filterMap.1 custom
    unfold CustomAttribute.insertion? at made
    obtain ⟨name, _, made⟩ := Option.bind_eq_some_iff.1 made
    obtain ⟨argument, _, made⟩ := Option.bind_eq_some_iff.1 made
    exact newline_notMem_needed (oneLine.customs custom present).1 (Option.some.inj made).symm needs
  · obtain ⟨metadata, present, made⟩ := List.mem_filterMap.1 metadata
    unfold MetadataAttribute.insertion? at made
    obtain ⟨key, _, made⟩ := Option.bind_eq_some_iff.1 made
    obtain ⟨value, _, made⟩ := Option.bind_eq_some_iff.1 made
    exact newline_notMem_needed (oneLine.metadata metadata present).1 (Option.some.inj made).symm needs

theorem newline_notMem_nameSpace (oneLine : settings.IsOneLine) {nameSpace : String}
    (member : nameSpace ∈ (empty.insertAll settings.insertions).nameSpaces.items) :
    '\n' ∉ nameSpace.toList := by
  rw [nameSpaces_insertAll] at member
  have first : nameSpace ∈ firstsBy id (settings.insertions.filterMap Insertion.nameSpace?) := by
    rw [← Set.items_insertAll_empty]
    exact member
  obtain ⟨insertion, asked, needs⟩ := List.mem_filterMap.1 ((firstsBy_sublist id _).subset first)
  exact insertions_oneLine oneLine asked needs

theorem newline_notMem_flagText (flag : Bool) : '\n' ∉ (flagText flag).toList := by
  cases flag <;> decide

theorem newline_notMem_friend (oneLine : settings.IsOneLine) {name : String}
    (member : name ∈ settings.friends) : '\n' ∉ name.toList := by
  obtain ⟨given, found, rfl⟩ := List.mem_map.1 ((firstsBy_sublist id _).subset member)
  intro newline
  exact oneLine.internals given found (mem_of_mem_unquote newline)

theorem newline_notMem_argument (oneLine : settings.IsOneLine) {field : Field} {argument : String}
    (held : (settings.value field).argument? = some argument) : '\n' ∉ argument.toList := by
  rcases Value.argument?_cases held with ⟨s, text, rfl⟩ | ⟨flag, _, rfl⟩
  · exact newline_notMem_quote (oneLine.texts field s text)
  · exact newline_notMem_flagText flag

/-- Every declaration of `settings` stands on one line. -/
theorem newline_notMem_content (oneLine : settings.IsOneLine) (foreign : settings.HasForeignNames)
    (dialect : Dialect) {content : String}
    (member : content ∈ (empty.insertAll settings.insertions).contents) :
    '\n' ∉ (dialect.declaration content).toList := by
  rw [contents_insertAll, List.mem_append, List.mem_append] at member
  rcases member with (written | allowed) | unknown
  · obtain ⟨field, _, made⟩ := List.mem_filterMap.1 written
    obtain ⟨argument, held, rfl⟩ := Option.map_eq_some_iff.1 made
    have run := isWordRun_knownNames _ (attributeName_mem_knownNames field)
    exact newline_notMem_declaration dialect run (newline_notMem_argument oneLine held)
  · obtain ⟨name, found, rfl⟩ := List.mem_map.1 allowed
    have run := isWordRun_knownNames _ internalsVisibleToName_mem_knownNames
    exact newline_notMem_declaration dialect run (newline_notMem_quote (newline_notMem_friend oneLine found))
  · obtain ⟨entry, found, rfl⟩ := List.mem_map.1 unknown
    obtain ⟨⟨run, _⟩, single, _⟩ := unknownEntries_readable oneLine foreign found
    exact newline_notMem_declaration dialect run single

end Settings

end AssemblyInfo
