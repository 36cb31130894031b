import AssemblyInfo.Proofs.Folded.NormalForm
import AssemblyInfo.Proofs.Model.Operation
import AssemblyInfo.Proofs.Outcome
import AssemblyInfo.Proofs.Settings.NormalForm
import AssemblyInfo.Proofs.Settings.Precedence

/-!
# Structured values of custom attributes

A value that is neither null nor a text is written as JSON, in printable ASCII characters. Its attribute
takes up one line, if its name holds no line feed, and the text is read back as it is.
-/

namespace AssemblyInfo
open Folded Text Model

/-- `value.isStructured` says that `value` is neither null nor a text. -/
def Value.isStructured (value : Value) : Bool :=
  match value.now with
  | .null | .text _ => false
  | _ => true

/-- `custom.isUnder name` says that `custom` is written, under `name` in any case. -/
def CustomAttribute.isUnder (custom : CustomAttribute) (name : String) : Bool :=
  custom.pair?.any fun pair => lower pair.1 = lower name

namespace Model

/-! ### Lines -/

/-- Whatever a model declares stands on lines of its own. -/
theorem splitLines_render_of_mem {model : Model} {content : String} (member : content ∈ model.contents)
    (dialect : Dialect) :
    ∃ above below, splitLines (model.render dialect).toList =
      above ++ (splitLines (dialect.declaration content).toList ++ below) := by
  obtain ⟨start, written⟩ : ∃ start, (dialect.declaration content).toList = start ++ [dialect.lastChar] :=
    ⟨dialect.opening.toList ++ content.toList, by simp [Dialect.declaration, dialect.closing_eq]⟩
  have other : dialect.lastChar ≠ '\n' := by cases dialect <;> decide
  obtain ⟨earlier, later, contents⟩ := List.append_of_mem member
  obtain ⟨first, second, lines⟩ :
      ∃ first second, model.lines dialect = first ++ dialect.declaration content :: second :=
    ⟨_, later.map dialect.declaration, by
      rw [Model.lines, contents, List.map_append, List.map_cons, ← List.append_assoc]⟩
  have text : (model.lines dialect).flatMap (fun line => line.toList ++ ['\n']) =
      (((first.map String.toList).flatMap fun line => line ++ ['\n']) ++ start) ++
        dialect.lastChar :: '\n' :: (second.flatMap fun line => line.toList ++ ['\n']) := by
    rw [lines, List.flatMap_append, List.flatMap_cons, written, List.flatMap_map]
    simp
  obtain ⟨tail, ended⟩ := exists_endWithNewline other
    (((first.map String.toList).flatMap fun line => line ++ ['\n']) ++ start)
    (second.flatMap fun line => line.toList ++ ['\n'])
  have whole : start ++ dialect.lastChar :: '\n' :: tail = (dialect.declaration content).toList ++ '\n' :: tail := by
    rw [written]
    simp
  refine ⟨(first.map String.toList).flatMap splitLines, splitLines tail, ?_⟩
  rw [render, String.toList_ofList, text, ended, List.append_assoc, whole, splitLines_flatMap_append,
    splitLines_append]

theorem length_splitLines_declaration (dialect : Dialect) {argument : String} (single : '\n' ∉ argument.toList)
    (name : String) :
    (splitLines (dialect.declaration (invocation name argument)).toList).length = name.toList.count '\n' + 1 := by
  have opening := List.count_eq_zero.2 dialect.newline_notMem_opening
  have closing := List.count_eq_zero.2 (newline_notMem_closing dialect)
  have inner := List.count_eq_zero.2 single
  rw [length_splitLines, invocation_toList]
  simp [opening, closing, inner]

/-- The source texts of `model` hold a custom attribute: on lines of its own, one and one more for each line
feed in its name. If the name consists of word characters and is not well known, it is read back, with the
argument that it was written with. -/
structure HoldsCustom (model : Model) (name argument : String) : Prop where
  entry : (name, argument) ∈ model.customAttributes.entries
  lines : ∀ dialect : Dialect, ∃ above below, splitLines (model.render dialect).toList =
    above ++ (splitLines (dialect.declaration (invocation name argument)).toList ++ below)
  height : ∀ dialect : Dialect, (splitLines (dialect.declaration (invocation name argument)).toList).length =
    name.toList.count '\n' + 1
  read : IsWordRun name.toList → isKnown name.toList = false → ∃ earlier later,
    (ParseResult.ofText .csharp (model.render .csharp)).customAttributes = earlier ++ ⟨name, argument⟩ :: later

theorem invocation_mem_contents {model : Model} {name argument : String}
    (entry : (name, argument) ∈ model.customAttributes.entries) : invocation name argument ∈ model.contents := by
  unfold contents
  exact List.mem_append_left _ (List.mem_append_right _ (List.mem_map.2 ⟨_, entry, rfl⟩))

theorem holdsCustom {model : Model} {name argument : String}
    (entry : (name, argument) ∈ model.customAttributes.entries) (single : '\n' ∉ argument.toList)
    (solid : allBlank argument.toList = false) : model.HoldsCustom name argument := by
  have member := invocation_mem_contents entry
  refine ⟨entry, splitLines_render_of_mem member, fun dialect => length_splitLines_declaration dialect single name,
    fun run unknown => ?_⟩
  obtain ⟨above, below, lines⟩ := splitLines_render_of_mem member .csharp
  refine ⟨above.filterMap customOn?, below.filterMap customOn?, ?_⟩
  rw [ParseResult.customAttributes_ofText, customAll_eq_filterMap, lines,
    splitLines_of_newline_notMem (newline_notMem_declaration .csharp run single), List.filterMap_append,
    List.singleton_append, List.filterMap_cons, customOn?_csharp run single, unknown, solid]
  rfl

/-! ### The table of custom attributes -/

/-- `LeavesCustoms edit` says that `edit` leaves the custom attributes as they are. -/
def LeavesCustoms (edit : Edit) : Prop :=
  ∀ model, (edit model).2.customAttributes = model.customAttributes

theorem leavesCustoms_runAll {edits : List Edit} (each : ∀ edit ∈ edits, LeavesCustoms edit) :
    LeavesCustoms (runAll edits) := by
  induction edits with
  | nil => exact fun _ => rfl
  | cons edit rest ih =>
    rw [List.forall_mem_cons] at each
    intro model
    have here := each.1 model
    rw [runAll]
    split
    · rename_i next done
      rw [done] at here
      exact (ih each.2 next).trans here
    · exact here

theorem leavesCustoms_addTo (target : ModelSet) (value : Value) : LeavesCustoms (addTo target value) := by
  intro model
  unfold addTo onSet
  split
  · cases target <;> rfl
  · rfl

theorem leavesCustoms_fieldEdit (settings : Settings) (field : Field) :
    LeavesCustoms (fieldEdit settings field) := by
  have called := @calls_putAttribute (some field.attributeName) (some field.nameSpace) (settings.value field)
  change Calls _ (fieldEdit settings field) _ _ _ at called
  rcases called with ⟨-, same⟩ | ⟨-, ⟨fault, same⟩ | ⟨name, text, -, inserts⟩⟩
  · rw [same]
    exact fun _ => rfl
  · rw [same]
    exact fun _ => rfl
  · intro model
    rw [inserts model]
    exact table_insert_of_ne model (by decide : ModelTable.customAttributes ≠ .attributes) name _ text

theorem leavesCustoms_allow (item : Value) : LeavesCustoms (allow item) := by
  unfold allow
  split
  · exact fun _ => rfl
  · split
    · exact leavesCustoms_addTo _ _
    · exact fun _ => rfl

theorem leavesCustoms_requireInternals : LeavesCustoms requireInternals := by
  intro model
  unfold requireInternals
  split
  · rfl
  · exact leavesCustoms_addTo _ _ model

theorem leavesCustoms_internalsEdits (value : Value) : ∀ edit ∈ internalsEdits value, LeavesCustoms edit := by
  unfold internalsEdits
  intro edit member
  split at member
  · cases member
  · split at member
    · rcases List.mem_append.1 member with allowed | last
      · obtain ⟨item, -, rfl⟩ := List.mem_map.1 allowed
        exact leavesCustoms_allow item
      · rw [List.mem_singleton.1 last]
        exact leavesCustoms_requireInternals
    · rw [List.mem_singleton.1 member]
      exact fun _ => rfl

/-- What comes before the custom attributes leaves them as they are. -/
theorem leavesCustoms_start (settings : Settings) :
    LeavesCustoms (runAll (Field.all.map (fieldEdit settings) ++ internalsEdits settings.internalsVisibleTo)) := by
  apply leavesCustoms_runAll
  intro edit member
  rcases List.mem_append.1 member with field | internals
  · obtain ⟨which, -, rfl⟩ := List.mem_map.1 field
    exact leavesCustoms_fieldEdit settings which
  · exact leavesCustoms_internalsEdits _ edit internals

/-- The custom attributes of a model are the normal form of the descriptors, none of which is refused,
whatever else the settings hold. -/
theorem customAttributes_build {settings : Settings} {model : Model} (built : build settings = .ok model) :
    settings.refusal? = none ∧ model.customAttributes.entries =
      normalForm ((given settings.customAttributes).filterMap CustomAttribute.pair?) := by
  have done := runAll_edits_of_build built
  rw [edits, List.append_assoc] at done
  obtain ⟨between, first, done⟩ := runAll_append_eq_ok done
  obtain ⟨middle, customs, rest⟩ := runAll_append_eq_ok done
  have kept : settings.refusal? = none := by
    by_contra refused
    obtain ⟨fault, refused⟩ := Option.ne_none_iff_exists'.1 refused
    obtain ⟨left, failed⟩ := runAll_customs_of_refused refused between
    rw [failed] at customs
    cases customs
  -- The edits that follow the fields and the friends are insertions, since none of them is refused.
  have written := runAll_filterMap (given settings.customAttributes) (fun custom member =>
    inserts_customEdit (List.findSome?_eq_none_iff.1 kept custom member)) between
  have described := runAll_filterMap (given settings.metadataAttributes)
    (fun metadata _ => inserts_metadataEdit metadata) middle
  rw [written] at customs
  rw [described] at rest
  obtain rfl := (Prod.mk.inj customs).2
  obtain rfl := (Prod.mk.inj rest).2
  have none : between.customAttributes = empty.customAttributes := by
    rw [← leavesCustoms_start settings empty, first]
  refine ⟨kept, ?_⟩
  have entries := entries_insertAll between
    ((given settings.customAttributes).filterMap CustomAttribute.insertion? ++
      (given settings.metadataAttributes).filterMap MetadataAttribute.insertion?) .customAttributes
  rw [List.filterMap_append, List.filterMap_filterMap, List.filterMap_filterMap] at entries
  simp only [pair?_customInsertion?, pair?_metadataInsertion?, reduceCtorEq, if_true, if_false] at entries
  rw [← insertAll_append]
  refine entries.trans ?_
  rw [List.filterMap_none, List.append_nil, ← insertPairs_eq_normalForm]
  exact congrArg (insertPairs · _) (congrArg Table.entries none)

end Model

/-! ### Structured values -/

theorem CustomAttribute.serialise_of_pair? {custom : CustomAttribute} {pair : String × String}
    (made : custom.pair? = some pair) (structured : custom.value.isStructured = true) :
    custom.value.serialise = .ok pair.2 := by
  rcases argument?_cases (of_pair? made).2 with ⟨s, text, -⟩ | written
  · unfold Value.isStructured at structured
    rw [Value.text?_eq_some.1 text] at structured
    cases structured
  · exact written

theorem CustomAttribute.exists_pair? {custom : CustomAttribute} {name : String} (named : custom.name = some name)
    (structured : custom.value.isStructured = true) (kept : custom.refusal? = none) :
    ∃ text, custom.pair? = some (name, text) := by
  have accepted : custom.isAccepted = true := by
    unfold Value.isStructured at structured
    unfold isAccepted
    rw [named]
    cases held : custom.value.now with
    | null =>
      rw [held] at structured
      cases structured
    | _ => rfl
  obtain ⟨other, text, same, -, made⟩ := pair?_of_accepted accepted kept
  rw [named] at same
  exact ⟨text, Option.some.inj same ▸ made⟩

namespace Settings

variable {settings : Settings} {model : Model} {earlier later : List CustomAttribute} {custom : CustomAttribute}
  {name : String}

/-- What is written under a name last stands in the model, under the name as it is spelled first. -/
theorem exists_mem_customAttributes {text : String} (built : build settings = .ok model)
    (split : given settings.customAttributes = earlier ++ custom :: later) (made : custom.pair? = some (name, text))
    (last : ∀ other ∈ later, other.isUnder name = false) :
    ∃ first spelling, (given settings.customAttributes).find? (·.isUnder name) = some first ∧
      first.name = some spelling ∧ (spelling, text) ∈ model.customAttributes.entries := by
  have pairs : (given settings.customAttributes).filterMap CustomAttribute.pair? =
      earlier.filterMap CustomAttribute.pair? ++ (name, text) :: later.filterMap CustomAttribute.pair? := by
    rw [split, List.filterMap_append, List.filterMap_cons, made]
  have unrepeated : ∀ pair ∈ later.filterMap CustomAttribute.pair?, lower pair.1 ≠ lower name := by
    intro pair member same
    obtain ⟨other, found, again⟩ := List.mem_filterMap.1 member
    have apart := last other found
    rw [CustomAttribute.isUnder, again, Option.any_some, decide_eq_false_iff_not] at apart
    exact apart same
  obtain ⟨pair, found⟩ : ∃ pair, ((given settings.customAttributes).filterMap CustomAttribute.pair?).find?
      (fun pair => decide (lower pair.1 = lower name)) = some pair := by
    rw [← Option.isSome_iff_exists, List.find?_isSome, pairs]
    exact ⟨(name, text), List.mem_append_right _ List.mem_cons_self, decide_eq_true rfl⟩
  have entry := mem_normalForm found (by rw [pairs]; exact lastUnder?_of_last unrepeated)
  rw [← (customAttributes_build built).2] at entry
  rw [List.find?_filterMap] at found
  obtain ⟨first, leading, spelled⟩ := Option.bind_eq_some_iff.1 found
  exact ⟨first, pair.1, leading, (CustomAttribute.of_pair? spelled).1, entry⟩

theorem holdsCustom_of_build (built : build settings = .ok model)
    (split : given settings.customAttributes = earlier ++ custom :: later) (named : custom.name = some name)
    (structured : custom.value.isStructured = true) (last : ∀ other ∈ later, other.isUnder name = false) :
    ∃ first spelling text, (given settings.customAttributes).find? (·.isUnder name) = some first ∧
      first.name = some spelling ∧ custom.value.serialise = .ok text ∧ model.HoldsCustom spelling text := by
  have kept := List.findSome?_eq_none_iff.1 (customAttributes_build built).1 custom (by simp [split])
  obtain ⟨text, made⟩ := custom.exists_pair? named structured kept
  have written := CustomAttribute.serialise_of_pair? made structured
  obtain ⟨first, spelling, leading, spelled, entry⟩ := exists_mem_customAttributes built split made last
  have single := newline_notMem_of_allAsciiPrintable (Value.allAsciiPrintable_serialise written)
  exact ⟨first, spelling, text, leading, spelled, written,
    holdsCustom entry single (Value.allBlank_serialise written)⟩

/-- The text of a value consists of printable ASCII characters. So the last structured value under a name
takes up one line in the source text, and one more for each line feed in the name as it is spelled first, and
from C# it is read back as it is. -/
theorem build_structured :
    (∀ (value : Value) (text : String), value.serialise = .ok text →
      ∀ c ∈ text.toList, 0x20 ≤ c.toNat ∧ c.toNat ≤ 0x7E) ∧
    ∀ (settings : Settings) (model : Model) (earlier later : List CustomAttribute) (custom : CustomAttribute)
      (name : String), build settings = .ok model →
      given settings.customAttributes = earlier ++ custom :: later → custom.name = some name →
      custom.value.isStructured = true → (∀ other ∈ later, other.isUnder name = false) →
      ∃ first spelling text, (given settings.customAttributes).find? (·.isUnder name) = some first ∧
        first.name = some spelling ∧ custom.value.serialise = .ok text ∧ model.HoldsCustom spelling text := by
  refine ⟨fun value text written c member => ?_, ?_⟩
  · have printable := List.all_eq_true.1 (Value.allAsciiPrintable_serialise written) c member
    rw [isAsciiPrintable, Bool.and_eq_true, decide_eq_true_eq, decide_eq_true_eq] at printable
    omega
  · intro settings model earlier later custom name built split named structured last
    exact holdsCustom_of_build built split named structured last

/-- A mapping with brackets, quotes and a line feed in its texts. -/
def owners : CustomAttribute :=
  ⟨some "OWNERS", some "Tools", .map [(.text "a\")]", .list [.int 1, .tuple [.bool true, .text "\n("]])]⟩

/-- Settings that name an attribute twice, with `owners` for the second time, and have a title of two lines. -/
def owned : Settings where
  value field :=
    match field with
    | .title => .text "Tools\nand more"
    | _ => .null
  customAttributes := some [some ⟨some "Owners", none, .text "me"⟩, some owners, none,
    some ⟨some "Other", none, .list []⟩]

theorem build_structured_owned :
    (given owned.customAttributes = [⟨some "Owners", none, .text "me"⟩] ++ owners :: [⟨some "Other", none, .list []⟩] ∧
      owners.name = some "OWNERS" ∧ owners.value.isStructured = true ∧
      ∀ other ∈ [(⟨some "Other", none, .list []⟩ : CustomAttribute)], other.isUnder "OWNERS" = false) ∧
    ∃ model text, build owned = .ok model ∧ text = "\x7b\x22a\\\x22)]\x22:[1,[true,\x22\\n(\x22]]\x7d" ∧
      model.HoldsCustom "Owners" text ∧ ∃ earlier later,
        (ParseResult.ofText .csharp (model.render .csharp)).customAttributes = earlier ++ ⟨"Owners", text⟩ :: later := by
  obtain ⟨model, built⟩ := exists_ok_of_fault? (show fault? (build owned) = none by decide +kernel)
  have last : ∀ other ∈ [(⟨some "Other", none, .list []⟩ : CustomAttribute)], other.isUnder "OWNERS" = false := by
    decide +kernel
  have structured : owners.value.isStructured = true := by decide
  obtain ⟨first, spelling, text, found, spelled, written, holds⟩ :=
    build_structured.2 owned model [⟨some "Owners", none, .text "me"⟩] [⟨some "Other", none, .list []⟩] owners
      "OWNERS" built rfl rfl structured last
  have leading : ((given owned.customAttributes).find? (·.isUnder "OWNERS")).bind (·.name) = some "Owners" := by
    decide +kernel
  have fragment : owners.value.serialise.toOption = some "\x7b\x22a\\\x22)]\x22:[1,[true,\x22\\n(\x22]]\x7d" := by
    decide +kernel
  rw [found, Option.bind_some, spelled] at leading
  rw [written] at fragment
  obtain rfl := Option.some.inj leading
  have read := holds.read (.of_all (by decide)) (by decide +kernel)
  exact ⟨⟨rfl, rfl, structured, last⟩, model, text, built, Option.some.inj fragment, holds, read⟩

/-- A line feed in the name of an attribute with a structured value starts another line of the source text. -/
theorem render_structured_brokenName :
    ∃ model above below, build { customAttributes := some [some ⟨some "A\nB", none, .list [.int 1]⟩] } = .ok model ∧
      splitLines (model.render .csharp).toList = above ++ ("[assembly: A".toList :: "B([1])]".toList :: below) := by
  obtain ⟨model, built⟩ := exists_ok_of_fault? (show fault?
    (build { customAttributes := some [some ⟨some "A\nB", none, .list [.int 1]⟩] }) = none by decide +kernel)
  have entries : model.customAttributes.entries = [("A\nB", "[1]")] := by
    rw [(customAttributes_build built).2]
    decide +kernel
  have member : invocation "A\nB" "[1]" ∈ model.contents := by
    apply invocation_mem_contents
    rw [entries]
    exact List.mem_singleton_self _
  obtain ⟨above, below, lines⟩ := splitLines_render_of_mem member .csharp
  exact ⟨model, above, below, built, lines⟩

end Settings

end AssemblyInfo
