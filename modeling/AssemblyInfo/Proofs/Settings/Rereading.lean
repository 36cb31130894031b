import AssemblyInfo.Proofs.Settings.Mapping

/-!
# Settings that are read again

The mapping that lists what settings hold gives these settings again, if they have been read from a mapping
themselves: reading is a normalisation. It fails only for an integer that is too long to be written, where
its text is wanted; and the attributes that it reads from a list are the mappings in it, in their order.
-/

namespace AssemblyInfo

/-! ### Kinds of values -/

namespace Value

/-- `value.isMapping` says that `value` is a mapping. -/
def isMapping (value : Value) : Bool :=
  value.entries?.isSome

theorem now_ofText? (text? : Option String) : (ofText? text?).now = ofText? text? := by
  cases text? <;> rfl

theorem scalarText?_ofText? (text? : Option String) : (ofText? text?).scalarText? = text? := by
  cases text? <;> rfl

theorem isLong_ofText? (text? : Option String) : (ofText? text?).isLong = false := by
  cases text? <;> rfl

theorem now_ofFlag? (flag? : Option Bool) : (ofFlag? flag?).now = ofFlag? flag? := by
  cases flag? <;> rfl

theorem flag?_ofFlag? (flag? : Option Bool) : (ofFlag? flag?).flag? = flag? := by
  cases flag? <;> rfl

theorem texts_list_text (texts : List String) : (list (texts.map text)).texts = texts := by
  change (texts.map text).filterMap scalarText? = texts
  rw [List.filterMap_map]
  exact List.filterMap_some

end Value

/-! ### Mappings of names -/

/-- `Entries.ofNamed named` is the mapping of the values `named`, without those that are null. -/
def Entries.ofNamed (named : List (String × Value)) : Entries :=
  (named.filter fun entry => !entry.2.isNull).map fun entry => (.text entry.1, entry.2)

namespace Entries

theorem lookup?_cons_text (other name : String) (value : Value) (rest : Entries) :
    Value.lookup? name ((.text other, value) :: rest) =
      if other = name then some value else Value.lookup? name rest := by
  unfold Value.lookup?
  by_cases same : other = name
  · rw [if_pos same, List.find?_cons_of_pos (by simp [Value.key, same])]
    rfl
  · rw [if_neg same, List.find?_cons_of_neg (by simp [Value.key, same])]

theorem ofNamed_cons (name : String) (value : Value) (rest : List (String × Value)) :
    ofNamed ((name, value) :: rest) =
      if value.isNull then ofNamed rest else (.text name, value) :: ofNamed rest := by
  unfold ofNamed
  rw [List.filter_cons]
  cases value.isNull <;> rfl

theorem lookup?_ofNamed_of_notMem {named : List (String × Value)} {name : String}
    (absent : name ∉ named.map Prod.fst) : Value.lookup? name (ofNamed named) = none := by
  induction named with
  | nil => rfl
  | cons entry rest ih =>
    rw [List.map_cons, List.mem_cons, not_or] at absent
    rw [ofNamed_cons, apply_ite (Value.lookup? name), lookup?_cons_text, if_neg (Ne.symm absent.1), ih absent.2,
      ite_self]

/-- A mapping of distinct names has what is listed under them, unless it is null. -/
theorem lookup?_ofNamed {named : List (String × Value)} (distinct : (named.map Prod.fst).Nodup) {name : String}
    {value : Value} (member : (name, value) ∈ named) :
    Value.lookup? name (ofNamed named) = if value.isNull then none else some value := by
  induction named with
  | nil => cases member
  | cons entry rest ih =>
    rw [List.map_cons, List.nodup_cons] at distinct
    rw [ofNamed_cons, apply_ite (Value.lookup? name), lookup?_cons_text]
    rcases List.mem_cons.1 member with rfl | later
    · rw [if_pos rfl, lookup?_ofNamed_of_notMem distinct.1]
    · have other : entry.1 ≠ name := by
        rintro rfl
        exact distinct.1 (List.mem_map.2 ⟨_, later, rfl⟩)
      rw [if_neg other, ih distinct.2 later, ite_self]

theorem valueOf_ofNamed {named : List (String × Value)} (distinct : (named.map Prod.fst).Nodup) {name : String}
    {value : Value} (member : (name, value) ∈ named) : (ofNamed named).valueOf name = value.now := by
  rw [valueOf, lookup?_ofNamed distinct member]
  cases null : value.isNull with
  | true => exact (Value.now_of_isNull null).symm
  | false => rfl

end Entries

/-! ### What settings hold -/

namespace CustomAttribute

/-- `custom.toEntries` is the mapping that writes `custom`. -/
def toEntries (custom : CustomAttribute) : Entries :=
  [(.text "name", .ofText? custom.name), (.text "namespace", .ofText? custom.nameSpace), (.text "value", custom.value)]

/-- A custom attribute is settled if its value is worked out. -/
def IsSettled (custom : CustomAttribute) : Prop :=
  custom.value.now = custom.value

theorem isSettled_ofEntries (entries : Entries) : (ofEntries entries).IsSettled :=
  Value.now_now _

theorem ofEntries_toEntries {custom : CustomAttribute} (settled : custom.IsSettled) :
    ofEntries custom.toEntries = custom := by
  simp only [ofEntries, Entries.textOf, Entries.valueOf, toEntries, Entries.lookup?_cons_text]
  simp [Value.now_ofText?, Value.scalarText?_ofText?, show custom.value.now = custom.value from settled]

end CustomAttribute

namespace MetadataAttribute

def toEntries (metadata : MetadataAttribute) : Entries :=
  [(.text "name", .ofText? metadata.name), (.text "namespace", .ofText? metadata.nameSpace),
    (.text "key", .ofText? metadata.key), (.text "value", .ofText? metadata.value)]

theorem ofEntries_toEntries (metadata : MetadataAttribute) : ofEntries metadata.toEntries = metadata := by
  simp only [ofEntries, Entries.textOf, Entries.textOr, Entries.valueOf, toEntries, Entries.lookup?_cons_text]
  simp [Value.now_ofText?, Value.scalarText?_ofText?]

end MetadataAttribute

/-- `IsWhole holds listed` says that `holds` of all that is listed, if anything is, without gaps. -/
def IsWhole {α : Type} (holds : α → Prop) (listed : Option (List (Option α))) : Prop :=
  listed = none ∨ ∃ items : List α, listed = some (items.map some) ∧ ∀ item ∈ items, holds item

theorem IsWhole.imp {α : Type} {holds other : α → Prop} {listed : Option (List (Option α))}
    (whole : IsWhole holds listed) (implies : ∀ item, holds item → other item) : IsWhole other listed := by
  rcases whole with none | ⟨items, same, each⟩
  · exact Or.inl none
  · exact Or.inr ⟨items, same, fun item member => implies item (each item member)⟩

/-- `Value.ofListed write listed` is the list of the mappings that write what is listed, null if there is no
list. -/
def Value.ofListed {α : Type} (write : α → Entries) : Option (List (Option α)) → Value
  | some listed => .list (listed.map fun item? => (item?.map fun item => .map (write item)).getD .null)
  | none => .null

theorem Value.now_ofListed {α : Type} (write : α → Entries) (listed : Option (List (Option α))) :
    (ofListed write listed).now = ofListed write listed := by
  cases listed <;> rfl

namespace Settings

/-- `settings.named` is what `settings` hold, under the keys in a settings file. -/
def named (settings : Settings) : List (String × Value) :=
  Field.all.map (fun field => (field.key, settings.value field)) ++
    [("internals_visible_to", settings.internalsVisibleTo),
      ("custom_attributes", .ofListed CustomAttribute.toEntries settings.customAttributes),
      ("metadata_attributes", .ofListed MetadataAttribute.toEntries settings.metadataAttributes)]

/-- `settings.toEntries` is the mapping that lists what `settings` hold, apart from what is null. -/
def toEntries (settings : Settings) : Entries :=
  .ofNamed settings.named

/-- `settings.IsSettled` says that `settings` are of the form that reading gives them. -/
structure IsSettled (settings : Settings) : Prop where
  texts : ∀ field, field.isFlag = false → ∃ text?, settings.value field = .ofText? text?
  flags : ∀ field, field.isFlag = true → ∃ flag?, settings.value field = .ofFlag? flag?
  internals : settings.internalsVisibleTo = .null ∨
    ∃ texts : List String, settings.internalsVisibleTo = .list (texts.map .text)
  customs : IsWhole CustomAttribute.IsSettled settings.customAttributes
  metadata : IsWhole (fun _ => True) settings.metadataAttributes

theorem isWhole_mappingsOf {α : Type} {holds : α → Prop} {read : Entries → α} (entries : Entries) (name : String)
    (each : ∀ mapping, holds (read mapping)) :
    IsWhole holds ((entries.mappingsOf name).map fun mappings => mappings.map fun mapping => some (read mapping)) := by
  cases entries.mappingsOf name with
  | none => exact Or.inl rfl
  | some mappings =>
    refine Or.inr ⟨mappings.map read, ?_, ?_⟩
    · rw [Option.map_some, List.map_map]
      rfl
    · intro item member
      obtain ⟨mapping, -, rfl⟩ := List.mem_map.1 member
      exact each mapping

theorem isSettled_settled (entries : Entries) : (settled entries).IsSettled where
  texts := by
    intro field noFlag
    change ∃ text?, entries.fieldOf field = .ofText? text?
    rw [Entries.fieldOf, noFlag]
    exact ⟨_, rfl⟩
  flags := by
    intro field flag
    change ∃ flag?, entries.fieldOf field = .ofFlag? flag?
    rw [Entries.fieldOf, flag]
    exact ⟨_, rfl⟩
  internals := by
    unfold settled
    dsimp only
    cases Value.lookup? "internals_visible_to" entries with
    | some value => exact Or.inr ⟨_, rfl⟩
    | none => exact Or.inl rfl
  customs := isWhole_mappingsOf _ _ CustomAttribute.isSettled_ofEntries
  metadata := isWhole_mappingsOf _ _ fun _ => trivial

/-! ### Reading again -/

section Again

variable {settings : Settings}

theorem nodup_named (settings : Settings) : (settings.named.map Prod.fst).Nodup := by
  have names : settings.named.map Prod.fst =
      Field.all.map Field.key ++ ["internals_visible_to", "custom_attributes", "metadata_attributes"] := rfl
  rw [names]
  decide

theorem valueOf_toEntries {name : String} {value : Value} (member : (name, value) ∈ settings.named) :
    settings.toEntries.valueOf name = value.now :=
  Entries.valueOf_ofNamed settings.nodup_named member

theorem valueOf_field (settings : Settings) (field : Field) :
    settings.toEntries.valueOf field.key = (settings.value field).now :=
  valueOf_toEntries (List.mem_append_left _ (List.mem_map_of_mem field.mem_all))

theorem fieldOf_toEntries (settled : settings.IsSettled) (field : Field) :
    settings.toEntries.fieldOf field = settings.value field := by
  rw [Entries.fieldOf, Entries.textOf, valueOf_field]
  cases isFlag : field.isFlag with
  | false =>
    obtain ⟨text?, same⟩ := settled.texts field isFlag
    rw [same, Value.now_ofText?, Value.scalarText?_ofText?]
    rfl
  | true =>
    obtain ⟨flag?, same⟩ := settled.flags field isFlag
    rw [same, Value.now_ofFlag?, Value.flag?_ofFlag?]
    rfl

theorem lookup?_internals (settings : Settings) :
    Value.lookup? "internals_visible_to" settings.toEntries =
      if settings.internalsVisibleTo.isNull then none else some settings.internalsVisibleTo :=
  Entries.lookup?_ofNamed settings.nodup_named (List.mem_append_right _ List.mem_cons_self)

theorem internals_toEntries (settled : settings.IsSettled) :
    (Settings.settled settings.toEntries).internalsVisibleTo = settings.internalsVisibleTo := by
  unfold Settings.settled
  dsimp only
  rw [lookup?_internals]
  rcases settled.internals with none | ⟨texts, listed⟩
  · rw [none]
    rfl
  · rw [listed]
    change Value.list ((Value.list (texts.map .text)).texts.map .text) = _
    rw [Value.texts_list_text]

section Listed

variable {α : Type} {write : α → Entries} {entries : Entries} {name : String} {listed : Option (List (Option α))}

theorem mappingsOf_ofListed {items : List α} (here : entries.valueOf name = .ofListed write (some (items.map some))) :
    entries.mappingsOf name = some (items.map write) := by
  rw [Entries.mappingsOf, here]
  change some (((items.map some).map fun item? =>
    (item?.map fun item => Value.map (write item)).getD .null).filterMap Value.entries?) = _
  rw [List.map_map, List.filterMap_map]
  exact congrArg some (congrFun (List.filterMap_eq_map (f := write)) items)

/-- What a list of mappings was written from is read from it again. -/
theorem listed_toEntries {read : Entries → α} (here : entries.valueOf name = .ofListed write listed)
    (again : IsWhole (fun item => read (write item) = item) listed) :
    (entries.mappingsOf name).map (fun mappings => mappings.map fun mapping => some (read mapping)) = listed := by
  rcases again with rfl | ⟨items, rfl, each⟩
  · rw [Entries.mappingsOf, here]
    rfl
  · rw [mappingsOf_ofListed here, Option.map_some, List.map_map]
    exact congrArg some (List.map_congr_left fun item member => congrArg some (each item member))

theorem short_of_ofListed {names : List String} (here : entries.valueOf name = .ofListed write listed)
    (whole : IsWhole (fun _ => True) listed)
    (short : ∀ item, ∀ key ∈ names, ((write item).valueOf key).isLong = false) :
    ∀ value ∈ entries.wantedOf name names, value.isLong = false := by
  intro value wanted
  rw [Entries.wantedOf, List.mem_flatMap] at wanted
  obtain ⟨mapping, member, within⟩ := wanted
  obtain ⟨key, asked, rfl⟩ := List.mem_map.1 within
  rcases whole with rfl | ⟨items, rfl, -⟩
  · rw [Entries.mappingsOf, here] at member
    cases member
  · rw [mappingsOf_ofListed here] at member
    obtain ⟨item, -, rfl⟩ := List.mem_map.1 member
    exact short item key asked

end Listed

theorem valueOf_internals (settings : Settings) :
    settings.toEntries.valueOf "internals_visible_to" = settings.internalsVisibleTo.now :=
  valueOf_toEntries (List.mem_append_right _ List.mem_cons_self)

theorem valueOf_customs (settings : Settings) : settings.toEntries.valueOf "custom_attributes" =
    .ofListed CustomAttribute.toEntries settings.customAttributes := by
  rw [valueOf_toEntries (List.mem_append_right _ (List.mem_cons_of_mem _ List.mem_cons_self)), Value.now_ofListed]

theorem valueOf_metadata (settings : Settings) : settings.toEntries.valueOf "metadata_attributes" =
    .ofListed MetadataAttribute.toEntries settings.metadataAttributes := by
  rw [valueOf_toEntries (List.mem_append_right _ (List.mem_cons_of_mem _ (List.mem_cons_of_mem _ List.mem_cons_self))),
    Value.now_ofListed]

theorem customs_toEntries (settled : settings.IsSettled) :
    (Settings.settled settings.toEntries).customAttributes = settings.customAttributes :=
  listed_toEntries settings.valueOf_customs (settled.customs.imp fun _ => CustomAttribute.ofEntries_toEntries)

theorem metadata_toEntries (settled : settings.IsSettled) :
    (Settings.settled settings.toEntries).metadataAttributes = settings.metadataAttributes :=
  listed_toEntries settings.valueOf_metadata (settled.metadata.imp fun entry _ => entry.ofEntries_toEntries)

/-- Wherever a text is wanted again, there is one, or null. -/
theorem short_toEntries (settled : settings.IsSettled) :
    ∀ value ∈ settings.toEntries.wanted, value.isLong = false := by
  intro value wanted
  simp only [Entries.wanted, List.mem_append] at wanted
  rcases wanted with ((ofField | internal) | custom) | metadata
  · obtain ⟨field, plain, rfl⟩ := List.mem_map.1 ofField
    obtain ⟨text?, same⟩ := settled.texts field (by simpa using (List.mem_filter.1 plain).2)
    rw [valueOf_field, same, Value.now_ofText?]
    exact Value.isLong_ofText? text?
  · rw [valueOf_internals] at internal
    rcases settled.internals with none | ⟨texts, listed⟩
    · rw [none] at internal
      cases internal
    · rw [listed] at internal
      obtain ⟨text, -, rfl⟩ := List.mem_map.1 internal
      rfl
  · refine short_of_ofListed settings.valueOf_customs (settled.customs.imp fun _ _ => trivial) ?_ value custom
    simp [CustomAttribute.toEntries, Entries.valueOf, Entries.lookup?_cons_text, Value.now_ofText?, Value.isLong_ofText?]
  · refine short_of_ofListed settings.valueOf_metadata settled.metadata ?_ value metadata
    simp [MetadataAttribute.toEntries, Entries.valueOf, Entries.lookup?_cons_text, Value.now_ofText?, Value.isLong_ofText?]

theorem settled_toEntries (settled : settings.IsSettled) : Settings.settled settings.toEntries = settings := by
  have values : (Settings.settled settings.toEntries).value = settings.value := funext (fieldOf_toEntries settled)
  have internals := internals_toEntries settled
  have customs := customs_toEntries settled
  have metadata := metadata_toEntries settled
  generalize Settings.settled settings.toEntries = again at values internals customs metadata
  obtain ⟨_, _, _, _⟩ := again
  obtain ⟨_, _, _, _⟩ := settings
  cases values
  cases internals
  cases customs
  cases metadata
  rfl

end Again

theorem ofEntries_toEntries {settings : Settings} (settled : settings.IsSettled) :
    ofEntries settings.toEntries = .ok settings := by
  rw [ofEntries_of_short (short_toEntries settled), settled_toEntries settled]

/-- Reading gives exactly the settings that are settled. -/
theorem isSettled_iff {settings : Settings} : settings.IsSettled ↔ ∃ entries, ofEntries entries = .ok settings := by
  constructor
  · intro settled
    exact ⟨settings.toEntries, ofEntries_toEntries settled⟩
  · rintro ⟨entries, given⟩
    rw [(ofEntries_eq_ok given).2]
    exact isSettled_settled entries

/-! ### The order of attributes -/

/-- `ReadsInOrder read value listed` says that `listed` is what `read` makes of the mappings in the list `value`,
each at its place among them. There is no list if `value` is none. -/
structure ReadsInOrder {α : Type} (read : Entries → α) (value : Value) (listed : Option (List (Option α))) : Prop where
  noList : value.items? = none → listed = none
  list : ∀ items, value.items? = some items →
    ∃ results, listed = some results ∧ results.length = items.countP Value.isMapping ∧
      ∀ before item after mapping, items = before ++ item :: after → item.entries? = some mapping →
        results[before.countP Value.isMapping]? = some (some (read mapping))

theorem readsInOrder_mappingsOf {α : Type} (read : Entries → α) (entries : Entries) (name : String) :
    ReadsInOrder read (entries.valueOf name)
      ((entries.mappingsOf name).map fun mappings => mappings.map fun mapping => some (read mapping)) where
  noList := by
    intro none
    rw [Entries.mappingsOf, none]
    rfl
  list := by
    intro items list
    rw [Entries.mappingsOf, list, Option.map_some, Option.map_some]
    refine ⟨_, rfl, ?_, ?_⟩
    · rw [List.length_map, List.length_filterMap_eq_countP]
      rfl
    · rintro before item after mapping rfl here
      have place : (before.filterMap Value.entries?).length = before.countP Value.isMapping :=
        List.length_filterMap_eq_countP
      rw [List.filterMap_append, List.filterMap_cons_some here, ← place, List.getElem?_map,
        List.getElem?_append_right (Nat.le_refl _), Nat.sub_self, List.getElem?_cons_zero]
      rfl

/-- A mapping gives settings exactly if no integer that is wanted as a text is too long to be written. Its
settings are read again from the mapping that lists them, and the attributes in them are the mappings in the
lists, in their order. -/
theorem ofEntries_settles (entries : Entries) :
    ((∃ settings, ofEntries entries = .ok settings) ↔ ∀ value ∈ entries.wanted, value.isLong = false) ∧
    (∀ fault, ofEntries entries = .error fault → fault = .longInteger) ∧
    ∀ settings, ofEntries entries = .ok settings →
      ofEntries settings.toEntries = .ok settings ∧
      ReadsInOrder CustomAttribute.ofEntries (entries.valueOf "custom_attributes") settings.customAttributes ∧
      ReadsInOrder MetadataAttribute.ofEntries (entries.valueOf "metadata_attributes")
        settings.metadataAttributes := by
  refine ⟨⟨?_, fun short => ⟨_, ofEntries_of_short short⟩⟩, fun fault failed => ?_, fun settings given => ?_⟩
  · rintro ⟨settings, given⟩
    exact (ofEntries_eq_ok given).1
  · rw [ofEntries_eq, unlessLong] at failed
    split at failed
    · exact (Except.error.inj failed).symm
    · cases failed
  · have again := ofEntries_toEntries (isSettled_iff.2 ⟨entries, given⟩)
    obtain ⟨-, rfl⟩ := ofEntries_eq_ok given
    exact ⟨again, readsInOrder_mappingsOf _ entries _, readsInOrder_mappingsOf _ entries _⟩

/-- An integer of 4302 digits is no title. -/
theorem ofEntries_longTitle :
    ofEntries [(.text "title", .int (.ofNat (Nat.pow 16 3572)))] = .error .longInteger := by
  have long : Decimal.isLong (Int.ofNat (Nat.pow 16 3572)).natAbs = true := by decide +kernel
  rw [ofEntries_eq, unlessLong, if_pos]
  refine List.any_eq_true.2 ⟨.int (.ofNat (Nat.pow 16 3572)), ?_, long⟩
  simp only [Entries.wanted, List.append_assoc]
  exact List.mem_append_left _ (List.mem_map.2 ⟨.title, by decide, rfl⟩)

end Settings

end AssemblyInfo
