import AssemblyInfo.Proofs.Outcome
import AssemblyInfo.Proofs.Value.Now
import AssemblyInfo.Settings.OfValue

/-!
# What is wanted of a mapping

The settings of a mapping are read piece by piece, and the only thing in the way is an integer that is too
long to be written. So the settings can be told at once, and apart from them the values in the mapping whose
texts are wanted.
-/

namespace AssemblyInfo

/-! ### The settings -/

/-- `value.texts` is the texts of the scalars in a sequence, or of a text. -/
def Value.texts (value : Value) : List String :=
  value.sequence.filterMap scalarText?

namespace Entries

def textOf (entries : Entries) (name : String) : Option String :=
  (entries.valueOf name).scalarText?

def fieldOf (entries : Entries) (field : Field) : Value :=
  if field.isFlag then .ofFlag? (entries.valueOf field.key).flag?
  else .ofText? (entries.textOf field.key)

/-- `entries.textOr name other` is the text of the scalar under `name`, and `other` if there is no
entry. -/
def textOr (entries : Entries) (name : String) (other : Option String) : Option String :=
  (Value.lookup? name entries).elim other Value.scalarText?

end Entries

/-- `CustomAttribute.ofEntries entries` is the custom attribute in a mapping. -/
def CustomAttribute.ofEntries (entries : Entries) : CustomAttribute where
  name := entries.textOf "name"
  nameSpace := entries.textOf "namespace"
  value := entries.valueOf "value"

/-- `MetadataAttribute.ofEntries entries` is the metadata attribute in a mapping. -/
def MetadataAttribute.ofEntries (entries : Entries) : MetadataAttribute where
  name := entries.textOr "name" ({} : MetadataAttribute).name
  nameSpace := entries.textOr "namespace" ({} : MetadataAttribute).nameSpace
  key := entries.textOf "key"
  value := entries.textOf "value"

/-- `Settings.settled entries` is the settings that a mapping stands for, however long its integers are. -/
def Settings.settled (entries : Entries) : Settings where
  value := entries.fieldOf
  internalsVisibleTo :=
    (Value.lookup? "internals_visible_to" entries).elim .null fun value => .list (value.texts.map .text)
  customAttributes :=
    (entries.mappingsOf "custom_attributes").map fun mappings =>
      mappings.map fun mapping => some (CustomAttribute.ofEntries mapping)
  metadataAttributes :=
    (entries.mappingsOf "metadata_attributes").map fun mappings =>
      mappings.map fun mapping => some (MetadataAttribute.ofEntries mapping)

/-! ### The values -/

namespace Entries

def wantedOf (entries : Entries) (name : String) (names : List String) : List Value :=
  ((entries.mappingsOf name).getD []).flatMap fun mapping => names.map mapping.valueOf

/-- `entries.wanted` are the values whose texts are wanted. -/
def wanted (entries : Entries) : List Value :=
  (Field.all.filter fun field => !field.isFlag).map (fun field => entries.valueOf field.key) ++
    (entries.valueOf "internals_visible_to").sequence ++
    entries.wantedOf "custom_attributes" ["name", "namespace"] ++
    entries.wantedOf "metadata_attributes" ["key", "value", "name", "namespace"]

end Entries

/-! ### Reading -/

/-- `unlessLong wanted result` is `result`, unless one of the integers in `wanted` is too long to be written. -/
def unlessLong {α : Type} (wanted : List Value) (result : α) : Except Fault α :=
  if wanted.any Value.isLong then .error .longInteger else .ok result

section Reading

variable {α β : Type} {entries : Entries} {name : String}

theorem unlessLong_bind (first second : List Value) (value : α) (next : α → β) :
    (unlessLong first value >>= fun value => unlessLong second (next value)) =
      unlessLong (first ++ second) (next value) := by
  unfold unlessLong
  rw [List.any_append]
  cases first.any Value.isLong <;> rfl

theorem unlessLong_map (wanted : List Value) (value : α) (f : α → β) :
    f <$> unlessLong wanted value = unlessLong wanted (f value) := by
  unfold unlessLong
  cases wanted.any Value.isLong <;> rfl

theorem pure_eq_unlessLong (value : α) : (pure value : Except Fault α) = unlessLong [] value := rfl

theorem mapM_unlessLong {read : β → Except Fault α} {wanted : β → List Value} {result : β → α} (items : List β)
    (each : ∀ item, read item = unlessLong (wanted item) (result item)) :
    items.mapM read = unlessLong (items.flatMap wanted) (items.map result) := by
  induction items with
  | nil => rfl
  | cons item rest ih =>
    rw [List.mapM_cons, each, ih]
    simp only [pure_eq_unlessLong, unlessLong_bind, List.append_nil]
    rfl

theorem Value.isLong_now (value : Value) : value.now.isLong = value.isLong := by
  match value with
  | .later part => exact isLong_now (part ())
  | .null | .bool _ | .int _ | .float _ | .notANumber _ | .text _ | .bytes _ | .date _ | .moment _
  | .list _ | .tuple _ | .set .. | .map _ | .record _ | .dataclass .. | .again _ => rfl

theorem Value.readText_eq (value : Value) : value.readText = unlessLong [value] value.scalarText? := by
  simp [readText, unlessLong]

namespace Entries

theorem readField_eq (field : Field) :
    entries.readField field =
      unlessLong (if field.isFlag then [] else [entries.valueOf field.key]) (entries.fieldOf field) := by
  unfold readField fieldOf textOf
  cases field.isFlag with
  | true => rfl
  | false =>
    simp only [Bool.false_eq_true, if_false, Value.readText_eq, pure_eq_unlessLong, unlessLong_bind, List.append_nil]

theorem foldlM_readField (fields : List Field) (start : Settings) :
    fields.foldlM (fun settings field => Settings.set settings field <$> entries.readField field) start =
      unlessLong (fields.flatMap fun field => if field.isFlag then [] else [entries.valueOf field.key])
        { start with value := fun field => if field ∈ fields then entries.fieldOf field else start.value field } := by
  induction fields generalizing start with
  | nil => rfl
  | cons field rest ih =>
    rw [List.foldlM_cons, readField_eq, unlessLong_map]
    simp only [ih, unlessLong_bind]
    congr 2
    funext other
    unfold Settings.set
    by_cases same : other = field
    · subst same
      simp
    · simp [same]

theorem readTexts_eq (entries : Entries) (name : String) :
    entries.readTexts name = unlessLong (entries.valueOf name).sequence
      ((Value.lookup? name entries).elim .null fun value => .list (value.texts.map .text)) := by
  unfold readTexts valueOf
  cases Value.lookup? name entries with
  | none => rfl
  | some value =>
    have sequence : value.now.sequence = value.sequence := by
      unfold Value.sequence
      rw [Value.now_now]
    have texts := mapM_unlessLong value.sequence Value.readText_eq
    rw [List.flatMap_singleton'] at texts
    rw [Option.getD_some, sequence]
    simp only [texts, pure_eq_unlessLong, unlessLong_bind, List.append_nil, Option.elim_some, Value.texts]
    rw [List.filterMap_map]
    rfl

theorem readEach_eq {read : Entries → Except Fault α} {names : List String} {result : Entries → α} (name : String)
    (each : ∀ mapping : Entries, read mapping = unlessLong (names.map mapping.valueOf) (result mapping)) :
    entries.readEach name read = unlessLong (entries.wantedOf name names)
      ((entries.mappingsOf name).map fun mappings => mappings.map fun mapping => some (result mapping)) := by
  unfold readEach wantedOf
  cases entries.mappingsOf name with
  | none => rfl
  | some mappings =>
    simp only [mapM_unlessLong mappings each, pure_eq_unlessLong, unlessLong_bind, List.append_nil]
    rw [List.map_map]
    rfl

theorem readTextOr_eq (entries : Entries) (name : String) (other : Option String) :
    entries.readTextOr name other = unlessLong [entries.valueOf name] (entries.textOr name other) := by
  unfold readTextOr valueOf textOr
  cases Value.lookup? name entries with
  | none => rfl
  | some value =>
    rw [Option.getD_some, unlessLong, List.any_cons, Value.isLong_now]
    exact value.readText_eq

end Entries

theorem CustomAttribute.read_eq (entries : Entries) :
    read entries = unlessLong (["name", "namespace"].map entries.valueOf) (ofEntries entries) := by
  unfold read
  simp only [Value.readText_eq, pure_eq_unlessLong, unlessLong_bind]
  rfl

theorem MetadataAttribute.read_eq (entries : Entries) :
    read entries =
      unlessLong (["key", "value", "name", "namespace"].map entries.valueOf) (ofEntries entries) := by
  unfold read
  simp only [Value.readText_eq, entries.readTextOr_eq, pure_eq_unlessLong, unlessLong_bind]
  rfl

end Reading

namespace Settings

theorem readFields_eq (entries : Entries) :
    readFields entries =
      unlessLong ((Field.all.filter fun field => !field.isFlag).map fun field => entries.valueOf field.key)
        { value := entries.fieldOf } := by
  unfold readFields
  rw [Entries.foldlM_readField]
  have all : (fun field => if field ∈ Field.all then entries.fieldOf field else Value.null) = entries.fieldOf := by
    funext field
    exact if_pos field.mem_all
  rw [all]
  rfl

/-- The settings of a mapping are read, unless one of the integers whose texts are wanted is too long. -/
theorem ofEntries_eq (entries : Entries) : ofEntries entries = unlessLong entries.wanted (settled entries) := by
  unfold ofEntries
  simp only [readFields_eq, entries.readTexts_eq, Entries.readEach_eq _ CustomAttribute.read_eq,
    Entries.readEach_eq _ MetadataAttribute.read_eq, pure_eq_unlessLong, unlessLong_bind]
  rw [Entries.wanted, List.append_nil, List.append_assoc, List.append_assoc]
  rfl

end Settings

end AssemblyInfo
