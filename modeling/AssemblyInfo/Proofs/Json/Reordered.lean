import AssemblyInfo.Proofs.Json.Copy
import AssemblyInfo.Proofs.Json.Fragment
import Mathlib.Data.List.Perm.Basic

/-!
# Values enumerated anew

A value in which sets are enumerated in another order, at whatever depth and in the items of sets as well. The
order of enumeration has no say in whether a value can be written, copied or shown.
-/

namespace AssemblyInfo

/-! ### Whether there is a result -/

theorem isOk_map {α β : Type} (outcome : Except Fault α) (f : α → β) : (outcome.map f).isOk = outcome.isOk := by
  cases outcome <;> rfl

theorem isOk_iff {α : Type} {outcome : Except Fault α} :
    outcome.isOk = true ↔ ∃ result, outcome = .ok result := by
  cases outcome with
  | error fault => exact ⟨nofun, nofun⟩
  | ok result => exact ⟨fun _ => ⟨result, rfl⟩, fun _ => rfl⟩

theorem isOk_inOrder {α : Type} (outcomes : List (Except Fault α)) :
    (inOrder outcomes).isOk = outcomes.all Except.isOk := by
  induction outcomes with
  | nil => rfl
  | cons outcome rest ih =>
    cases outcome with
    | error fault => rfl
    | ok result =>
      rw [inOrder, isOk_map, ih]
      rfl

theorem all_map_congr {α β : Type} {p : β → Bool} {f g : α → β} {items : List α}
    (alike : ∀ item ∈ items, p (f item) = p (g item)) : (items.map f).all p = (items.map g).all p := by
  rw [List.all_map, List.all_map, Bool.eq_iff_iff, List.all_eq_true, List.all_eq_true]
  exact forall₂_congr fun item member => by rw [Function.comp_apply, Function.comp_apply, alike item member]

namespace Value

theorem isOk_itemsAsDict (items : List Value) :
    (itemsAsDict items).isOk = items.all fun item => item.asDict.isOk := by
  induction items with
  | nil => rfl
  | cons item rest ih =>
    rw [itemsAsDict, List.all_cons, ← ih]
    cases item.asDict with
    | error fault => rfl
    | ok copy => cases itemsAsDict rest <;> rfl

theorem isOk_entriesAsDict (entries : List (Value × Value)) : (entriesAsDict entries).isOk =
    entries.all fun entry => (entry.1.asDict.bind asKey).isOk && entry.2.asDict.isOk := by
  induction entries with
  | nil => rfl
  | cons entry rest ih =>
    obtain ⟨key, value⟩ := entry
    rw [entriesAsDict, List.all_cons, ← ih]
    cases key.asDict with
    | error fault => rfl
    | ok name =>
      cases value.asDict with
      | error fault =>
        change false = (name.asKey.isOk && false && _)
        rw [Bool.and_false, Bool.false_and]
      | ok copy =>
        change (name.asKey >>= fun _ => _).isOk = (name.asKey.isOk && true && _)
        cases name.asKey with
        | error fault => rfl
        | ok filed => cases entriesAsDict rest <;> rfl

theorem isOk_fieldsAsDict (fields : List (String × Except Fault Value)) :
    (fieldsAsDict fields).isOk = fields.all fun field => (field.2.bind asDict).isOk := by
  induction fields with
  | nil => rfl
  | cons field rest ih =>
    obtain ⟨name, held⟩ := field
    cases held with
    | error fault => rfl
    | ok value =>
      rw [fieldsAsDict, List.all_cons, ← ih]
      change _ = (value.asDict.isOk && _)
      cases value.asDict with
      | error fault => rfl
      | ok copy => cases fieldsAsDict rest <;> rfl

/-! ### Reordering -/

/-- `value.Reordered other` says that `other` is `value`, but for the order in which sets are enumerated. -/
inductive Reordered : Value → Value → Prop
  | same (value : Value) : Reordered value value
  | set {frozen : Bool} {pairs others : List (Value × Value)} (each : ∀ pair ∈ pairs, Reordered pair.1 pair.2)
      (perm : pairs.Perm others) : Reordered (.set frozen (pairs.map Prod.fst)) (.set frozen (others.map Prod.snd))
  | list {pairs : List (Value × Value)} (each : ∀ pair ∈ pairs, Reordered pair.1 pair.2) :
      Reordered (.list (pairs.map Prod.fst)) (.list (pairs.map Prod.snd))
  | tuple {pairs : List (Value × Value)} (each : ∀ pair ∈ pairs, Reordered pair.1 pair.2) :
      Reordered (.tuple (pairs.map Prod.fst)) (.tuple (pairs.map Prod.snd))
  | map {entries : List (Value × Value × Value)} (each : ∀ entry ∈ entries, Reordered entry.2.1 entry.2.2) :
      Reordered (.map (entries.map fun entry => (entry.1, entry.2.1)))
        (.map (entries.map fun entry => (entry.1, entry.2.2)))
  | record {fields : List (String × Value × Value)} (each : ∀ field ∈ fields, Reordered field.2.1 field.2.2) :
      Reordered (.record (fields.map fun field => (field.1, field.2.1)))
        (.record (fields.map fun field => (field.1, field.2.2)))
  | dataclass {kind : String} {shownAs : List (List Char) → List Char}
      {fields : List (String × Except Fault (Value × Value))}
      (each : ∀ field ∈ fields, ∀ pair, field.2 = .ok pair → Reordered pair.1 pair.2) :
      Reordered (.dataclass kind shownAs (fields.map fun field => (field.1, field.2.map Prod.fst)))
        (.dataclass kind shownAs (fields.map fun field => (field.1, field.2.map Prod.snd)))
  | later {part other : Unit → Value} (inner : Reordered (part ()) (other ())) :
      Reordered (.later part) (.later other)

/-! ### What the order has no say in -/

theorem Reordered.isWritable_eq {value other : Value} (reordered : Reordered value other) :
    other.isWritable = value.isWritable := by
  induction reordered with
  | same value => rfl
  | @set frozen pairs others each perm ih =>
    rw [isWritable, isWritable, areWritable_eq_all, areWritable_eq_all, ← (perm.map Prod.snd).all_eq]
    exact all_map_congr ih
  | list each ih | tuple each ih =>
    rw [isWritable, isWritable, areWritable_eq_all, areWritable_eq_all]
    exact all_map_congr ih
  | map each ih =>
    rw [isWritable, isWritable, areWritableEntries_eq_all, areWritableEntries_eq_all]
    exact all_map_congr fun entry member => by rw [ih entry member]
  | record each ih =>
    rw [isWritable, isWritable, areWritableFields_eq_all, areWritableFields_eq_all]
    exact all_map_congr ih
  | dataclass each ih => rfl
  | later inner ih => exact ih

theorem Reordered.isOk_asDict {value other : Value} (reordered : Reordered value other) :
    other.asDict.isOk = value.asDict.isOk := by
  induction reordered with
  | same value => rfl
  | set each perm ih => rfl
  | list each ih | tuple each ih =>
    rw [asDict, asDict, isOk_map, isOk_map, isOk_itemsAsDict, isOk_itemsAsDict]
    exact all_map_congr ih
  | map each ih =>
    rw [asDict, asDict, isOk_map, isOk_map, isOk_entriesAsDict, isOk_entriesAsDict]
    exact all_map_congr fun entry member => by rw [ih entry member]
  | record each ih => rfl
  | @dataclass kind shownAs fields each ih =>
    rw [asDict, asDict, isOk_map, isOk_map, isOk_fieldsAsDict, isOk_fieldsAsDict]
    refine all_map_congr fun field member => ?_
    cases held : field.2 with
    | error fault => rfl
    | ok pair => exact ih field member pair held
  | later inner ih => exact ih

theorem isOk_fragment_list (items : List Value) :
    (list items).fragment.isOk = items.all fun item => item.fragment.isOk := by
  rw [fragment_list, isOk_map, isOk_inOrder, List.all_map]
  rfl

theorem isOk_fragment_set (frozen : Bool) (items : List Value) :
    (set frozen items).fragment.isOk = (areWritable items && items.all fun item => item.fragment.isOk) := by
  rw [fragment_set]
  split
  · rename_i writable
    rw [isOk_map, isOk_inOrder, (sortedByText_perm _).all_eq, writable, Bool.true_and, List.map_map, List.all_map]
    rfl
  · rename_i unwritable
    rw [Bool.eq_false_iff.2 unwritable, Bool.false_and]
    rfl

theorem isOk_fragment_map (entries : List (Value × Value)) : (map entries).fragment.isOk =
    entries.all fun entry => (Json.keyText entry.1).isOk && entry.2.fragment.isOk := by
  rw [fragment_map, isOk_map, isOk_inOrder, List.all_map]
  congr 1
  funext entry
  rw [Function.comp_apply]
  cases Json.keyText entry.1 with
  | error fault => rfl
  | ok name => exact isOk_map entry.2.fragment _

theorem isOk_fragment_record (fields : List (String × Value)) :
    (record fields).fragment.isOk = fields.all fun field => field.2.fragment.isOk := by
  rw [fragment_record, isOk_map, isOk_inOrder, List.all_map]
  congr 1
  funext field
  exact isOk_map field.2.fragment _

theorem isOk_fragment_dataclass (kind : String) (shownAs : List (List Char) → List Char)
    (fields : List (String × Except Fault Value)) : (dataclass kind shownAs fields).fragment.isOk =
      ((fieldsAsDict fields).isOk && fields.all fun field => (field.2.bind fragment).isOk) := by
  rw [fragment_dataclass]
  cases fieldsAsDict fields with
  | error fault => rfl
  | ok copies =>
    change ((inOrder _).map Json.objectText).isOk = (true && _)
    rw [isOk_map, isOk_inOrder, List.all_map, Bool.true_and]
    congr 1
    funext field
    rw [Function.comp_apply]
    cases field.2 with
    | error fault => rfl
    | ok value => exact isOk_map value.fragment _

theorem Reordered.isOk_fragment {value other : Value} (reordered : Reordered value other) :
    other.fragment.isOk = value.fragment.isOk := by
  induction reordered with
  | same value => rfl
  | @set frozen pairs others each perm ih =>
    have whole : Reordered (.set frozen (pairs.map Prod.fst)) (.set frozen (others.map Prod.snd)) := .set each perm
    have writable : areWritable (others.map Prod.snd) = areWritable (pairs.map Prod.fst) := whole.isWritable_eq
    rw [isOk_fragment_set, isOk_fragment_set, writable, ← (perm.map Prod.snd).all_eq]
    exact congrArg _ (all_map_congr ih)
  | list each ih =>
    rw [isOk_fragment_list, isOk_fragment_list]
    exact all_map_congr ih
  | tuple each ih =>
    rw [fragment_tuple, fragment_tuple, isOk_fragment_list, isOk_fragment_list]
    exact all_map_congr ih
  | map each ih =>
    rw [isOk_fragment_map, isOk_fragment_map]
    exact all_map_congr fun entry member => by rw [ih entry member]
  | record each ih =>
    rw [isOk_fragment_record, isOk_fragment_record]
    exact all_map_congr ih
  | @dataclass kind shownAs fields each ih =>
    have whole : Reordered (.dataclass kind shownAs (fields.map fun field => (field.1, field.2.map Prod.fst)))
        (.dataclass kind shownAs (fields.map fun field => (field.1, field.2.map Prod.snd))) := .dataclass each
    have copied := whole.isOk_asDict
    rw [asDict, asDict, isOk_map, isOk_map] at copied
    rw [isOk_fragment_dataclass, isOk_fragment_dataclass, copied]
    congr 1
    refine all_map_congr fun field member => ?_
    cases held : field.2 with
    | error fault => rfl
    | ok pair => exact ih field member pair held
  | later inner ih => exact ih

theorem Reordered.exists_ok {value other : Value} {text : List Char} (reordered : Reordered value other)
    (written : value.fragment = .ok text) : ∃ content, other.fragment = .ok content := by
  rw [← isOk_iff, reordered.isOk_fragment, written]
  rfl

/-! ### One place -/

section Place

variable {item other : Value}

theorem Reordered.items_at (reordered : Reordered item other) (before after : List Value) :
    ∀ pair ∈ before.map (fun value => (value, value)) ++ (item, other) :: after.map (fun value => (value, value)),
      Reordered pair.1 pair.2 := by
  simp only [List.forall_mem_append, List.forall_mem_cons, List.forall_mem_map]
  exact ⟨fun value _ => .same value, reordered, fun value _ => .same value⟩

theorem Reordered.members_at {α : Type} (reordered : Reordered item other) (key : α) (before after : List (α × Value)) :
    ∀ member ∈ before.map (fun member => (member.1, member.2, member.2)) ++
      (key, item, other) :: after.map (fun member => (member.1, member.2, member.2)),
      Reordered member.2.1 member.2.2 := by
  simp only [List.forall_mem_append, List.forall_mem_cons, List.forall_mem_map]
  exact ⟨fun member _ => .same member.2, reordered, fun member _ => .same member.2⟩

theorem Reordered.list_at (reordered : Reordered item other) (before after : List Value) :
    Reordered (.list (before ++ item :: after)) (.list (before ++ other :: after)) := by
  simpa [Function.comp_def] using Reordered.list (reordered.items_at before after)

theorem Reordered.tuple_at (reordered : Reordered item other) (before after : List Value) :
    Reordered (.tuple (before ++ item :: after)) (.tuple (before ++ other :: after)) := by
  simpa [Function.comp_def] using Reordered.tuple (reordered.items_at before after)

theorem Reordered.set_at (reordered : Reordered item other) (frozen : Bool) (before after : List Value) :
    Reordered (.set frozen (before ++ item :: after)) (.set frozen (before ++ other :: after)) := by
  simpa [Function.comp_def] using
    @Reordered.set frozen _ _ (reordered.items_at before after) (.refl _)

theorem Reordered.map_at (reordered : Reordered item other) (key : Value) (before after : List (Value × Value)) :
    Reordered (.map (before ++ (key, item) :: after)) (.map (before ++ (key, other) :: after)) := by
  simpa [Function.comp_def] using Reordered.map (reordered.members_at key before after)

theorem Reordered.record_at (reordered : Reordered item other) (name : String) (before after : List (String × Value)) :
    Reordered (.record (before ++ (name, item) :: after)) (.record (before ++ (name, other) :: after)) := by
  simpa [Function.comp_def] using Reordered.record (reordered.members_at name before after)

theorem Reordered.dataclass_at (reordered : Reordered item other) (kind : String)
    (shownAs : List (List Char) → List Char) (name : String) (before after : List (String × Except Fault Value)) :
    Reordered (.dataclass kind shownAs (before ++ (name, .ok item) :: after))
      (.dataclass kind shownAs (before ++ (name, .ok other) :: after)) := by
  have kept (fields : List (String × Except Fault Value)) :
      ∀ field ∈ fields.map (fun field => (field.1, field.2.map fun value => (value, value))),
        ∀ pair, field.2 = .ok pair → Reordered pair.1 pair.2 := by
    rw [List.forall_mem_map]
    intro field _ pair held
    obtain ⟨value, -, rfl⟩ := map_eq_ok.1 held
    exact .same value
  have each : ∀ field ∈ before.map (fun field => (field.1, field.2.map fun value => (value, value))) ++
      (name, .ok (item, other)) :: after.map (fun field => (field.1, field.2.map fun value => (value, value))),
      ∀ pair, field.2 = .ok pair → Reordered pair.1 pair.2 := by
    rw [List.forall_mem_append, List.forall_mem_cons]
    refine ⟨kept before, fun pair held => ?_, kept after⟩
    rw [← Except.ok.inj held]
    exact reordered
  have sides (held : Except Fault Value) :
      (held.map fun value => (value, value)).map Prod.fst = held ∧
        (held.map fun value => (value, value)).map Prod.snd = held := by
    cases held <;> exact ⟨rfl, rfl⟩
  have changed (f : Value × Value → Value) : (Except.ok (item, other) : Except Fault _).map f = .ok (f (item, other)) :=
    rfl
  simpa [Function.comp_def, sides, changed] using @Reordered.dataclass kind shownAs _ each

end Place

/-- What is enumerated anew can be paired with what it was, in whatever order that is listed. -/
theorem exists_map_of_perm {α β : Type} {f : α → β} {items : List β} {others : List α}
    (perm : items.Perm (others.map f)) : ∃ pairs : List α, pairs.map f = items ∧ pairs.Perm others := by
  have same : List.Forall₂ (fun item other => item = f other) (others.map f) others :=
    List.forall₂_map_left_iff.2 (List.forall₂_same.2 fun _ _ => rfl)
  obtain ⟨pairs, same, perm⟩ := List.perm_comp_forall₂ perm same
  refine ⟨pairs, ?_, perm⟩
  rw [← List.forall₂_eq_eq_eq, List.forall₂_map_left_iff]
  exact same.flip.imp fun _ _ => Eq.symm

/-- A set may be listed in any order before and after its items are enumerated anew. -/
theorem Reordered.of_perm {frozen : Bool} {items others : List Value} {pairs : List (Value × Value)}
    (each : ∀ pair ∈ pairs, Reordered pair.1 pair.2) (perm : items.Perm (pairs.map Prod.fst))
    (permThen : others.Perm (pairs.map Prod.snd)) : Reordered (.set frozen items) (.set frozen others) := by
  obtain ⟨before, rfl, order⟩ := exists_map_of_perm perm
  obtain ⟨after, rfl, orderThen⟩ := exists_map_of_perm permThen
  exact .set (fun pair member => each pair (order.mem_iff.1 member)) (order.trans orderThen.symm)

/-- Two items are enumerated anew and come first; the others stay as they are. -/
theorem Reordered.front {frozen : Bool} {items rest : List Value} {first second a b : Value}
    (order : items.Perm (first :: second :: rest)) (toA : Reordered first a) (toB : Reordered second b) :
    Reordered (.set frozen items) (.set frozen (a :: b :: rest)) := by
  have kept : ∀ pair ∈ (first, a) :: (second, b) :: rest.map fun value => (value, value),
      Reordered pair.1 pair.2 := by
    simp only [List.forall_mem_cons, List.forall_mem_map]
    exact ⟨toA, toB, fun value _ => .same value⟩
  refine .of_perm kept ?_ ?_
  · simpa [Function.comp_def] using order
  · simp [Function.comp_def]

theorem Reordered.perm {items others : List Value} (frozen : Bool) (order : items.Perm others) :
    Reordered (.set frozen items) (.set frozen others) := by
  have kept : ∀ pair ∈ items.map fun value => (value, value), Reordered pair.1 pair.2 := by
    rw [List.forall_mem_map]
    exact fun value _ => .same value
  refine .of_perm kept ?_ ?_
  · simp [Function.comp_def]
  · simpa [Function.comp_def] using order.symm

end Value

end AssemblyInfo
