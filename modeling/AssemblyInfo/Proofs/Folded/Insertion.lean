import AssemblyInfo.Proofs.Folded.Entries
import AssemblyInfo.Proofs.Folded.Items

/-!
# Insertions one after the other

What folded tables and sets hold after a list of insertions. A set keeps the first item of each
spelling class, in order. A table into which names of different classes are put holds them in order.
-/

namespace AssemblyInfo.Folded
open Text Spelling

/-! ### Tables -/

section Table

variable {ν α : Type} [DecidableEq ν] [Spelling ν]

/-- `insertPairs entries pairs` puts `pairs` into `entries` one after the other. -/
def insertPairs (entries pairs : List (ν × α)) : List (ν × α) :=
  pairs.foldl (fun present pair => insertEntry pair.1 pair.2 present) entries

/-- Names that are all of different classes stay in order. -/
theorem insertPairs_of_nodup {entries pairs : List (ν × α)}
    (distinct : (foldedKeys (entries ++ pairs)).Nodup) :
    insertPairs entries pairs = entries ++ pairs := by
  induction pairs generalizing entries with
  | nil => exact (List.append_nil entries).symm
  | cons pair rest ih =>
    have absent : fold pair.1 ∉ foldedKeys entries := by
      rw [foldedKeys, List.map_append, List.map_cons, List.nodup_append] at distinct
      intro member
      exact distinct.2.2 _ member _ List.mem_cons_self rfl
    have shifted : entries ++ pair :: rest = entries ++ [pair] ++ rest := by
      rw [List.append_assoc, List.singleton_append]
    rw [shifted] at distinct
    rw [insertPairs, List.foldl_cons, insertEntry_of_absent absent, shifted]
    exact ih distinct

/-- An entry has the name of some insertion and the value of some insertion. -/
theorem mem_insertEntry {name : ν} {value : α} {entries : List (ν × α)}
    {entry : ν × α} (member : entry ∈ insertEntry name value entries) :
    (entry.1 = name ∨ ∃ old ∈ entries, entry.1 = old.1) ∧
      (entry.2 = value ∨ ∃ old ∈ entries, entry.2 = old.2) := by
  induction entries with
  | nil =>
    rw [List.mem_singleton.1 member]
    exact ⟨Or.inl rfl, Or.inl rfl⟩
  | cons first rest ih =>
    obtain ⟨present, old⟩ := first
    rw [insertEntry] at member
    split at member
    · rcases List.mem_cons.1 member with rfl | later
      · exact ⟨Or.inr ⟨_, List.mem_cons_self, rfl⟩, Or.inl rfl⟩
      · have kept := List.mem_cons_of_mem (present, old) later
        exact ⟨Or.inr ⟨entry, kept, rfl⟩, Or.inr ⟨entry, kept, rfl⟩⟩
    · rcases List.mem_cons.1 member with rfl | later
      · exact ⟨Or.inr ⟨_, List.mem_cons_self, rfl⟩, Or.inr ⟨_, List.mem_cons_self, rfl⟩⟩
      · obtain ⟨named, valued⟩ := ih later
        refine ⟨named.imp_right ?_, valued.imp_right ?_⟩
        · rintro ⟨other, found, same⟩
          exact ⟨other, List.mem_cons_of_mem _ found, same⟩
        · rintro ⟨other, found, same⟩
          exact ⟨other, List.mem_cons_of_mem _ found, same⟩

theorem mem_insertPairs {entries pairs : List (ν × α)} {entry : ν × α}
    (member : entry ∈ insertPairs entries pairs) :
    (∃ pair ∈ entries ++ pairs, entry.1 = pair.1) ∧ ∃ pair ∈ entries ++ pairs, entry.2 = pair.2 := by
  induction pairs generalizing entries with
  | nil =>
    rw [List.append_nil]
    exact ⟨⟨entry, member, rfl⟩, ⟨entry, member, rfl⟩⟩
  | cons pair rest ih =>
    -- What the first insertion leaves is `pair` or was there before.
    have origin : ∀ {other : ν × α}, other ∈ insertEntry pair.1 pair.2 entries ++ rest →
        (∃ old ∈ entries ++ pair :: rest, other.1 = old.1) ∧
          ∃ old ∈ entries ++ pair :: rest, other.2 = old.2 := by
      intro other found
      rcases List.mem_append.1 found with inserted | later
      · obtain ⟨name, content⟩ := mem_insertEntry inserted
        have here : pair ∈ entries ++ pair :: rest := List.mem_append_right _ List.mem_cons_self
        refine ⟨?_, ?_⟩
        · rcases name with same | ⟨old, before, same⟩
          · exact ⟨pair, here, same⟩
          · exact ⟨old, List.mem_append_left _ before, same⟩
        · rcases content with same | ⟨old, before, same⟩
          · exact ⟨pair, here, same⟩
          · exact ⟨old, List.mem_append_left _ before, same⟩
      · have after : other ∈ entries ++ pair :: rest :=
          List.mem_append_right _ (List.mem_cons_of_mem _ later)
        exact ⟨⟨other, after, rfl⟩, ⟨other, after, rfl⟩⟩
    rw [insertPairs, List.foldl_cons] at member
    obtain ⟨⟨named, namedMember, sameName⟩, ⟨valued, valuedMember, sameValue⟩⟩ := ih member
    obtain ⟨⟨old, oldMember, same⟩, _⟩ := origin namedMember
    obtain ⟨_, ⟨content, contentMember, sameContent⟩⟩ := origin valuedMember
    exact ⟨⟨old, oldMember, sameName.trans same⟩, ⟨content, contentMember, sameValue.trans sameContent⟩⟩

end Table

/-! ### Sets -/

/-- `firstsBy key items` is the first of `items` of each class of one lower case form of `key`. -/
def firstsBy {α : Type} (key : α → String) : List α → List α
  | [] => []
  | item :: rest => item :: (firstsBy key rest).filter fun other => lower (key other) != lower (key item)

theorem firstsBy_sublist {α : Type} (key : α → String) (items : List α) :
    (firstsBy key items).Sublist items := by
  induction items with
  | nil => exact List.Sublist.refl _
  | cons item rest ih => exact (List.filter_sublist.trans ih).cons_cons item

theorem firstsBy_of_nodup {items : List String} (distinct : (foldedItems items).Nodup) :
    firstsBy id items = items := by
  induction items with
  | nil => rfl
  | cons item rest ih =>
    rw [foldedItems_cons, List.nodup_cons] at distinct
    rw [firstsBy, ih distinct.2]
    refine congrArg _ (List.filter_eq_self.2 ?_)
    intro other member
    apply apartFrom_eq_true.2
    intro same
    exact distinct.1 (same ▸ List.mem_map_of_mem member)

theorem firstsBy_map {α : Type} (key : α → String) (items : List α) :
    firstsBy id (items.map key) = (firstsBy key items).map key := by
  induction items with
  | nil => rfl
  | cons item rest ih =>
    rw [List.map_cons, firstsBy, firstsBy, List.map_cons, ih, List.filter_map]
    rfl

/-- Leaving out one class leaves the first items of all others. -/
theorem firstsBy_filter (spelling : String) (items : List String) :
    (firstsBy id items).filter (apartFrom spelling) = firstsBy id (items.filter (apartFrom spelling)) := by
  induction items with
  | nil => rfl
  | cons item rest ih =>
    change (item :: (firstsBy id rest).filter (apartFrom item)).filter (apartFrom spelling) = _
    by_cases same : lower item = lower spelling
    · have out : ¬ apartFrom spelling item = true := fun kept => apartFrom_eq_true.1 kept same
      have class_eq : apartFrom item = apartFrom spelling := by
        funext other
        rw [apartFrom, apartFrom, same]
      rw [List.filter_cons_of_neg out, List.filter_cons_of_neg out, class_eq, List.filter_filter]
      simp only [Bool.and_self]
      exact ih
    · have kept : apartFrom spelling item = true := apartFrom_eq_true.2 same
      rw [List.filter_cons_of_pos kept, List.filter_cons_of_pos kept, List.filter_comm, ih]
      rfl

namespace Set

theorem items_insertAll (set : Set) (items : List String) :
    (set.insertAll items).items =
      set.items ++ (firstsBy id items).filter (outside set.items) := by
  induction items generalizing set with
  | nil => exact (List.append_nil _).symm
  | cons item rest ih =>
    rw [insertAll, List.foldl_cons]
    refine (ih (set.insert item)).trans ?_
    rw [items_insert, firstsBy]
    split
    · rename_i present
      have out : ¬ outside set.items item = true := fun outside => outside_eq_true.1 outside present
      rw [List.filter_cons_of_neg out, List.filter_filter]
      exact congrArg _ (List.filter_congr fun other _ => (outside_and_apartFrom present other).symm)
    · rename_i absent
      rw [List.filter_cons_of_pos (outside_eq_true.2 absent), List.append_assoc, List.singleton_append,
        List.filter_filter]
      have step : ∀ other ∈ firstsBy id rest, outside (set.items ++ [item]) other =
          (outside set.items other && apartFrom item other) := fun other _ => outside_concat set.items item other
      rw [List.filter_congr step]
      rfl

theorem items_insertAll_empty (items : List String) :
    (empty.insertAll items).items = firstsBy id items := by
  rw [items_insertAll]
  exact (List.nil_append _).trans (List.filter_eq_self.2 fun _ _ => rfl)

end Set

end AssemblyInfo.Folded
