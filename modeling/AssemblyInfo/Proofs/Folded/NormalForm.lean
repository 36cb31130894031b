import AssemblyInfo.Proofs.Folded.Insertion
import Mathlib.Data.List.Induction

/-!
# The normal form of insertions

What a table holds after a list of insertions: one entry for each class of names that have one lower case
form, at the place and in the spelling of the first of them, and with the content of the last.
-/

namespace AssemblyInfo.Folded
open Text Spelling

/-! ### The first of each class -/

theorem nodup_firstsBy {α : Type} (key : α → String) (items : List α) :
    ((firstsBy key items).map fun item => lower (key item)).Nodup := by
  have distinct := (Set.empty.insertAll (items.map key)).nodup_foldedItems
  rw [Set.items_insertAll_empty, firstsBy_map, foldedItems, List.map_map] at distinct
  exact distinct

theorem firstsBy_concat {α : Type} (key : α → String) (items : List α) (last : α) :
    firstsBy key (items ++ [last]) =
      if lower (key last) ∈ items.map fun item => lower (key item) then firstsBy key items
      else firstsBy key items ++ [last] := by
  induction items with
  | nil => rfl
  | cons item rest ih =>
    rw [List.cons_append, firstsBy, ih, firstsBy, List.map_cons]
    by_cases same : lower (key last) = lower (key item)
    · rw [if_pos (List.mem_cons.2 (Or.inl same))]
      split
      · rfl
      · rw [List.filter_append, List.filter_cons_of_neg (by simpa using same), List.filter_nil, List.append_nil]
    · by_cases later : lower (key last) ∈ rest.map fun item => lower (key item)
      · rw [if_pos later, if_pos (List.mem_cons_of_mem _ later)]
      · rw [if_neg later, if_neg (by simpa [same] using later), List.filter_append,
          List.filter_cons_of_pos (by simpa using same), List.filter_nil, List.cons_append]

/-- Every class has a first item. -/
theorem mem_map_firstsBy {α : Type} {key : α → String} {items : List α} {name : String} :
    (name ∈ (firstsBy key items).map fun item => lower (key item)) ↔
      name ∈ items.map fun item => lower (key item) := by
  refine ⟨((firstsBy_sublist key items).map _).mem, fun member => ?_⟩
  induction items with
  | nil => exact member
  | cons item rest ih =>
    rw [List.map_cons, List.mem_cons] at member
    rw [firstsBy, List.map_cons, List.mem_cons]
    refine or_iff_not_imp_left.2 fun other => ?_
    obtain ⟨first, kept, same⟩ := List.mem_map.1 (ih (member.resolve_left other))
    exact List.mem_map.2 ⟨first, List.mem_filter.2 ⟨kept, bne_iff_ne.2 (same ▸ other)⟩, same⟩

theorem find?_of_mem_firstsBy {α : Type} {key : α → String} {items : List α} {item : α}
    (member : item ∈ firstsBy key items) :
    items.find? (fun other => decide (lower (key other) = lower (key item))) = some item := by
  induction items with
  | nil => cases member
  | cons first rest ih =>
    rw [List.find?_cons]
    rcases List.mem_cons.1 member with rfl | later
    · rw [decide_eq_true rfl]
    · obtain ⟨present, apart⟩ := List.mem_filter.1 later
      rw [decide_eq_false (Ne.symm (bne_iff_ne.1 apart)), ih present]

/-! ### Tables -/

variable {α : Type}

/-- `lastUnder? name pairs` is the content of the last of `pairs` under `name`, in whatever spelling. -/
def lastUnder? (name : String) (pairs : List (String × α)) : Option α :=
  (pairs.reverse.find? fun pair => lower pair.1 = lower name).map Prod.snd

/-- `normalForm pairs` is one pair for each class of names, in the order and the spelling of the first of
each, with the content of the last. -/
def normalForm (pairs : List (String × α)) : List (String × α) :=
  (firstsBy Prod.fst pairs).map fun pair => (pair.1, (lastUnder? pair.1 pairs).getD pair.2)

theorem lastUnder?_concat (name : String) (pairs : List (String × α)) (last : String × α) :
    lastUnder? name (pairs ++ [last]) =
      if lower last.1 = lower name then some last.2 else lastUnder? name pairs := by
  unfold lastUnder?
  rw [List.reverse_append, List.reverse_singleton, List.singleton_append]
  split
  · rename_i same
    rw [List.find?_cons_of_pos (by simpa using same)]
    rfl
  · rename_i other
    rw [List.find?_cons_of_neg (by simpa using other)]

theorem foldedKeys_normalForm (pairs : List (String × α)) :
    foldedKeys (normalForm pairs) = (firstsBy Prod.fst pairs).map fun pair => lower pair.1 :=
  List.map_map

/-- A value that is replaced leaves all other entries as they are. -/
theorem insertEntry_of_present {ν : Type} [DecidableEq ν] [Spelling ν] {name : ν} {entries : List (ν × α)}
    (distinct : (foldedKeys entries).Nodup) (present : fold name ∈ foldedKeys entries) (value : α) :
    insertEntry name value entries =
      entries.map fun entry => if fold entry.1 = fold name then (entry.1, value) else entry := by
  induction entries with
  | nil => cases present
  | cons entry rest ih =>
    obtain ⟨spelling, old⟩ := entry
    rw [foldedKeys_cons, List.nodup_cons] at distinct
    rw [foldedKeys_cons, List.mem_cons] at present
    rw [insertEntry, List.map_cons]
    split
    · rename_i same
      refine congrArg _ ((List.map_id rest).symm.trans (List.map_congr_left fun other member => ?_))
      have apart : fold other.1 ≠ fold name := by
        intro again
        exact distinct.1 (same ▸ again ▸ List.mem_map_of_mem member)
      rw [if_neg apart]
      rfl
    · rename_i other
      exact congrArg _ (ih distinct.2 (present.resolve_left (Ne.symm other)))

theorem lastUnder?_of_last {name : String} {content : α} {before after : List (String × α)}
    (last : ∀ pair ∈ after, lower pair.1 ≠ lower name) :
    lastUnder? name (before ++ (name, content) :: after) = some content := by
  have none : after.reverse.find? (fun pair => decide (lower pair.1 = lower name)) = none := by
    rw [List.find?_eq_none]
    intro pair member
    simpa using last pair (List.mem_reverse.1 member)
  unfold lastUnder?
  rw [List.reverse_append, List.reverse_cons, List.append_assoc, List.find?_append, none, Option.none_or,
    List.singleton_append, List.find?_cons_of_pos (by simp)]
  rfl

/-- The last content under a name stands in the normal form under the name as it is spelled first. -/
theorem mem_normalForm {name : String} {pairs : List (String × α)} {first : String × α} {content : α}
    (found : pairs.find? (fun pair => decide (lower pair.1 = lower name)) = some first)
    (last : lastUnder? name pairs = some content) : (first.1, content) ∈ normalForm pairs := by
  have same : lower first.1 = lower name := by simpa using List.find?_some found
  have present : lower name ∈ (firstsBy Prod.fst pairs).map fun pair => lower pair.1 :=
    mem_map_firstsBy.2 (List.mem_map.2 ⟨first, List.mem_of_find?_eq_some found, same⟩)
  obtain ⟨kept, member, named⟩ := List.mem_map.1 present
  have again := find?_of_mem_firstsBy member
  rw [named, found] at again
  obtain rfl := Option.some.inj again
  refine List.mem_map.2 ⟨first, member, ?_⟩
  have content : lastUnder? first.1 pairs = some content := by
    unfold lastUnder? at last ⊢
    rw [same]
    exact last
  rw [content]
  rfl

/-- Insertions one after the other into nothing leave their normal form. -/
theorem insertPairs_eq_normalForm (pairs : List (String × α)) : insertPairs [] pairs = normalForm pairs := by
  -- By induction from the end: the last pair replaces a content, or is the first of its class.
  induction pairs using List.reverseRecOn with
  | nil => rfl
  | append_singleton pairs last ih =>
    have inserted : insertPairs [] (pairs ++ [last]) = insertEntry last.1 last.2 (normalForm pairs) := by
      rw [← ih]
      exact List.foldl_append
    have distinct : (foldedKeys (normalForm pairs)).Nodup := by
      rw [foldedKeys_normalForm]
      exact nodup_firstsBy Prod.fst pairs
    have present : fold last.1 ∈ foldedKeys (normalForm pairs) ↔
        lower last.1 ∈ pairs.map fun pair => lower pair.1 := by
      rw [foldedKeys_normalForm]
      exact mem_map_firstsBy
    rw [inserted, normalForm.eq_def (pairs ++ [last]), firstsBy_concat]
    split
    · rename_i again
      rw [insertEntry_of_present distinct (present.2 again), normalForm, List.map_map]
      refine List.map_congr_left fun pair _ => ?_
      rw [lastUnder?_concat]
      by_cases same : lower pair.1 = lower last.1
      · exact (if_pos same).trans (by rw [if_pos same.symm, Option.getD_some])
      · exact (if_neg same).trans (by rw [if_neg (Ne.symm same)])
    · rename_i fresh
      rw [insertEntry_of_absent (mt present.1 fresh), normalForm, List.map_append]
      refine congrArg₂ _ (List.map_congr_left fun pair member => ?_) ?_
      · have apart : lower last.1 ≠ lower pair.1 := by
          intro same
          exact fresh (same ▸ List.mem_map_of_mem ((firstsBy_sublist Prod.fst pairs).mem member))
        rw [lastUnder?_concat, if_neg apart]
      · rw [List.map_singleton, lastUnder?_concat, if_pos rfl, Option.getD_some]

end AssemblyInfo.Folded
