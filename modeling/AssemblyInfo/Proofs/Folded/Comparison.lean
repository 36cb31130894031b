import AssemblyInfo.Proofs.Folded.Change
import AssemblyInfo.Proofs.Value.Key
import Mathlib.Data.Finset.Card
import Mathlib.Data.Finset.SymmDiff
import Mathlib.Data.List.Perm.Subperm

/-!
# Comparisons of folded sets

Comparisons count the elements on both sides and look for those of one side in the other only. Since no
element is there twice this decides whether the sets of lower case forms are equal, or one within the
other. Against a set in which case counts the two sides look for elements by different rules.
-/

namespace AssemblyInfo.Folded
open Text

namespace Set

/-- `set.keys` is the lower case forms under which something is filed in `set`. -/
def keys (set : Set) : Finset String :=
  (set.store.slots.map Prod.fst).toFinset

theorem mem_keys {set : Set} {key : String} : key ∈ set.keys ↔ key ∈ foldedItems set.items := by
  rw [keys, List.mem_toFinset, keys_eq]

theorem card_keys (set : Set) : set.keys.card = set.size := by
  rw [keys, List.toFinset_card_of_nodup set.store.distinct, List.length_map]
  rfl

theorem has_iff_mem_keys {set : Set} {item : String} : set.has item = true ↔ lower item ∈ set.keys := by
  rw [has_iff, mem_keys]

/-- Every lower case form in the set is the one of an element. -/
theorem forall_keys {set : Set} {p : String → Prop} :
    (∀ key ∈ set.keys, p key) ↔ ∀ item ∈ set.items, p (lower item) := by
  simp only [mem_keys, foldedItems, List.mem_map, forall_exists_index, and_imp, forall_apply_eq_imp_iff₂]

/-! ### Two folded sets -/

section
variable (set other : Set)

theorem length_values_folded : (Operand.folded other).values.length = other.keys.card := by
  rw [card_keys, size_eq]
  exact List.length_map _

theorem within_folded_iff : set.within (.folded other) = true ↔ set.keys ⊆ other.keys := by
  rw [within, List.all_eq_true, Finset.subset_iff, forall_keys]
  exact forall₂_congr fun item _ => has_iff_mem_keys

theorem covers_folded_iff : set.covers (.folded other) = true ↔ other.keys ⊆ set.keys := by
  rw [covers, Operand.values, List.all_map, List.all_eq_true, Finset.subset_iff, forall_keys]
  exact forall₂_congr fun item _ => has_iff_mem_keys

theorem isSubset_folded_iff : set.isSubset (.folded other) = true ↔ set.keys ⊆ other.keys := by
  rw [isSubset, Bool.and_eq_true, decide_eq_true_eq, length_values_folded, ← card_keys, within_folded_iff]
  exact and_iff_right_of_imp Finset.card_le_card

theorem equals_folded_iff : set.equals (.folded other) = true ↔ set.keys = other.keys := by
  rw [equals, Bool.and_eq_true, beq_iff_eq, length_values_folded, ← card_keys, isSubset_folded_iff]
  · constructor
    · rintro ⟨count, within⟩
      exact Finset.eq_of_subset_of_card_le within count.ge
    · intro same
      exact ⟨congrArg _ same, same.subset⟩
  · nofun

theorem le_folded : set.le (.folded other) = .ok (decide (set.keys ⊆ other.keys)) :=
  congrArg _ (Bool.eq_iff_iff.2 ((isSubset_folded_iff set other).trans decide_eq_true_iff.symm))

theorem lt_folded : set.lt (.folded other) = .ok (decide (set.keys ⊂ other.keys)) := by
  refine congrArg _ (Bool.eq_iff_iff.2 ?_)
  rw [Bool.and_eq_true, decide_eq_true_eq, decide_eq_true_eq, length_values_folded, ← card_keys,
    isSubset_folded_iff]
  constructor
  · rintro ⟨count, within⟩
    exact within.ssubset_of_ne fun same => count.ne (congrArg _ same)
  · intro proper
    exact ⟨Finset.card_lt_card proper, proper.subset⟩

theorem ge_folded : set.ge (.folded other) = .ok (decide (other.keys ⊆ set.keys)) := by
  refine congrArg _ (Bool.eq_iff_iff.2 ?_)
  rw [Bool.and_eq_true, decide_eq_true_eq, decide_eq_true_eq, length_values_folded, ← card_keys,
    covers_folded_iff]
  exact and_iff_right_of_imp Finset.card_le_card

theorem isDisjoint_folded_iff : set.isDisjoint (.folded other) = true ↔ Disjoint set.keys other.keys := by
  rw [isDisjoint, Bool.not_eq_true', Operand.values, List.any_map, List.any_eq_false, disjoint_comm,
    Finset.disjoint_left, forall_keys]
  exact forall₂_congr fun item _ => not_congr has_iff_mem_keys

/-! ### What two folded sets give together -/

/-- `set.without other` is the elements of `set` that are not in `other`, in order. -/
def without : List String :=
  set.items.filter fun item => decide (lower item ∉ other.keys)

theorem filter_outside : set.items.filter (outside other.items) = set.without other :=
  List.filter_congr fun _ _ => decide_eq_decide.2 (not_congr mem_keys.symm)

theorem mem_foldedItems_without {key : String} :
    key ∈ foldedItems (set.without other) ↔ key ∈ set.keys ∧ key ∉ other.keys := by
  unfold without foldedItems
  rw [(mem_keys : key ∈ set.keys ↔ _), List.mem_map]
  constructor
  · rintro ⟨item, kept, rfl⟩
    obtain ⟨member, absent⟩ := List.mem_filter.1 kept
    exact ⟨List.mem_map_of_mem member, of_decide_eq_true absent⟩
  · rintro ⟨present, absent⟩
    obtain ⟨item, member, rfl⟩ := List.mem_map.1 present
    exact ⟨item, List.mem_filter.2 ⟨member, decide_eq_true absent⟩, rfl⟩

theorem items_unite_folded : (set.unite (.folded other)).items = set.items ++ other.without set := by
  refine (set.items_insertAll other.items).trans ?_
  rw [firstsBy_of_nodup other.nodup_foldedItems, filter_outside]

theorem items_subtract_folded : (set.subtract (.folded other)).items = set.without other :=
  (set.items_eraseAll other.items).trans (filter_outside set other)

theorem items_toggleAll_folded :
    (set.toggleAll other.items).items = set.without other ++ other.without set := by
  rw [items_toggleAll, Items.foldl_toggle other.nodup_foldedItems, filter_outside, filter_outside]

theorem keys_unite_folded : (set.unite (.folded other)).keys = set.keys ∪ other.keys := by
  ext key
  rw [mem_keys, items_unite_folded, foldedItems, List.map_append, List.mem_append, Finset.mem_union]
  change key ∈ foldedItems _ ∨ key ∈ foldedItems _ ↔ _
  rw [mem_foldedItems_without, ← mem_keys]
  tauto

theorem keys_subtract_folded : (set.subtract (.folded other)).keys = set.keys \ other.keys := by
  ext key
  rw [mem_keys, items_subtract_folded, mem_foldedItems_without, Finset.mem_sdiff]

theorem keys_toggleAll_folded : (set.toggleAll other.items).keys = symmDiff set.keys other.keys := by
  ext key
  rw [mem_keys, items_toggleAll_folded, foldedItems, List.map_append, List.mem_append, Finset.mem_symmDiff]
  change key ∈ foldedItems _ ∨ key ∈ foldedItems _ ↔ _
  rw [mem_foldedItems_without, mem_foldedItems_without]

end

/-! ### A folded set beside one in which case counts -/

theorem nodup_items (set : Set) : set.items.Nodup :=
  List.Nodup.of_map lower set.nodup_foldedItems

/-- If a set has as many elements as `items`, and all of them are there, there is nothing else. -/
theorem covers_of_within {set : Set} {items : List Value} (count : set.size = items.length)
    (within : set.within (.exact items) = true) : set.covers (.exact items) = true := by
  let held := set.items.map fun item => [KeyPart.text item]
  have distinct : held.Nodup := set.nodup_items.map fun one another same => by simpa using same
  have found : held ⊆ items.map Value.key := by
    intro key member
    obtain ⟨item, here, rfl⟩ := List.mem_map.1 member
    obtain ⟨value, present, same⟩ := List.any_eq_true.1 (List.all_eq_true.1 within item here)
    exact List.mem_map.2 ⟨value, present, of_decide_eq_true same⟩
  -- All identities in `held` are different, and `items` has no more of them: so it has the same ones.
  have short : (items.map Value.key).length ≤ held.length := by
    rw [List.length_map, List.length_map, ← size_eq, count]
  have perm := (List.subperm_of_subset distinct found).perm_of_length_le short
  refine List.all_eq_true.2 fun value member => ?_
  obtain ⟨item, here, same⟩ := List.mem_map.1 (perm.mem_iff.2 (List.mem_map_of_mem member))
  rw [hasValue, Value.now_of_key value same.symm]
  exact (set.has_iff item).2 (List.mem_map_of_mem here)

theorem equals_exact_iff (set : Set) (items : List Value) :
    set.equals (.exact items) = true ↔ set.le (.exact items) = .ok true ∧ set.ge (.exact items) = .ok true := by
  have equal : set.equals (.exact items) = true ↔
      set.size = items.length ∧ set.isSubset (.exact items) = true := by
    rw [equals, Bool.and_eq_true, beq_iff_eq]
    · rfl
    · nofun
  have above : set.ge (.exact items) = .ok true ↔ items.length ≤ set.size ∧ set.covers (.exact items) = true := by
    rw [ge, compared, Except.ok.injEq, Bool.and_eq_true, decide_eq_true_eq]
    · rfl
    · nofun
  have below : set.le (.exact items) = .ok true ↔ set.isSubset (.exact items) = true :=
    ⟨Except.ok.inj, congrArg Except.ok⟩
  have subset : set.isSubset (.exact items) = true ↔
      set.size ≤ items.length ∧ set.within (.exact items) = true := by
    rw [isSubset, Bool.and_eq_true, decide_eq_true_eq]
    rfl
  rw [equal, below, above]
  constructor
  · rintro ⟨count, inside⟩
    exact ⟨inside, count.ge, covers_of_within count (subset.1 inside).2⟩
  · rintro ⟨inside, enough, _⟩
    exact ⟨Nat.le_antisymm (subset.1 inside).1 enough, inside⟩

theorem equals_folded_iff_le_ge (set other : Set) :
    set.equals (.folded other) = true ↔ set.le (.folded other) = .ok true ∧ set.ge (.folded other) = .ok true := by
  rw [equals_folded_iff, le_folded, ge_folded, Except.ok.injEq, Except.ok.injEq, decide_eq_true_eq,
    decide_eq_true_eq]
  exact Finset.Subset.antisymm_iff

/-! ### Sets that come of changes -/

/-- Every run of changes from the empty set on goes as it does for a list of spellings, of which no two have
one lower case form. Two sets that come of such runs compare as the sets of their lower case forms do, and
give together what those give; elements that stay keep place and spelling, and others come after them in
theirs. A set equals another collection if each is within the other, also where case counts in that one. -/
theorem run_empty_compares (changes others : List Change) :
    let replies := (runs change empty changes).1
    let set := (runs change empty changes).2
    let other := (runs change empty others).2
    (replies, set.items) = runs Items.change [] changes ∧ (foldedItems set.items).Nodup ∧
    (∀ made, Items.Grown set.items made.brought (set.change made).2.items) ∧
    (set.equals (.folded other) = true ↔ set.keys = other.keys) ∧
    set.le (.folded other) = .ok (decide (set.keys ⊆ other.keys)) ∧
    set.lt (.folded other) = .ok (decide (set.keys ⊂ other.keys)) ∧
    set.ge (.folded other) = .ok (decide (other.keys ⊆ set.keys)) ∧
    (set.isDisjoint (.folded other) = true ↔ Disjoint set.keys other.keys) ∧
    (set.unite (.folded other)).keys = set.keys ∪ other.keys ∧
    (set.unite (.folded other)).items = set.items ++ other.without set ∧
    (set.subtract (.folded other)).keys = set.keys \ other.keys ∧
    (set.subtract (.folded other)).items = set.without other ∧
    (∃ toggled, set.symmetric (.folded other) = .ok toggled ∧ toggled.keys = symmDiff set.keys other.keys ∧
      toggled.items = set.without other ++ other.without set) ∧
    (∀ any : Set, set.equals (.folded any) = true ↔
      set.le (.folded any) = .ok true ∧ set.ge (.folded any) = .ok true) ∧
    ∀ items : List Value, set.equals (.exact items) = true ↔
      set.le (.exact items) = .ok true ∧ set.ge (.exact items) = .ok true := by
  intro replies set other
  have grown (made : Change) : Items.Grown set.items made.brought (set.change made).2.items := by
    have changed := Items.grown_change set.items made
    rw [← seen_change] at changed
    exact changed
  exact ⟨seen_runs seen_change empty changes, set.nodup_foldedItems, grown, equals_folded_iff set other, le_folded set other,
    lt_folded set other, ge_folded set other, isDisjoint_folded_iff set other, keys_unite_folded set other,
    items_unite_folded set other, keys_subtract_folded set other, items_subtract_folded set other,
    ⟨set.toggleAll other.items, rfl, keys_toggleAll_folded set other, items_toggleAll_folded set other⟩,
    equals_folded_iff_le_ge set, equals_exact_iff set⟩

end Set

end AssemblyInfo.Folded
