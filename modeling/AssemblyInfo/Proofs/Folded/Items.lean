import AssemblyInfo.Folded.Set
import Mathlib.Data.List.Basic

/-!
# Elements of folded sets

A folded set is known from its elements, since every element is filed under its own lower case form. So
each operation on a set is one on the list of its elements, of which no two have one lower case form.
-/

namespace AssemblyInfo.Folded
open Text

def foldedItems (items : List String) : List String :=
  items.map lower

theorem foldedItems_cons (item : String) (rest : List String) :
    foldedItems (item :: rest) = lower item :: foldedItems rest := rfl

/-- `apartFrom spelling item` says that `item` is another text than `spelling`, in whatever spelling. -/
def apartFrom (spelling item : String) : Bool :=
  lower item != lower spelling

theorem apartFrom_eq_true {spelling item : String} :
    apartFrom spelling item = true ↔ lower item ≠ lower spelling :=
  bne_iff_ne

/-- `outside others item` says that `item` is none of `others`, in whatever spelling. -/
def outside (others : List String) (item : String) : Bool :=
  decide (lower item ∉ foldedItems others)

theorem outside_eq_true {others : List String} {item : String} :
    outside others item = true ↔ lower item ∉ foldedItems others :=
  decide_eq_true_iff

theorem outside_cons (other : String) (rest : List String) (item : String) :
    outside (other :: rest) item = (outside rest item && apartFrom other item) := by
  rw [Bool.eq_iff_iff, Bool.and_eq_true, outside_eq_true, outside_eq_true, apartFrom_eq_true,
    foldedItems_cons, List.mem_cons, not_or]
  exact and_comm

theorem outside_concat (others : List String) (last item : String) :
    outside (others ++ [last]) item = (outside others item && apartFrom last item) := by
  rw [Bool.eq_iff_iff, Bool.and_eq_true, outside_eq_true, outside_eq_true, apartFrom_eq_true, foldedItems,
    List.map_append, List.mem_append, not_or]
  exact and_congr_right fun _ => not_congr List.mem_singleton

/-- Leaving out one class does not count for an item of another one. -/
theorem outside_filter_apartFrom {left item : String} (apart : lower item ≠ lower left) (others : List String) :
    outside (others.filter (apartFrom left)) item = outside others item := by
  rw [Bool.eq_iff_iff, outside_eq_true, outside_eq_true, foldedItems, foldedItems]
  refine not_congr ⟨(List.filter_sublist.map lower).mem, fun found => ?_⟩
  obtain ⟨other, member, same⟩ := List.mem_map.1 found
  exact List.mem_map.2 ⟨other, List.mem_filter.2 ⟨member, apartFrom_eq_true.2 (same ▸ apart)⟩, same⟩

/-- What is outside is apart from whatever is inside. -/
theorem outside_and_apartFrom {others : List String} {inner : String} (inside : lower inner ∈ foldedItems others)
    (item : String) : (outside others item && apartFrom inner item) = outside others item := by
  rw [Bool.eq_iff_iff, Bool.and_eq_true, outside_eq_true, apartFrom_eq_true]
  exact and_iff_left_of_imp fun absent same => absent (same ▸ inside)

theorem putSlot_of_absent {κ β : Type} [DecidableEq κ] {key : κ} {slots : List (κ × β)}
    (absent : key ∉ slots.map Prod.fst) (content : β) :
    putSlot key content slots = slots ++ [(key, content)] := by
  induction slots with
  | nil => rfl
  | cons slot rest ih =>
    obtain ⟨present, old⟩ := slot
    rw [List.map_cons, List.mem_cons, not_or] at absent
    rw [putSlot, if_neg (Ne.symm absent.1), ih absent.2, List.cons_append]

namespace Set

theorem slots_eq (set : Set) : set.store.slots = set.items.map fun item => (lower item, item) := by
  unfold items
  rw [List.map_map]
  refine (List.map_id _).symm.trans (List.map_congr_left ?_)
  intro slot member
  exact Prod.ext (set.filed slot member) rfl

theorem keys_eq (set : Set) : set.store.slots.map Prod.fst = foldedItems set.items := by
  rw [slots_eq, List.map_map]
  rfl

theorem nodup_foldedItems (set : Set) : (foldedItems set.items).Nodup :=
  set.keys_eq ▸ set.store.distinct

theorem size_eq (set : Set) : set.size = set.items.length :=
  (List.length_map Prod.snd).symm

theorem has_iff (set : Set) (item : String) : set.has item = true ↔ lower item ∈ foldedItems set.items := by
  unfold has Store.find?
  rw [Option.isSome_map, List.find?_isSome, ← keys_eq, List.mem_map]
  simp

theorem items_insert (set : Set) (item : String) :
    (set.insert item).items =
      if lower item ∈ foldedItems set.items then set.items else set.items ++ [item] := by
  have present := set.has_iff item
  unfold has at present
  unfold insert
  cases found : set.store.find? (Spelling.fold item) with
  | some old =>
    rw [found] at present
    rw [if_pos (present.1 rfl)]
  | none =>
    rw [found] at present
    have absent : lower item ∉ foldedItems set.items := fun member => absurd (present.2 member) Bool.false_ne_true
    rw [if_neg absent]
    rw [← keys_eq] at absent
    change (putSlot (lower item) item set.store.slots).map Prod.snd = _
    rw [putSlot_of_absent absent, List.map_append]
    rfl

theorem items_erase (set : Set) (item : String) :
    (set.erase item).items = set.items.filter (apartFrom item) := by
  unfold items erase Store.remove
  rw [List.filter_map]
  refine congrArg _ (List.filter_congr ?_)
  intro slot member
  rw [set.filed slot member, Bool.eq_iff_iff, decide_eq_true_eq]
  exact apartFrom_eq_true.symm

theorem items_erase_first {set : Set} {item : String} {rest : List String}
    (first : set.items = item :: rest) : (set.erase item).items = rest := by
  have distinct := set.nodup_foldedItems
  rw [first, foldedItems_cons, List.nodup_cons] at distinct
  have out : ¬ apartFrom item item = true := fun kept => apartFrom_eq_true.1 kept rfl
  rw [items_erase, first, List.filter_cons_of_neg out]
  apply List.filter_eq_self.2
  intro other member
  apply apartFrom_eq_true.2
  intro same
  exact distinct.1 (same ▸ List.mem_map_of_mem member)

theorem items_clear (set : Set) : set.clear.items = [] := by
  rw [clear]
  split
  · rename_i item rest taken
    exact items_clear rest
  · rename_i fault failed
    unfold takeFirst at failed
    cases held : set.items with
    | nil => rfl
    | cons item rest =>
      rw [held] at failed
      cases failed
termination_by set.size
decreasing_by
  rename_i taken
  exact size_lt_of_takeFirst taken

end Set

end AssemblyInfo.Folded
