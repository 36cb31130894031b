import Mathlib.Data.List.TakeWhile
import Mathlib.Data.String.Basic

/-!
# Sorting by texts

Items are sorted by their texts, and those with one text stay in the order in which they were. So neither the
order in which items come to be sorted, nor a change of their texts, counts unless two of them can change places.
-/

namespace AssemblyInfo.Text

variable {α : Type} (text : α → String)

theorem le_trans_text (a b c : α) (first : decide (text a ≤ text b) = true)
    (second : decide (text b ≤ text c) = true) : decide (text a ≤ text c) = true := by
  rw [decide_eq_true_eq] at first second ⊢
  exact String.le_trans first second

theorem le_total_text (a b : α) : (decide (text a ≤ text b) || decide (text b ≤ text a)) = true := by
  rw [Bool.or_eq_true, decide_eq_true_eq, decide_eq_true_eq]
  exact String.le_total (text a) (text b)

theorem pairwise_sorted (items : List α) :
    (items.mergeSort fun a b => decide (text a ≤ text b)).Pairwise fun a b => decide (text a ≤ text b) = true :=
  List.pairwise_mergeSort (le_trans_text text) (le_total_text text) items

variable {text}

/-- Items that are sorted by one text and by another have their contents in one order, if no two that differ in
content can change places. -/
theorem map_eq_of_apart {β : Type} {first second : α → String} {content : α → β} {items others : List α}
    (sorted : items.Pairwise fun a b => first a ≤ first b) (sortedThen : others.Pairwise fun a b => second a ≤ second b)
    (perm : items.Perm others)
    (apart : ∀ a ∈ items, ∀ b ∈ items, first a ≤ first b → second b ≤ second a → content a = content b) :
    items.map content = others.map content := by
  induction items generalizing others with
  | nil => rw [perm.nil_eq]
  | cons item rest ih =>
    obtain ⟨before, after, rfl⟩ := List.append_of_mem (perm.mem_iff.1 List.mem_cons_self)
    rw [List.pairwise_cons] at sorted
    have shorter : rest.Perm (before ++ after) := (perm.trans List.perm_middle).cons_inv
    have remaining : (before ++ after).Pairwise fun a b => second a ≤ second b :=
      sortedThen.sublist (List.Sublist.append_left (List.sublist_cons_self item after) before)
    have later := ih sorted.2 remaining shorter fun a member b memberThen =>
      apart a (List.mem_cons_of_mem _ member) b (List.mem_cons_of_mem _ memberThen)
    -- What comes before the first item in the other order has the content of that item.
    have alike : before.map content = List.replicate before.length (content item) := by
      refine List.map_eq_replicate_iff.2 fun other member => ?_
      have place : other ∈ item :: rest := perm.mem_iff.2 (List.mem_append_left _ member)
      have above : second other ≤ second item :=
        (List.pairwise_append.1 sortedThen).2.2 other member item List.mem_cons_self
      rcases List.mem_cons.1 place with rfl | within
      · rfl
      · exact (apart item List.mem_cons_self other place (sorted.1 other within) above).symm
    rw [List.map_cons, later, List.map_append, List.map_append, List.map_cons, alike, ← List.cons_append,
      ← List.replicate_succ, List.replicate_succ', List.append_assoc, List.singleton_append]

/-- An item is sorted in behind those with smaller texts, and in front of those with its own. -/
theorem mergeSort_cons_eq (item : α) (items : List α) :
    let sorted := items.mergeSort fun a b => decide (text a ≤ text b)
    ((item :: items).mergeSort fun a b => decide (text a ≤ text b)) =
      sorted.takeWhile (fun other => decide (text other < text item)) ++
        item :: sorted.dropWhile fun other => decide (text other < text item) := by
  intro sorted
  obtain ⟨before, after, whole, parts, below⟩ :=
    List.mergeSort_cons (le_trans_text text) (le_total_text text) item items
  have order := pairwise_sorted text (item :: items)
  rw [whole, List.pairwise_append, List.pairwise_cons] at order
  have smaller : ∀ other ∈ before, decide (text other < text item) = true := by
    intro other member
    have bound := below other member
    rw [Bool.not_eq_true', decide_eq_false_iff_not, String.not_le] at bound
    exact decide_eq_true bound
  have none : after.takeWhile (fun other => decide (text other < text item)) = [] ∧
      after.dropWhile (fun other => decide (text other < text item)) = after := by
    cases after with
    | nil => exact ⟨rfl, rfl⟩
    | cons next rest =>
      have larger : ¬ decide (text next < text item) = true := by
        have bound := order.2.1.1 next List.mem_cons_self
        rw [decide_eq_true_eq] at bound ⊢
        exact String.not_lt.2 bound
      exact ⟨List.takeWhile_cons_of_neg larger, List.dropWhile_cons_of_neg larger⟩
  change _ = List.takeWhile _ (List.mergeSort _ _) ++ item :: List.dropWhile _ (List.mergeSort _ _)
  rw [whole, parts, List.takeWhile_append_of_pos smaller, List.dropWhile_append_of_pos smaller, none.1, none.2,
    List.append_nil]

theorem takeWhile_before {p : α → Bool} {item : α} (stops : ¬ p item = true) (before after : List α) :
    (before ++ item :: after).takeWhile p = before.takeWhile p := by
  induction before with
  | nil => exact List.takeWhile_cons_of_neg stops
  | cons first rest ih =>
    rw [List.cons_append, List.takeWhile_cons, List.takeWhile_cons, ih]

theorem dropWhile_before {p : α → Bool} {item : α} (stops : ¬ p item = true) (before after : List α) :
    (before ++ item :: after).dropWhile p = before.dropWhile p ++ item :: after := by
  induction before with
  | nil => exact List.dropWhile_cons_of_neg stops
  | cons first rest ih =>
    rw [List.cons_append, List.dropWhile_cons, List.dropWhile_cons, ih]
    split <;> rfl

theorem eq_of_cons_append {β : Type} {a b : β} {between rest more : List β}
    (same : a :: (between ++ b :: rest) = between ++ b :: more) : a = b := by
  induction between generalizing a with
  | nil => exact (List.cons.inj same).1
  | cons first others ih =>
    obtain ⟨rfl, further⟩ := List.cons.inj same
    exact ih further

section Moving

variable {β : Type}

/-- `isBelow key entry` says that `entry` is sorted in front of `key`. -/
def isBelow (key : String) (entry : String × β) : Bool :=
  decide (entry.1 < key)

theorem not_isBelow {key other : String} (above : key ≤ other) (content : β) : ¬ isBelow key (other, content) = true := by
  rw [isBelow, decide_eq_true_eq]
  exact String.not_lt.2 above

theorem takeWhile_isBelow {low high : String} (order : low ≤ high) (entries : List (String × β)) :
    (entries.takeWhile (isBelow high)).takeWhile (isBelow low) = entries.takeWhile (isBelow low) := by
  rw [List.takeWhile_takeWhile]
  congr 1
  funext entry
  have wider : entry.1 < low → entry.1 < high := fun below => lt_of_lt_of_le below order
  simpa [isBelow] using wider

/-- An entry that moves from one side of another to the other side shows, unless both have one content. -/
theorem eq_of_moved {low key high : String} {moving fixed : β} (before : low ≤ key) (after : key ≤ high)
    {rest : List (String × β)}
    (same : (((low, moving) :: (key, fixed) :: rest).mergeSort fun a b => decide (a.1 ≤ b.1)).map Prod.snd =
      (((key, fixed) :: (high, moving) :: rest).mergeSort fun a b => decide (a.1 ≤ b.1)).map Prod.snd) :
    moving = fixed := by
  have insert (key : String) (content : β) (entries : List (String × β)) :
      let sorted := entries.mergeSort fun a b => decide (a.1 ≤ b.1)
      (((key, content) :: entries).mergeSort fun a b => decide (a.1 ≤ b.1)) =
        sorted.takeWhile (isBelow key) ++ (key, content) :: sorted.dropWhile (isBelow key) :=
    mergeSort_cons_eq (key, content) entries
  rw [insert, insert, takeWhile_before (not_isBelow before fixed), dropWhile_before (not_isBelow before fixed),
    insert, insert, takeWhile_before (not_isBelow after moving), takeWhile_isBelow after] at same
  -- Both orders start with what is below the fixed entry; in the first one the moving entry stands in it.
  generalize (List.mergeSort rest _).takeWhile (isBelow key) = start at same
  have parts : start.takeWhile (isBelow low) ++ start.dropWhile (isBelow low) = start :=
    List.takeWhile_append_dropWhile
  generalize start.takeWhile (isBelow low) = smaller at same parts
  generalize start.dropWhile (isBelow low) = between at same parts
  rw [← parts] at same
  simp only [List.map_append, List.map_cons, List.append_assoc, List.append_cancel_left_eq] at same
  exact eq_of_cons_append same

end Moving

end AssemblyInfo.Text
