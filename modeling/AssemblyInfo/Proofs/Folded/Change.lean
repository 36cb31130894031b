import AssemblyInfo.Proofs.Folded.Insertion
import AssemblyInfo.Proofs.Folded.Runs

/-!
# Runs of changes

A folded set goes through every run of changes as a plain list of spellings does, of which no two have one
lower case form. What a change leaves in the set keeps its place and its spelling, and what it brings in
comes after that.
-/

namespace AssemblyInfo.Folded
open Text

/-- A change of a set of texts. -/
inductive Change where
  | add (item : String)
  | discard (item : String)
  | remove (item : String)
  | pop
  | clear
  | unite (operand : Set.Operand String)
  | subtract (operand : Set.Operand String)
  | symmetric (operand : Set.Operand String)

/-- `change.brought` is the texts that `change` can bring in. -/
def Change.brought : Change → List String
  | .add item => [item]
  | .unite operand | .symmetric operand => operand.texts
  | .discard _ | .remove _ | .pop | .clear | .subtract _ => []

/-! ### Changes of a list of spellings -/

namespace Items

def add (items : List String) (item : String) : List String :=
  if lower item ∈ foldedItems items then items else items ++ [item]

def toggle (items : List String) (item : String) : List String :=
  if lower item ∈ foldedItems items then items.filter (apartFrom item) else items ++ [item]

/-- `change items change` is the answer to `change`, and the spellings after it. -/
def change (items : List String) : Change → Except Fault (Option String) × List String
  | .add item => (.ok none, add items item)
  | .discard item => (.ok none, items.filter (apartFrom item))
  | .remove item =>
    if lower item ∈ foldedItems items then (.ok none, items.filter (apartFrom item))
    else (.error (.missing (String.ofList (Value.text item).shown)), items)
  | .pop =>
    match items with
    | [] => (.error .empty, [])
    | item :: rest => (.ok (some item), rest)
  | .clear => (.ok none, [])
  | .unite operand => (.ok none, operand.texts.foldl add items)
  | .subtract operand => (.ok none, items.filter (outside operand.texts))
  | .symmetric (.list _) => (.error .notBuildable, items)
  | .symmetric operand => (.ok none, operand.texts.foldl toggle items)

/-- `Grown before brought after` says that `after` is some of `before`, in order, and then some of
`brought`. -/
def Grown (before brought after : List String) : Prop :=
  ∃ kept added, after = kept ++ added ∧ kept.Sublist before ∧ ∀ item ∈ added, item ∈ brought

theorem grown_of_sublist {before after : List String} (kept : after.Sublist before) (brought : List String) :
    Grown before brought after :=
  ⟨after, [], (List.append_nil after).symm, kept, nofun⟩

theorem Grown.filter {before brought after : List String} (grown : Grown before brought after)
    (p : String → Bool) : Grown before brought (after.filter p) := by
  obtain ⟨kept, added, rfl, sublist, fresh⟩ := grown
  refine ⟨kept.filter p, added.filter p, List.filter_append .., List.filter_sublist.trans sublist, ?_⟩
  intro item member
  exact fresh item (List.mem_filter.1 member).1

theorem Grown.concat {before brought after : List String} (grown : Grown before brought after) {item : String}
    (member : item ∈ brought) : Grown before brought (after ++ [item]) := by
  obtain ⟨kept, added, rfl, sublist, fresh⟩ := grown
  refine ⟨kept, added ++ [item], List.append_assoc .., sublist, ?_⟩
  intro other present
  rcases List.mem_append.1 present with old | new
  · exact fresh other old
  · exact List.mem_singleton.1 new ▸ member

/-- A step that leaves out elements, or adds its item, lets the list grow. -/
theorem grown_foldl {step : List String → String → List String} {before brought : List String}
    (grows : ∀ {after item}, Grown before brought after → item ∈ brought → Grown before brought (step after item))
    {items after : List String} (grown : Grown before brought after) (known : ∀ item ∈ items, item ∈ brought) :
    Grown before brought (items.foldl step after) := by
  induction items generalizing after with
  | nil => exact grown
  | cons item rest ih =>
    rw [List.foldl_cons]
    exact ih (grows grown (known item List.mem_cons_self))
      fun other member => known other (List.mem_cons_of_mem _ member)

theorem grown_add {before brought after : List String} {item : String} (grown : Grown before brought after)
    (member : item ∈ brought) : Grown before brought (add after item) := by
  unfold add
  split
  · exact grown
  · exact grown.concat member

theorem grown_toggle {before brought after : List String} {item : String} (grown : Grown before brought after)
    (member : item ∈ brought) : Grown before brought (toggle after item) := by
  unfold toggle
  split
  · exact grown.filter _
  · exact grown.concat member

theorem grown_change (items : List String) (made : Change) : Grown items made.brought (change items made).2 := by
  have all : Grown items made.brought items := grown_of_sublist (List.Sublist.refl items) _
  cases made with
  | add item => exact grown_add all (List.mem_singleton.2 rfl)
  | discard item | subtract operand => exact all.filter _
  | remove item =>
    rw [change]
    split
    · exact all.filter _
    · exact all
  | pop =>
    cases items with
    | nil => exact all
    | cons item rest => exact grown_of_sublist (List.sublist_cons_self item rest) _
  | clear => exact grown_of_sublist (List.nil_sublist items) _
  | unite operand => exact grown_foldl grown_add all fun _ member => member
  | symmetric operand =>
    cases operand with
    | list others => exact all
    | folded other => exact grown_foldl grown_toggle all fun _ member => member
    | exact others => exact grown_foldl grown_toggle all fun _ member => member

/-- Texts of different classes are toggled without regard to one another. -/
theorem foldl_toggle {items others : List String} (distinct : (foldedItems others).Nodup) :
    others.foldl toggle items = items.filter (outside others) ++ others.filter (outside items) := by
  induction others generalizing items with
  | nil => exact ((List.append_nil _).trans (List.filter_eq_self.2 fun _ _ => rfl)).symm
  | cons other rest ih =>
    rw [foldedItems_cons, List.nodup_cons] at distinct
    have apart {later : String} (member : later ∈ rest) : lower later ≠ lower other := by
      intro same
      exact distinct.1 (same ▸ List.mem_map_of_mem member)
    -- The rest is of other classes than `other`, so toggling `other` first does not count for it.
    rw [List.foldl_cons, ih distinct.2, toggle]
    split
    · rename_i present
      have out : ¬ outside items other = true := fun outside => outside_eq_true.1 outside present
      rw [List.filter_cons_of_neg out, List.filter_filter]
      congr 1
      · exact List.filter_congr fun item _ => (outside_cons other rest item).symm
      · exact List.filter_congr fun later member => outside_filter_apartFrom (apart member) items
    · rename_i absent
      rw [List.filter_cons_of_pos (outside_eq_true.2 absent), List.filter_append,
        List.filter_cons_of_pos (outside_eq_true.2 distinct.1), List.append_assoc]
      congr 1
      · refine List.filter_congr fun item member => ?_
        have kept : apartFrom other item = true := by
          apply apartFrom_eq_true.2
          intro same
          exact absent (same ▸ List.mem_map_of_mem member)
        rw [outside_cons, kept, Bool.and_true]
      · refine congrArg _ (List.filter_congr fun later member => ?_)
        rw [outside_concat, apartFrom_eq_true.2 (apart member), Bool.and_true]

end Items

/-! ### Sets change as their spellings do -/

namespace Set

/-- `set.change made` is the answer to the change `made`, and the set after it. -/
def change (set : Set) : Change → Except Fault (Option String) × Set
  | .add item => settled set ((set.put (Value.text item)).map fun next => (none, next))
  | .discard item => settled set ((set.discard (Value.text item)).map fun next => (none, next))
  | .remove item => settled set ((set.remove (.text item)).map fun next => (none, next))
  | .pop => settled set (set.takeFirst.map fun (item, next) => (some item, next))
  | .clear => (.ok none, set.clear)
  | .unite operand => (.ok none, set.unite operand)
  | .subtract operand => (.ok none, set.subtract operand)
  | .symmetric operand => settled set ((set.symmetric operand).map fun next => (none, next))

theorem items_toggle (set : Set) (item : String) : (set.toggle item).items = Items.toggle set.items item := by
  unfold toggle Items.toggle
  by_cases present : set.has item = true
  · rw [if_pos present, if_pos ((set.has_iff item).1 present), items_erase]
  · have absent := mt (set.has_iff item).2 present
    rw [if_neg present, if_neg absent, items_insert, if_neg absent]

theorem items_toggleAll (set : Set) (items : List String) :
    (set.toggleAll items).items = items.foldl Items.toggle set.items := by
  induction items generalizing set with
  | nil => rfl
  | cons item rest ih =>
    rw [List.foldl_cons, ← items_toggle]
    exact ih (set.toggle item)

theorem items_foldl_insert (set : Set) (items : List String) :
    (set.insertAll items).items = items.foldl Items.add set.items := by
  induction items generalizing set with
  | nil => rfl
  | cons item rest ih =>
    rw [List.foldl_cons, Items.add, ← items_insert]
    exact ih (set.insert item)

theorem items_eraseAll (set : Set) (items : List String) :
    (set.eraseAll items).items = set.items.filter (outside items) := by
  induction items generalizing set with
  | nil => exact (List.filter_eq_self.2 fun _ _ => rfl).symm
  | cons item rest ih =>
    rw [eraseAll, List.foldl_cons]
    refine (ih (set.erase item)).trans ?_
    rw [items_erase, List.filter_filter]
    exact List.filter_congr fun other _ => (outside_cons item rest other).symm

theorem seen_change (set : Set) (made : Change) : seen items (set.change made) = Items.change set.items made := by
  cases made with
  | add item => exact Prod.ext rfl (set.items_insert item)
  | discard item => exact Prod.ext rfl (set.items_erase item)
  | remove item =>
    have present := set.has_iff item
    rw [change, remove, Items.change]
    change seen items (settled set (Except.map _ (if set.has item = true then _ else _))) = _
    by_cases member : lower item ∈ foldedItems set.items
    · rw [if_pos (present.2 member), if_pos member]
      exact Prod.ext rfl (set.items_erase item)
    · rw [if_neg (mt present.1 member), if_neg member]
      rfl
  | pop =>
    rw [change, takeFirst, Items.change.eq_def]
    cases first : set.items with
    | nil => exact Prod.ext rfl first
    | cons item rest => exact Prod.ext rfl (items_erase_first first)
  | clear => exact Prod.ext rfl set.items_clear
  | unite operand => exact Prod.ext rfl (set.items_foldl_insert operand.texts)
  | subtract operand => exact Prod.ext rfl (set.items_eraseAll operand.texts)
  | symmetric operand =>
    cases operand with
    | list others => rfl
    | folded other => exact Prod.ext rfl (set.items_toggleAll other.items)
    | exact others => exact Prod.ext rfl (set.items_toggleAll others)

end Set

end AssemblyInfo.Folded
