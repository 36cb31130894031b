/-!
# Stores

Contents under keys of which no two are the same, in the order in which the keys came in. A content
that is replaced keeps its place.
-/

namespace AssemblyInfo.Folded

variable {κ β : Type} [DecidableEq κ]

/-- `putSlot key content slots` replaces the content under `key`, or adds it at the end. -/
def putSlot (key : κ) (content : β) : List (κ × β) → List (κ × β)
  | [] => [(key, content)]
  | (present, old) :: rest =>
    if present = key then (present, content) :: rest else (present, old) :: putSlot key content rest

theorem keys_putSlot (key : κ) (content : β) (slots : List (κ × β)) :
    (putSlot key content slots).map Prod.fst =
      if key ∈ slots.map Prod.fst then slots.map Prod.fst else slots.map Prod.fst ++ [key] := by
  induction slots with
  | nil => simp [putSlot]
  | cons slot rest ih =>
    obtain ⟨present, old⟩ := slot
    rw [putSlot]
    by_cases same : present = key
    · simp [same]
    · have other : key ≠ present := fun h => same h.symm
      rw [if_neg same, List.map_cons, List.map_cons, ih]
      by_cases member : key ∈ rest.map Prod.fst <;> simp [member, other]

theorem mem_putSlot {key : κ} {content : β} {slots : List (κ × β)} {slot : κ × β}
    (member : slot ∈ putSlot key content slots) : slot = (key, content) ∨ slot ∈ slots := by
  induction slots with
  | nil => exact Or.inl (List.mem_singleton.1 member)
  | cons first rest ih =>
    obtain ⟨present, old⟩ := first
    rw [putSlot] at member
    split at member
    · rename_i same
      rcases List.mem_cons.1 member with here | later
      · exact Or.inl (same ▸ here)
      · exact Or.inr (List.mem_cons_of_mem _ later)
    · rcases List.mem_cons.1 member with here | later
      · exact Or.inr (List.mem_cons.2 (Or.inl here))
      · exact (ih later).imp_right (List.mem_cons_of_mem _)

/-- Contents under keys. -/
structure Store (κ β : Type) where
  slots : List (κ × β)
  distinct : (slots.map Prod.fst).Nodup

namespace Store

/-- The store without contents. -/
def empty : Store κ β := ⟨[], .nil⟩

/-- `store.find? key` is the content under `key`, if there is one. -/
def find? (store : Store κ β) (key : κ) : Option β :=
  (store.slots.find? fun slot => slot.1 = key).map Prod.snd

/-- `store.put key content` replaces the content under `key`, or adds it at the end. -/
def put (store : Store κ β) (key : κ) (content : β) : Store κ β :=
  ⟨putSlot key content store.slots, by
    have distinct := store.distinct
    rw [keys_putSlot]
    split
    · exact distinct
    · rename_i absent
      refine List.nodup_append.2 ⟨distinct, by simp, ?_⟩
      intro left member right found same
      rw [List.mem_singleton] at found
      exact absent (found ▸ same ▸ member)⟩

/-- `store.remove key` removes the content under `key`. -/
def remove (store : Store κ β) (key : κ) : Store κ β :=
  ⟨store.slots.filter fun slot => slot.1 ≠ key, store.distinct.sublist (List.filter_sublist.map _)⟩

theorem mem_of_find? {store : Store κ β} {key : κ} {content : β} (found : store.find? key = some content) :
    (key, content) ∈ store.slots := by
  unfold find? at found
  obtain ⟨slot, here, rfl⟩ := Option.map_eq_some_iff.1 found
  obtain rfl : slot.1 = key := by simpa using List.find?_some here
  exact List.mem_of_find?_eq_some here

theorem length_remove_lt {store : Store κ β} {slot : κ × β} (member : slot ∈ store.slots) :
    (store.remove slot.1).slots.length < store.slots.length := by
  apply List.length_filter_lt_length_iff_exists.2
  exact ⟨slot, member, by simp⟩

end Store

end AssemblyInfo.Folded
