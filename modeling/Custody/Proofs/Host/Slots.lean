import Mathlib.Data.List.Basic
import Custody.Host.Table

/-!
# Slots of a table

A sound table lists each free slot once and counts its entries right. Insertion puts an entry at a
slot that had none, removal frees the slot of an entry, and both leave all other slots alone. The
entries are compared up to order, because a freed slot may come back anywhere.
-/

set_option autoImplicit false

namespace Custody.Host.Table

variable {α : Type}

def entries (t : Table α) : List α := t.slots.toList.filterMap id

theorem length_entries_le (t : Table α) : t.entries.length ≤ t.slots.size := by
  rw [← Array.length_toList]
  exact List.length_filterMap_le _ _

/-- The free slots are the slots without entry, and the counts are right. -/
structure Sound (t : Table α) : Prop where
  freed_nodup : t.freed.Nodup
  mem_freed_iff : ∀ slot, slot ∈ t.freed ↔ t.slots[slot]? = some none
  live_eq : t.live = t.entries.length
  live_le : t.live ≤ t.capacity

theorem sound_empty (capacity : Nat) : (empty capacity : Table α).Sound where
  freed_nodup := List.nodup_nil
  mem_freed_iff slot := by simp [empty]
  live_eq := rfl
  live_le := Nat.zero_le _

@[simp]
theorem get?_empty (capacity slot : Nat) : (empty capacity : Table α).get? slot = none := by
  simp [get?, empty]

/-! ## Changing one slot -/

private theorem filterMap_cons_id (entry : Option α) (rest : List (Option α)) :
    (entry :: rest).filterMap id = entry.toList ++ rest.filterMap id := by
  cases entry <;> rfl

private theorem filterMap_set_perm (slots : List (Option α)) (slot : Nat) {old : Option α}
    (new : Option α) (present : slots[slot]? = some old) :
    (old.toList ++ (slots.set slot new).filterMap id).Perm
      (new.toList ++ slots.filterMap id) := by
  induction slots generalizing slot with
  | nil => simp at present
  | cons first rest ih =>
      cases slot with
      | zero =>
          have same : first = old := by simpa using present
          subst same
          simp only [List.set_cons_zero, filterMap_cons_id]
          exact List.perm_append_comm_assoc _ _ _
      | succ slot =>
          have swapped := ih slot (by simpa using present)
          simp only [List.set_cons_succ, filterMap_cons_id]
          calc
            List.Perm _ (first.toList ++ (old.toList ++ (rest.set slot new).filterMap id)) :=
              List.perm_append_comm_assoc _ _ _
            List.Perm _ (first.toList ++ (new.toList ++ rest.filterMap id)) :=
              swapped.append_left _
            List.Perm _ _ := List.perm_append_comm_assoc _ _ _

theorem slot_lt (t : Table α) {slot : Nat} {entry : Option α}
    (present : t.slots[slot]? = some entry) : slot < t.slots.size :=
  (Array.getElem?_eq_some_iff.1 present).1

theorem get?_eq_some_iff (t : Table α) (slot : Nat) (entry : α) :
    t.get? slot = some entry ↔ t.slots[slot]? = some (some entry) := by
  simp [get?, Option.join_eq_some_iff]

/-! ## Insertion -/

structure Inserted (t : Table α) (entry : α) (slot : Nat) (after : Table α) : Prop where
  sound : after.Sound
  room : t.live < t.capacity
  absent : t.get? slot = none
  get?_eq : ∀ other, after.get? other = if other = slot then some entry else t.get? other
  entries_perm : after.entries.Perm (entry :: t.entries)
  live_eq : after.live = t.live + 1
  capacity_eq : after.capacity = t.capacity

private theorem inserted_freed {t : Table α} (sound : t.Sound) (entry : α) {slot : Nat}
    {freed : List Nat} (free : t.freed = slot :: freed) (room : t.live < t.capacity) :
    t.Inserted entry slot
      { t with slots := t.slots.setIfInBounds slot (some entry), freed, live := t.live + 1 } := by
  have empty : t.slots[slot]? = some none := (sound.mem_freed_iff slot).1 (by simp [free])
  have inside : slot < t.slots.size := slot_lt t empty
  have nodup : slot ∉ freed ∧ freed.Nodup := List.nodup_cons.1 (free ▸ sound.freed_nodup)
  have entries := filterMap_set_perm t.slots.toList slot (some entry) (by simpa using empty)
  have entries : ((t.slots.setIfInBounds slot (some entry)).toList.filterMap id).Perm
      (entry :: t.entries) := by
    simpa [Table.entries] using entries
  refine ⟨⟨nodup.2, ?_, ?_, room⟩, room, by simp [get?, empty], ?_, entries, rfl, rfl⟩
  · intro other
    have before := sound.mem_freed_iff other
    by_cases same : other = slot
    · subst same
      simp [nodup.1, inside]
    · rw [free, List.mem_cons] at before
      simpa [same, Array.getElem?_setIfInBounds, Ne.symm same] using before
  · rw [Table.entries, entries.length_eq, List.length_cons, sound.live_eq]
  · intro other
    by_cases same : other = slot
    · subst same
      simp [get?, inside]
    · simp [get?, same, Ne.symm same]

private theorem inserted_pushed {t : Table α} (sound : t.Sound) (entry : α)
    (full : t.freed = []) (room : t.live < t.capacity) :
    t.Inserted entry t.slots.size
      { t with slots := t.slots.push (some entry), live := t.live + 1 } := by
  have entries : ((t.slots.push (some entry)).toList.filterMap id).Perm (entry :: t.entries) := by
    simp [Table.entries]
  refine ⟨⟨sound.freed_nodup, ?_, ?_, room⟩, room, by simp [get?], ?_, entries, rfl, rfl⟩
  · intro other
    have before := sound.mem_freed_iff other
    rw [Array.getElem?_push]
    by_cases same : other = t.slots.size
    · simp [same, full]
    · simpa [same] using before
  · rw [Table.entries, entries.length_eq, List.length_cons, sound.live_eq]
  · intro other
    by_cases same : other = t.slots.size <;> simp [get?, Array.getElem?_push, same]

theorem inserted_of_insert {t after : Table α} (sound : t.Sound) {entry : α} {slot : Nat}
    (inserted : t.insert entry = .ok (slot, after)) : t.Inserted entry slot after := by
  unfold insert at inserted
  split at inserted
  · cases inserted
  · rename_i limited
    have room : t.live < t.capacity := Nat.lt_of_not_le limited
    split at inserted
    · rename_i first freed free
      cases inserted
      exact inserted_freed sound entry free room
    · rename_i full
      split at inserted
      · cases inserted
        exact inserted_pushed sound entry full room
      · cases inserted

theorem live_eq_size {t : Table α} (sound : t.Sound) (full : t.freed = []) :
    t.live = t.slots.size := by
  rw [sound.live_eq, entries, ← Array.length_toList, List.filterMap_length_eq_length]
  intro entry member
  obtain ⟨slot, present⟩ := List.mem_iff_getElem?.1 member
  cases entry with
  | some entry => rfl
  | none =>
      have free : slot ∈ t.freed := (sound.mem_freed_iff slot).2 (by simpa using present)
      simp [full] at free

/-- An insertion fails only when the table has as many entries as it may hold, or one at every slot
that there can be. -/
theorem full_of_insert {t : Table α} (sound : t.Sound) {entry : α} {fault : Fault}
    (refused : t.insert entry = .error fault) :
    fault = .tableFull t.capacity ∨
      slotLimit < t.capacity ∧ fault = .table "resource table has no free keys" := by
  unfold insert at refused
  split at refused
  · cases refused
    exact .inl rfl
  · rename_i limited
    split at refused
    · cases refused
    · rename_i full
      have occupied := live_eq_size sound full
      split at refused
      · cases refused
      · cases refused
        exact .inr ⟨by omega, rfl⟩

/-! ## Removal -/

structure Removed (t : Table α) (slot : Nat) (entry : α) (after : Table α) : Prop where
  sound : after.Sound
  present : t.get? slot = some entry
  get?_eq : ∀ other, after.get? other = if other = slot then none else t.get? other
  entries_perm : t.entries.Perm (entry :: after.entries)
  live_eq : t.live = after.live + 1
  capacity_eq : after.capacity = t.capacity
  size_eq : after.slots.size = t.slots.size

private theorem removed_freed {t : Table α} (sound : t.Sound) {slot : Nat} {entry : α}
    (present : t.get? slot = some entry) :
    t.Removed slot entry
      { t with
        slots := t.slots.setIfInBounds slot none
        freed := slot :: t.freed
        live := t.live - 1 } := by
  have occupied := (t.get?_eq_some_iff slot entry).1 present
  have inside : slot < t.slots.size := slot_lt t occupied
  have fresh : slot ∉ t.freed := fun free => by
    simpa [occupied] using (sound.mem_freed_iff slot).1 free
  have entries := filterMap_set_perm t.slots.toList slot none (by simpa using occupied)
  have entries : t.entries.Perm (entry :: (t.slots.setIfInBounds slot none).toList.filterMap id) :=
    List.Perm.symm (by simpa [Table.entries] using entries)
  have live : t.live = ((t.slots.setIfInBounds slot none).toList.filterMap id).length + 1 := by
    rw [sound.live_eq, entries.length_eq, List.length_cons]
  have count : t.live - 1 = ((t.slots.setIfInBounds slot none).toList.filterMap id).length := by
    rw [live, Nat.add_sub_cancel]
  refine ⟨⟨List.nodup_cons.2 ⟨fresh, sound.freed_nodup⟩, ?_, count, ?_⟩, present, ?_, entries, ?_, rfl,
    by simp⟩
  · intro other
    have before := sound.mem_freed_iff other
    by_cases same : other = slot
    · subst same
      simp [inside]
    · simpa [same, Array.getElem?_setIfInBounds, Ne.symm same] using before
  · exact Nat.le_trans (Nat.sub_le _ _) sound.live_le
  · intro other
    by_cases same : other = slot
    · subst same
      simp [get?, inside]
    · simp [get?, same, Ne.symm same]
  · rw [count, live]

theorem removed_of_get? {t : Table α} (sound : t.Sound) {slot : Nat} {entry : α}
    (present : t.get? slot = some entry) :
    ∃ after, t.remove slot = .ok (entry, after) ∧ t.Removed slot entry after :=
  ⟨_, by rw [remove, present], removed_freed sound present⟩

end Custody.Host.Table
