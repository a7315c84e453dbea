import Custody.Guest.Heap

/-!
# Places of a heap

What a look-up finds after each operation on a heap: the operation changes its own place and no
other, and a new object takes a place where nothing is.
-/

set_option autoImplicit false

namespace Custody

namespace Guest.Heap

variable {ρ : Type}

def next (heap : Heap ρ) : Nat := heap.places.next

theorem get?_next (heap : Heap ρ) : heap.get? heap.next = none :=
  heap.places.get?_next

theorem lt_next {heap : Heap ρ} {id : Nat} {r : Registration ρ} (present : heap.get? id = some r) :
    id < heap.next := by
  obtain ⟨front, back, split, -⟩ := List.lookup_eq_some_iff.1 present
  have member : id ∈ heap.places.entries.map Prod.fst := by simp [split]
  exact List.rel_of_pairwise_cons heap.places.descending member

theorem add_fst (heap : Heap ρ) (mode : Mode) (object : ρ) :
    (heap.add mode object).1 = heap.next := rfl

theorem get?_add (heap : Heap ρ) (mode : Mode) (object : ρ) (id : Nat) :
    (heap.add mode object).2.get? id =
      if id = heap.next then some { handle := .invalid mode, object } else heap.get? id := by
  by_cases same : id = heap.next
  · subst same
    rw [if_pos rfl]
    exact heap.places.get?_add_next _
  · rw [if_neg same]
    exact heap.places.get?_add_of_ne _ same

theorem get?_put {heap : Heap ρ} {id : Nat} {old : Registration ρ} (present : heap.get? id = some old)
    (r : Registration ρ) (other : Nat) :
    (heap.put id r).get? other = if other = id then some r else heap.get? other := by
  by_cases same : other = id
  · subst same
    rw [if_pos rfl]
    exact heap.places.get?_replace_self r present
  · rw [if_neg same]
    exact heap.places.get?_replace_of_ne r same

theorem put_put (heap : Heap ρ) (id : Nat) (old r : Registration ρ) :
    (heap.put id old).put id r = heap.put id r :=
  congrArg mk (heap.places.replace_replace id old r)

theorem attach_eq {heap : Heap ρ} {id : Nat} {r : Registration ρ} (present : heap.get? id = some r)
    (h : Handle) : heap.attach id h = heap.put id { r with handle := h } := by
  rw [attach, present]

theorem get?_attach_add (heap : Heap ρ) (mode : Mode) (object : ρ) (h : Handle) (id : Nat) :
    ((heap.add mode object).2.attach heap.next h).get? id =
      if id = heap.next then some { handle := h, object } else heap.get? id := by
  have added : (heap.add mode object).2.get? heap.next = some _ :=
    (get?_add ..).trans (if_pos rfl)
  rw [attach_eq added, get?_put added, get?_add]
  split <;> rfl

theorem takeHandle_eq {heap : Heap ρ} {id : Nat} {r : Registration ρ}
    (present : heap.get? id = some r) :
    heap.takeHandle id = some (r.handle, heap.put id { r with handle := .invalid r.mode }) := by
  rw [takeHandle, present]

theorem remove_of_get? {heap : Heap ρ} {id : Nat} {r : Registration ρ}
    (present : heap.get? id = some r) :
    ∃ after, heap.remove id = some (r.object, after) ∧
      ∀ other, after.get? other = if other = id then none else heap.get? other := by
  refine ⟨{ places := heap.places.erase id }, by rw [remove, present], ?_⟩
  intro other
  by_cases same : other = id
  · subst same
    rw [if_pos rfl]
    exact heap.places.get?_erase_self other
  · rw [if_neg same]
    exact heap.places.get?_erase_of_ne same

theorem reattach_eq {heap : Heap ρ} {id : Nat} {r : Registration ρ} {h : Handle}
    (present : heap.get? id = some r) (valid : h.isValid = true) (detached : r.isAttached = false) :
    heap.reattach h (some id) = .ok (heap.put id { r with handle := h }) := by
  simp [reattach, present, valid, detached, attach_eq present]

end Guest.Heap

end Custody
