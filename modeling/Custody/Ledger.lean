/-!
# Ledgers

A ledger hands out numbers for what is entered into it. Entries can be changed and struck out, but a
number is never used again: every number in use is below the next one. Looking up sees the latest
change, and a change under one number leaves the others alone.
-/

set_option autoImplicit false

namespace Custody

/-- Numbered entries, the newest in front. -/
structure Ledger (α : Type) where
  next : Nat
  entries : List (Nat × α)
  descending : (next :: entries.map Prod.fst).Pairwise (· > ·)

namespace Ledger

variable {α : Type}

def empty : Ledger α := { next := 0, entries := [], descending := by simp }

instance : Inhabited (Ledger α) := ⟨empty⟩

def size (l : Ledger α) : Nat := l.entries.length

def get? (l : Ledger α) (n : Nat) : Option α := l.entries.lookup n

def add (l : Ledger α) (value : α) : Nat × Ledger α :=
  (l.next,
    { next := l.next + 1
      entries := (l.next, value) :: l.entries
      descending := by
        refine List.pairwise_cons.2 ⟨?_, l.descending⟩
        intro n member
        rcases List.mem_cons.1 member with rfl | old
        · exact Nat.lt_succ_self _
        · exact Nat.lt_succ_of_lt (List.rel_of_pairwise_cons l.descending old) })

def replaceIn (n : Nat) (value : α) : List (Nat × α) → List (Nat × α)
  | [] => []
  | (k, kept) :: rest => if k = n then (k, value) :: rest else (k, kept) :: replaceIn n value rest

private theorem numbers_replaceIn (n : Nat) (value : α) (entries : List (Nat × α)) :
    (replaceIn n value entries).map Prod.fst = entries.map Prod.fst := by
  induction entries with
  | nil => rfl
  | cons entry rest ih =>
      obtain ⟨k, kept⟩ := entry
      by_cases same : k = n <;> simp [replaceIn, same, ih]

private theorem replaceIn_replaceIn (n : Nat) (old value : α) (entries : List (Nat × α)) :
    replaceIn n value (replaceIn n old entries) = replaceIn n value entries := by
  induction entries with
  | nil => rfl
  | cons entry rest ih =>
      obtain ⟨k, kept⟩ := entry
      by_cases same : k = n <;> simp [replaceIn, same, ih]

/-- Replaces the entry under a number, if there is one. -/
def replace (l : Ledger α) (n : Nat) (value : α) : Ledger α :=
  { next := l.next
    entries := replaceIn n value l.entries
    descending := by
      rw [numbers_replaceIn]
      exact l.descending }

def erase (l : Ledger α) (n : Nat) : Ledger α :=
  { next := l.next
    entries := l.entries.eraseP (·.1 == n)
    descending := l.descending.sublist (.cons_cons _ (List.eraseP_sublist.map _)) }

theorem replace_replace (l : Ledger α) (n : Nat) (old value : α) :
    (l.replace n old).replace n value = l.replace n value := by
  simp only [replace, replaceIn_replaceIn]

/-! ## What a look-up sees -/

@[simp]
theorem get?_empty (n : Nat) : (empty : Ledger α).get? n = none := rfl

theorem get?_add_next (l : Ledger α) (value : α) :
    (l.add value).2.get? l.next = some value := by
  simp [get?, add]

theorem get?_add_of_ne (l : Ledger α) (value : α) {n : Nat} (other : n ≠ l.next) :
    (l.add value).2.get? n = l.get? n := by
  simp [get?, add, List.lookup_cons, beq_false_of_ne other]

private theorem lookup_replaceIn_self (entries : List (Nat × α)) {n : Nat} {old : α} (value : α)
    (present : entries.lookup n = some old) :
    (replaceIn n value entries).lookup n = some value := by
  induction entries with
  | nil => simp at present
  | cons entry rest ih =>
      obtain ⟨k, kept⟩ := entry
      by_cases same : n = k
      · simp [replaceIn, same]
      · simp only [List.lookup_cons, beq_false_of_ne same] at present
        simp only [replaceIn, Ne.symm same, if_false, List.lookup_cons, beq_false_of_ne same]
        exact ih present

private theorem lookup_replaceIn_of_ne (entries : List (Nat × α)) {n m : Nat} (value : α)
    (other : m ≠ n) : (replaceIn n value entries).lookup m = entries.lookup m := by
  induction entries with
  | nil => rfl
  | cons entry rest ih =>
      obtain ⟨k, kept⟩ := entry
      by_cases same : k = n
      · subst same
        simp [replaceIn, List.lookup_cons, beq_false_of_ne other]
      · simp [replaceIn, same, List.lookup_cons, ih]

private theorem lookup_eraseP_of_ne (entries : List (Nat × α)) {n m : Nat} (other : m ≠ n) :
    (entries.eraseP (·.1 == n)).lookup m = entries.lookup m := by
  induction entries with
  | nil => rfl
  | cons entry rest ih =>
      obtain ⟨k, kept⟩ := entry
      by_cases struck : k = n
      · subst struck
        simp [List.lookup_cons, beq_false_of_ne other]
      · simp [struck, List.lookup_cons, ih]

private theorem lookup_eraseP_self (entries : List (Nat × α)) (n : Nat)
    (distinct : (entries.map Prod.fst).Nodup) :
    (entries.eraseP (·.1 == n)).lookup n = none := by
  induction entries with
  | nil => rfl
  | cons entry rest ih =>
      obtain ⟨k, kept⟩ := entry
      obtain ⟨absent, distinct⟩ := List.nodup_cons.1 distinct
      by_cases struck : k = n
      · subst struck
        rw [List.eraseP_cons_of_pos (by simp), List.lookup_eq_none_iff]
        intro entry member
        refine bne_iff_ne.2 fun same => absent ?_
        exact List.mem_map.2 ⟨entry, member, same.symm⟩
      · simp [struck, List.lookup_cons, beq_false_of_ne (Ne.symm struck), ih distinct]

theorem numbers_nodup (l : Ledger α) : (l.entries.map Prod.fst).Nodup := by
  have descending := (List.pairwise_cons.1 l.descending).2
  exact descending.imp fun below => Nat.ne_of_gt below

theorem get?_next (l : Ledger α) : l.get? l.next = none := by
  rw [get?, List.lookup_eq_none_iff]
  intro entry member
  have below : l.next > entry.1 :=
    List.rel_of_pairwise_cons l.descending (List.mem_map.2 ⟨entry, member, rfl⟩)
  exact bne_iff_ne.2 (Nat.ne_of_gt below)

theorem get?_erase_self (l : Ledger α) (n : Nat) : (l.erase n).get? n = none :=
  lookup_eraseP_self l.entries n l.numbers_nodup

theorem get?_erase_of_ne (l : Ledger α) {n m : Nat} (other : m ≠ n) :
    (l.erase n).get? m = l.get? m :=
  lookup_eraseP_of_ne l.entries other

theorem get?_replace_self (l : Ledger α) {n : Nat} {old : α} (value : α)
    (present : l.get? n = some old) : (l.replace n value).get? n = some value :=
  lookup_replaceIn_self l.entries value present

theorem get?_replace_of_ne (l : Ledger α) {n m : Nat} (value : α) (other : m ≠ n) :
    (l.replace n value).get? m = l.get? m :=
  lookup_replaceIn_of_ne l.entries value other

/-! ## How many entries there are -/

theorem size_add (l : Ledger α) (value : α) : (l.add value).2.size = l.size + 1 := rfl

theorem size_replace (l : Ledger α) (n : Nat) (value : α) : (l.replace n value).size = l.size := by
  have same := congrArg List.length (numbers_replaceIn n value l.entries)
  simpa [size, replace] using same

theorem size_erase (l : Ledger α) {n : Nat} {value : α} (present : l.get? n = some value) :
    l.size = (l.erase n).size + 1 := by
  obtain ⟨front, back, split, -⟩ := List.lookup_eq_some_iff.1 present
  have member : (n, value) ∈ l.entries := by simp [split]
  have fewer := List.length_eraseP_of_mem (p := fun entry => entry.1 == n) member (by simp)
  have one : 0 < l.entries.length := List.length_pos_of_mem member
  simp only [size, erase]
  omega

end Ledger

end Custody
