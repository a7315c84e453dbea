import Mathlib.Data.Finmap
import Custody.Proofs.Host.Slots

/-!
# A table is a bounded map that remembers its free slots

A `Directory` is a finite map from slots to entries that holds a bounded number of them. Beside the map
it has only the stack of the slots that were given back and the number of slots ever used. A table
keeps its entries in an array and counts them apart from it. Both answer the same to whatever they are
asked, so the count of a table is right, and its slots are as dense as they can be: the number of slots
ever used is the largest number of entries there was at one time.
-/

set_option autoImplicit false

namespace Custody.Host

variable {α : Type}

inductive Query (α : Type) where
  | insert (entry : α)
  | get (slot : Nat)
  | remove (slot : Nat)

inductive Reply (α : Type) where
  | slot (slot : Nat)
  | entry (entry : α)
  | refused (fault : Fault)

/-! ## Tables -/

namespace Table

def ask (t : Table α) : Query α → Reply α × Table α
  | .insert entry =>
      match t.insert entry with
      | .ok (slot, after) => (.slot slot, after)
      | .error fault => (.refused fault, t)
  | .get slot =>
      match t.get slot with
      | .ok entry => (.entry entry, t)
      | .error fault => (.refused fault, t)
  | .remove slot =>
      match t.remove slot with
      | .ok (entry, after) => (.entry entry, after)
      | .error fault => (.refused fault, t)

theorem ask_refused (t : Table α) {query : Query α} {fault : Fault}
    (refused : (t.ask query).1 = .refused fault) : (t.ask query).2 = t := by
  cases query with
  | insert entry =>
      simp only [ask] at refused ⊢
      cases done : t.insert entry with
      | ok result =>
          rw [done] at refused
          cases refused
      | error fault => rfl
  | get slot =>
      simp only [ask]
      cases t.get slot <;> rfl
  | remove slot =>
      simp only [ask] at refused ⊢
      cases done : t.remove slot with
      | ok result =>
          rw [done] at refused
          cases refused
      | error fault => rfl

def asked (t : Table α) (queries : List (Query α)) : Table α :=
  queries.foldl (fun t query => (t.ask query).2) t

def replies (t : Table α) : List (Query α) → List (Reply α)
  | [] => []
  | query :: rest => (t.ask query).1 :: (t.ask query).2.replies rest

/-- The largest number of entries there was at one time. -/
def peak (t : Table α) : List (Query α) → Nat
  | [] => t.entries.length
  | query :: rest => max t.entries.length ((t.ask query).2.peak rest)

end Table

/-! ## Directories -/

structure Directory (α : Type) where
  entries : Finmap fun _ : Nat => α
  /-- The slots that were given back and not used again, the last one in front. -/
  freed : List Nat
  used : Nat
  capacity : Nat

namespace Directory

def empty (capacity : Nat) : Directory α := { entries := ∅, freed := [], used := 0, capacity }

def size (d : Directory α) : Nat := d.entries.keys.card

/-- The slot for the next entry: the one given back last, or else the first that was never used. -/
def nextSlot (d : Directory α) : Nat := d.freed.head?.getD d.used

def put (d : Directory α) (entry : α) : Directory α :=
  { d with
    entries := d.entries.insert d.nextSlot entry
    freed := d.freed.tail
    used := if d.freed = [] then d.used + 1 else d.used }

def ask (d : Directory α) : Query α → Reply α × Directory α
  | .insert entry =>
      if d.size = d.capacity then (.refused (.tableFull d.capacity), d)
      else if d.nextSlot < Table.slotLimit then (.slot d.nextSlot, d.put entry)
      else (.refused (.table "resource table has no free keys"), d)
  | .get slot =>
      match d.entries.lookup slot with
      | some entry => (.entry entry, d)
      | none => (.refused (.unknownHandle (.slot slot)), d)
  | .remove slot =>
      match d.entries.lookup slot with
      | some entry =>
          (.entry entry, { d with entries := d.entries.erase slot, freed := slot :: d.freed })
      | none => (.refused (.unknownHandle (.slot slot)), d)

def asked (d : Directory α) (queries : List (Query α)) : Directory α :=
  queries.foldl (fun d query => (d.ask query).2) d

def replies (d : Directory α) : List (Query α) → List (Reply α)
  | [] => []
  | query :: rest => (d.ask query).1 :: (d.ask query).2.replies rest

end Directory

/-! ## A table and its directory -/

/-- A table and a directory that hold the same. -/
structure Models (t : Table α) (d : Directory α) : Prop where
  sound : t.Sound
  numbered : t.slots.size ≤ Table.slotLimit
  lookup_eq : ∀ slot, d.entries.lookup slot = t.get? slot
  size_eq : d.size = t.live
  freed_eq : d.freed = t.freed
  used_eq : d.used = t.slots.size
  capacity_eq : d.capacity = t.capacity

theorem models_empty (capacity : Nat) : Models (Table.empty capacity : Table α) (.empty capacity) where
  sound := Table.sound_empty capacity
  numbered := Nat.zero_le _
  lookup_eq slot := by rw [Table.get?_empty]; rfl
  size_eq := rfl
  freed_eq := rfl
  used_eq := rfl
  capacity_eq := rfl

namespace Models

variable {t : Table α} {d : Directory α}

private theorem nextSlot_eq (models : Models t d) :
    d.nextSlot = t.freed.head?.getD t.slots.size := by
  rw [Directory.nextSlot, models.freed_eq, models.used_eq]

private theorem full_iff (models : Models t d) : d.size = d.capacity ↔ t.capacity ≤ t.live := by
  rw [models.size_eq, models.capacity_eq]
  have bounded := models.sound.live_le
  omega

private theorem slot_lt_of_freed (models : Models t d) {slot : Nat} {freed : List Nat}
    (free : t.freed = slot :: freed) : slot < Table.slotLimit := by
  have listed : slot ∈ t.freed := free ▸ List.mem_cons_self
  have inside := t.slot_lt ((models.sound.mem_freed_iff slot).1 listed)
  exact Nat.lt_of_lt_of_le inside models.numbered

private theorem nextSlot_lt (models : Models t d)
    (numbered : d.size < Table.slotLimit) : d.nextSlot < Table.slotLimit := by
  rw [models.nextSlot_eq]
  cases free : t.freed with
  | nil =>
      have count := Table.live_eq_size models.sound free
      rw [models.size_eq, count] at numbered
      exact numbered
  | cons slot freed => exact models.slot_lt_of_freed free

/-- What a table answers to an insertion, and its slots afterwards. -/
private theorem insert_cases (models : Models t d) (entry : α) :
    (t.capacity ≤ t.live ∧ t.insert entry = .error (.tableFull t.capacity)) ∨
    (t.live < t.capacity ∧ Table.slotLimit ≤ d.nextSlot ∧
      t.insert entry = .error (.table "resource table has no free keys")) ∨
    ∃ after, t.live < t.capacity ∧ d.nextSlot < Table.slotLimit ∧
      t.insert entry = .ok (d.nextSlot, after) ∧ after.freed = t.freed.tail ∧
      after.slots.size = if t.freed = [] then t.slots.size + 1 else t.slots.size := by
  rw [models.nextSlot_eq]
  unfold Table.insert
  by_cases full : t.capacity ≤ t.live
  · exact .inl ⟨full, if_pos full⟩
  · rw [if_neg full]
    have room : t.live < t.capacity := Nat.lt_of_not_le full
    cases free : t.freed with
    | nil =>
        by_cases numbered : t.slots.size < Table.slotLimit
        · exact .inr (.inr ⟨_, room, numbered, if_pos numbered, rfl, by simp⟩)
        · exact .inr (.inl ⟨room, Nat.le_of_not_lt numbered, if_neg numbered⟩)
    | cons slot freed =>
        exact .inr (.inr ⟨_, room, models.slot_lt_of_freed free, rfl, rfl, by simp⟩)

private theorem inserted (models : Models t d) {entry : α} {after : Table α}
    (inserted : t.Inserted entry d.nextSlot after) (numbered : d.nextSlot < Table.slotLimit)
    (freed : after.freed = t.freed.tail)
    (size : after.slots.size = if t.freed = [] then t.slots.size + 1 else t.slots.size) :
    Models after (d.put entry) where
  sound := inserted.sound
  numbered := by
    rw [size]
    split
    · rename_i none
      rw [models.nextSlot_eq, none] at numbered
      exact numbered
    · exact models.numbered
  lookup_eq slot := by
    rw [inserted.get?_eq]
    by_cases same : slot = d.nextSlot
    · rw [if_pos same, same]
      exact Finmap.lookup_insert _
    · rw [if_neg same, ← models.lookup_eq]
      exact Finmap.lookup_insert_of_ne _ same
  size_eq := by
    have absent : d.nextSlot ∉ d.entries.keys := by
      rw [Finmap.mem_keys, ← Finmap.lookup_eq_none, models.lookup_eq]
      exact inserted.absent
    have keys : (d.put entry).entries.keys = Insert.insert d.nextSlot d.entries.keys := by
      ext slot
      rw [Finset.mem_insert, Finmap.mem_keys, Finmap.mem_keys]
      exact Finmap.mem_insert
    rw [Directory.size, keys, Finset.card_insert_of_notMem absent, inserted.live_eq,
      ← models.size_eq]
    rfl
  freed_eq := by
    rw [freed, ← models.freed_eq]
    rfl
  used_eq := by
    rw [size, ← models.freed_eq, ← models.used_eq]
    rfl
  capacity_eq := models.capacity_eq.trans inserted.capacity_eq.symm

private theorem removed (models : Models t d) {slot : Nat} {entry : α} {after : Table α}
    (removed : t.Removed slot entry after) (freed : after.freed = slot :: t.freed) :
    Models after { d with entries := d.entries.erase slot, freed := slot :: d.freed } where
  sound := removed.sound
  numbered := removed.size_eq ▸ models.numbered
  lookup_eq other := by
    rw [removed.get?_eq]
    by_cases same : other = slot
    · rw [if_pos same, same]
      exact Finmap.lookup_erase _ _
    · rw [if_neg same, ← models.lookup_eq]
      exact Finmap.lookup_erase_ne same
  size_eq := by
    have present : slot ∈ d.entries.keys := by
      rw [Finmap.mem_keys, Finmap.mem_iff, models.lookup_eq]
      exact ⟨entry, removed.present⟩
    have before := models.size_eq
    rw [removed.live_eq, Directory.size] at before
    rw [Directory.size, Finmap.keys_erase, Finset.card_erase_of_mem present, before]
    rfl
  freed_eq := by rw [freed, ← models.freed_eq]
  used_eq := removed.size_eq ▸ models.used_eq
  capacity_eq := models.capacity_eq.trans removed.capacity_eq.symm

/-- Asked the same, a table and its directory answer the same and hold the same afterwards. -/
theorem ask (models : Models t d) (query : Query α) :
    (t.ask query).1 = (d.ask query).1 ∧ Models (t.ask query).2 (d.ask query).2 := by
  cases query with
  | insert entry =>
      obtain ⟨full, refused⟩ | ⟨room, unnumbered, refused⟩ |
        ⟨after, room, numbered, done, freed, size⟩ := models.insert_cases entry
      · simp only [Table.ask, Directory.ask, refused, models.full_iff.2 full, if_true]
        exact ⟨by rw [models.capacity_eq], models⟩
      · have spare : d.size ≠ d.capacity := mt models.full_iff.1 (Nat.not_le.2 room)
        simp only [Table.ask, Directory.ask, refused, if_neg spare, if_neg (Nat.not_lt.2 unnumbered)]
        exact ⟨trivial, models⟩
      · have spare : d.size ≠ d.capacity := mt models.full_iff.1 (Nat.not_le.2 room)
        have filled := Table.inserted_of_insert models.sound done
        simp only [Table.ask, Directory.ask, done, if_neg spare, if_pos numbered]
        exact ⟨trivial, models.inserted filled numbered freed size⟩
  | get slot =>
      simp only [Table.ask, Directory.ask, Table.get, models.lookup_eq]
      cases t.get? slot <;> exact ⟨rfl, models⟩
  | remove slot =>
      simp only [Table.ask, Directory.ask, models.lookup_eq]
      cases present : t.get? slot with
      | none =>
          simp only [Table.remove, present]
          exact ⟨trivial, models⟩
      | some entry =>
          obtain ⟨after, done, removed⟩ := Table.removed_of_get? models.sound present
          have freed : after.freed = slot :: t.freed := by
            rw [Table.remove, present] at done
            cases done
            rfl
          simp only [done]
          exact ⟨trivial, models.removed removed freed⟩

theorem asked (models : Models t d) (queries : List (Query α)) :
    t.replies queries = d.replies queries ∧ Models (t.asked queries) (d.asked queries) := by
  induction queries generalizing t d with
  | nil => exact ⟨rfl, models⟩
  | cons query rest ih =>
      obtain ⟨same, after⟩ := models.ask query
      obtain ⟨later, last⟩ := ih after
      exact ⟨congrArg₂ List.cons same later, last⟩

end Models

/-! ## What a slot holds -/

/-- What a query and the reply to it leave at a slot. -/
def leaves (slot : Nat) (before : Option α) : Query α × Reply α → Option α
  | (.insert entry, .slot filled) => if slot = filled then some entry else before
  | (.remove freed, .entry _) => if slot = freed then none else before
  | _ => before

/-- The entry last inserted at a slot and not removed since. -/
def lastAt (slot : Nat) (exchanges : List (Query α × Reply α)) : Option α :=
  exchanges.foldl (leaves slot) none

namespace Directory

variable (d : Directory α) (slot : Nat)

private theorem lookup_ask (query : Query α) :
    (d.ask query).2.entries.lookup slot =
      leaves slot (d.entries.lookup slot) (query, (d.ask query).1) := by
  cases query with
  | insert entry =>
      simp only [ask]
      split
      · rfl
      · split
        · by_cases same : slot = d.nextSlot
          · simp only [leaves, if_pos same]
            rw [same]
            exact Finmap.lookup_insert _
          · simp only [leaves, if_neg same]
            exact Finmap.lookup_insert_of_ne _ same
        · rfl
  | get other =>
      simp only [ask]
      split <;> rfl
  | remove other =>
      simp only [ask]
      split
      · by_cases same : slot = other
        · simp only [leaves, if_pos same]
          rw [same]
          exact Finmap.lookup_erase _ _
        · simp only [leaves, if_neg same]
          exact Finmap.lookup_erase_ne same
      · rfl

private theorem capacity_ask (query : Query α) : (d.ask query).2.capacity = d.capacity := by
  cases query with
  | insert entry =>
      simp only [ask]
      split
      · rfl
      · split <;> rfl
  | get other | remove other =>
      simp only [ask]
      split <;> rfl

private theorem capacity_asked (queries : List (Query α)) :
    (d.asked queries).capacity = d.capacity := by
  induction queries generalizing d with
  | nil => rfl
  | cons query rest ih => exact (ih (d.ask query).2).trans (d.capacity_ask query)

theorem lookup_asked (queries : List (Query α)) :
    (d.asked queries).entries.lookup slot =
      (queries.zip (d.replies queries)).foldl (leaves slot) (d.entries.lookup slot) := by
  induction queries generalizing d with
  | nil => rfl
  | cons query rest ih =>
      rw [replies, List.zip_cons_cons, List.foldl_cons, ← lookup_ask]
      exact ih (d.ask query).2

end Directory

/-! ## How many slots there are -/

namespace Models

variable {t : Table α} {d : Directory α}

private theorem size_ask (models : Models t d) (query : Query α) :
    (t.ask query).2.slots.size = t.slots.size ∨
      (t.ask query).2.slots.size = t.slots.size + 1 ∧
        (t.ask query).2.entries.length = t.slots.size + 1 := by
  cases query with
  | insert entry =>
      obtain ⟨-, refused⟩ | ⟨-, -, refused⟩ | ⟨after, -, -, done, -, size⟩ :=
        models.insert_cases entry
      · simp only [Table.ask, refused, true_or]
      · simp only [Table.ask, refused, true_or]
      · have filled := Table.inserted_of_insert models.sound done
        simp only [Table.ask, done, size]
        by_cases full : t.freed = []
        · have count := Table.live_eq_size models.sound full
          rw [if_pos full, ← filled.sound.live_eq, filled.live_eq, count]
          exact .inr ⟨rfl, rfl⟩
        · rw [if_neg full]
          exact .inl rfl
  | get slot =>
      simp only [Table.ask]
      split <;> exact .inl rfl
  | remove slot =>
      simp only [Table.ask]
      split
      · rename_i entry after done
        rw [Table.remove] at done
        split at done <;> cases done
        exact .inl (by simp)
      · exact .inl rfl

/-- There are as many slots as there were entries at one time. -/
theorem size_asked (models : Models t d) (queries : List (Query α)) :
    (t.asked queries).slots.size = max t.slots.size (t.peak queries) := by
  induction queries generalizing t d with
  | nil => exact (Nat.max_eq_left t.length_entries_le).symm
  | cons query rest ih =>
      have after := (models.ask query).2
      have now := t.length_entries_le
      have later : (t.ask query).2.entries.length ≤ (t.ask query).2.peak rest := by
        cases rest with
        | nil => exact Nat.le_refl _
        | cons _ _ => exact Nat.le_max_left _ _
      have grown := models.size_ask query
      have last : (t.asked (query :: rest)).slots.size =
          max (t.ask query).2.slots.size ((t.ask query).2.peak rest) := ih after
      rw [last, Table.peak]
      omega

theorem slot_lt_asked (models : Models t d) (queries : List (Query α)) {slot : Nat}
    (given : .slot slot ∈ t.replies queries) : slot < (t.asked queries).slots.size := by
  induction queries generalizing t d with
  | nil => cases given
  | cons query rest ih =>
      have after := (models.ask query).2
      rcases List.mem_cons.1 given with now | later
      · have kept : (t.ask query).2.slots.size ≤ (t.asked (query :: rest)).slots.size := by
          have last : (t.asked (query :: rest)).slots.size =
              max (t.ask query).2.slots.size ((t.ask query).2.peak rest) := after.size_asked rest
          rw [last]
          exact Nat.le_max_left _ _
        refine Nat.lt_of_lt_of_le ?_ kept
        cases query with
        | insert entry =>
            obtain ⟨-, refused⟩ | ⟨-, -, refused⟩ | ⟨filled, -, -, done, -, -⟩ :=
              models.insert_cases entry
            · simp only [Table.ask, refused] at now
              cases now
            · simp only [Table.ask, refused] at now
              cases now
            · simp only [Table.ask, done] at now ⊢
              cases now
              have there := (Table.inserted_of_insert models.sound done).get?_eq d.nextSlot
              rw [if_pos rfl, Table.get?_eq_some_iff] at there
              exact Table.slot_lt _ there
        | get _ | remove _ =>
            simp only [Table.ask] at now
            split at now <;> cases now
      · exact ih after later

theorem peak_le (models : Models t d) (queries : List (Query α)) : t.peak queries ≤ t.capacity := by
  have bounded : t.entries.length ≤ t.capacity := models.sound.live_eq ▸ models.sound.live_le
  induction queries generalizing t d with
  | nil => exact bounded
  | cons query rest ih =>
      have after := (models.ask query).2
      have capacity : (t.ask query).2.capacity = t.capacity := by
        rw [← after.capacity_eq, d.capacity_ask, models.capacity_eq]
      have later := ih after (after.sound.live_eq ▸ after.sound.live_le)
      exact Nat.max_le.2 ⟨bounded, capacity ▸ later⟩

theorem isEmpty_iff (models : Models t d) : t.isEmpty = true ↔ d.entries = ∅ := by
  rw [Table.isEmpty, beq_iff_eq, ← models.size_eq, Directory.size, Finset.card_eq_zero]
  constructor
  · intro none
    refine Finmap.ext_lookup fun slot => ?_
    rw [Finmap.lookup_empty, Finmap.lookup_eq_none, ← Finmap.mem_keys, none]
    exact Finset.notMem_empty slot
  · intro none
    rw [none, Finmap.keys_empty]

theorem ask_insert_full_iff (models : Models t d) (entry : α) :
    (t.ask (.insert entry)).1 = .refused (.tableFull d.capacity) ↔ d.size = d.capacity := by
  rw [(models.ask _).1]
  simp only [Directory.ask]
  by_cases full : d.size = d.capacity
  · rw [if_pos full]
    exact iff_of_true rfl full
  · rw [if_neg full]
    refine iff_of_false ?_ full
    split <;> exact nofun

theorem ask_insert_granted (models : Models t d) (entry : α) (spare : d.size ≠ d.capacity)
    (numbered : d.size < Table.slotLimit) :
    (t.ask (.insert entry)).1 = .slot d.nextSlot ∧ d.nextSlot ∉ d.entries := by
  have next := models.nextSlot_lt numbered
  rw [(models.ask _).1, ← Finmap.lookup_eq_none]
  simp only [Directory.ask, if_neg spare, if_pos next]
  obtain ⟨full, -⟩ | ⟨-, unnumbered, -⟩ | ⟨after, -, -, done, -, -⟩ := models.insert_cases entry
  · exact absurd (models.full_iff.2 full) spare
  · exact absurd next (Nat.not_lt.2 unnumbered)
  · refine ⟨trivial, (models.lookup_eq _).trans ?_⟩
    exact (Table.inserted_of_insert models.sound done).absent

theorem live_eq_of_remove (models : Models t d) {slot : Nat} {entry : α} {after : Table α}
    (done : t.remove slot = .ok (entry, after)) : t.live = after.live + 1 := by
  cases present : t.get? slot with
  | none =>
      rw [Table.remove, present] at done
      cases done
  | some found =>
      obtain ⟨other, removal, removed⟩ := Table.removed_of_get? models.sound present
      cases done.symm.trans removal
      exact removed.live_eq

end Models

/-! ## A table from its beginning -/

/-- What a table does that began empty and was asked one thing after another. -/
structure Table.Refines (capacity : Nat) (queries : List (Query α)) (t : Table α) (d : Directory α) :
    Prop where
  /-- The table has answered as a directory does. -/
  replies_eq :
    (Table.empty capacity).replies queries = (Directory.empty capacity).replies queries
  lookup_eq : ∀ slot, t.get? slot = d.entries.lookup slot
  /-- An entry is found where it was inserted last, until it is removed. -/
  lastAt_eq : ∀ slot,
    t.get? slot = lastAt slot (queries.zip ((Table.empty capacity).replies queries))
  size_eq : t.size = d.entries.keys.card
  isEmpty_iff : t.isEmpty = true ↔ d.entries = ∅
  /-- The table is full when it has as many entries as it may have, and not before. -/
  full_iff : ∀ entry,
    (t.ask (.insert entry)).1 = .refused (.tableFull capacity) ↔ d.entries.keys.card = capacity
  /-- Below its capacity a table gives the slot that was given back last, or else the first that was
  never used, as long as there are slots without an entry among those with a number of 32 bits. -/
  granted : ∀ entry, d.entries.keys.card < capacity → d.entries.keys.card < slotLimit →
    (t.ask (.insert entry)).1 = .slot d.nextSlot ∧ d.nextSlot ∉ d.entries
  /-- What is refused changes nothing. -/
  unchanged : ∀ query fault, (t.ask query).1 = .refused fault → (t.ask query).2 = t
  /-- The count of a table that has an entry is not zero. -/
  counted : ∀ slot entry after, t.remove slot = .ok (entry, after) → t.live = after.live + 1
  /-- As many slots were used as there were entries at one time. -/
  used_eq : d.used = (Table.empty capacity : Table α).peak queries
  dense : ∀ slot, .slot slot ∈ (Table.empty capacity).replies queries →
    slot < (Table.empty capacity : Table α).peak queries
  peak_le : (Table.empty capacity : Table α).peak queries ≤ capacity

/-- A table is a bounded finite map with a stack of freed slots, whatever it is asked for. -/
theorem Table.run_refines (capacity : Nat) (queries : List (Query α)) :
    Table.Refines capacity queries ((Table.empty capacity).asked queries)
      ((Directory.empty capacity).asked queries) := by
  have start : Models (Table.empty capacity : Table α) (.empty capacity) := models_empty capacity
  obtain ⟨same, models⟩ := start.asked queries
  have slots : ((Table.empty capacity : Table α).asked queries).slots.size =
      (Table.empty capacity : Table α).peak queries :=
    (start.size_asked queries).trans (Nat.max_eq_right (Nat.zero_le _))
  have last : ∀ slot, ((Directory.empty capacity : Directory α).asked queries).entries.lookup slot =
      lastAt slot (queries.zip ((Directory.empty capacity).replies queries)) := fun slot =>
    (Directory.empty capacity).lookup_asked slot queries
  have bound : ((Directory.empty capacity : Directory α).asked queries).capacity = capacity :=
    Directory.capacity_asked _ queries
  have filled : ∀ slot, .slot slot ∈ (Table.empty capacity : Table α).replies queries →
      slot < ((Table.empty capacity : Table α).asked queries).slots.size := fun _ given =>
    start.slot_lt_asked queries given
  generalize (Table.empty capacity : Table α).asked queries = t at models slots filled
  generalize (Directory.empty capacity : Directory α).asked queries = d at models last bound
  refine
    { replies_eq := same
      lookup_eq := fun slot => (models.lookup_eq slot).symm
      lastAt_eq := fun slot => by rw [← models.lookup_eq, last, same]
      size_eq := models.size_eq.symm
      isEmpty_iff := models.isEmpty_iff
      full_iff := ?full_iff
      granted := ?granted
      unchanged := fun query fault refused => t.ask_refused refused
      counted := fun slot entry after done => models.live_eq_of_remove done
      used_eq := models.used_eq.trans slots
      dense := fun slot given => slots ▸ filled slot given
      peak_le := start.peak_le queries }
  case full_iff =>
    intro entry
    have full := models.ask_insert_full_iff entry
    rw [bound] at full
    exact full
  case granted =>
    intro entry room numbered
    exact models.ask_insert_granted entry (bound ▸ Nat.ne_of_lt room) numbered

end Custody.Host
