/-!
# Registers

Named places for values. Each name has at most one value; storing under a name that is in use
replaces the value and leaves the place where it was.
-/

set_option autoImplicit false

namespace Custody

structure Registers (α : Type) where
  entries : List (String × α) := []

namespace Registers

variable {α : Type}

def get? (r : Registers α) (name : String) : Option α := r.entries.lookup name

def putEntry (name : String) (value : α) : List (String × α) → List (String × α)
  | [] => [(name, value)]
  | (n, v) :: rest =>
      if n = name then (name, value) :: rest else (n, v) :: putEntry name value rest

def put (r : Registers α) (name : String) (value : α) : Registers α :=
  { entries := putEntry name value r.entries }

def erase (r : Registers α) (name : String) : Registers α :=
  { entries := r.entries.filter (·.1 != name) }

/-! ## What a look-up sees -/

private theorem lookup_putEntry_self (name : String) (value : α) (entries : List (String × α)) :
    (putEntry name value entries).lookup name = some value := by
  induction entries with
  | nil => simp [putEntry]
  | cons entry rest ih =>
      obtain ⟨n, v⟩ := entry
      by_cases same : n = name
      · simp [putEntry, same]
      · simp [putEntry, same, List.lookup_cons, beq_false_of_ne (Ne.symm same), ih]

private theorem lookup_putEntry_of_ne (name other : String) (value : α) (entries : List (String × α))
    (apart : other ≠ name) :
    (putEntry name value entries).lookup other = entries.lookup other := by
  induction entries with
  | nil => simp [putEntry, List.lookup_cons, beq_false_of_ne apart]
  | cons entry rest ih =>
      obtain ⟨n, v⟩ := entry
      by_cases same : n = name
      · subst same
        simp [putEntry, List.lookup_cons, beq_false_of_ne apart]
      · simp [putEntry, same, List.lookup_cons, ih]

@[simp]
theorem get?_put_self (r : Registers α) (name : String) (value : α) :
    (r.put name value).get? name = some value :=
  lookup_putEntry_self name value r.entries

theorem get?_put_of_ne (r : Registers α) {name other : String} (value : α)
    (apart : other ≠ name) : (r.put name value).get? other = r.get? other :=
  lookup_putEntry_of_ne name other value r.entries apart

@[simp]
theorem get?_erase_self (r : Registers α) (name : String) : (r.erase name).get? name = none := by
  simp only [get?, erase, List.lookup_eq_none_iff, List.mem_filter]
  intro entry member
  simpa [bne_comm] using member.2

theorem get?_erase_of_ne (r : Registers α) {name other : String} (apart : other ≠ name) :
    (r.erase name).get? other = r.get? other := by
  obtain ⟨entries⟩ := r
  simp only [get?, erase]
  induction entries with
  | nil => rfl
  | cons entry rest ih =>
      obtain ⟨n, v⟩ := entry
      by_cases same : n = name
      · subst same
        simp [List.lookup_cons, beq_false_of_ne apart, ih]
      · simp [same, List.lookup_cons, ih]

theorem get?_put (r : Registers α) (name : String) (value : α) (other : String) :
    (r.put name value).get? other = if other = name then some value else r.get? other := by
  by_cases same : other = name
  · subst same
    rw [if_pos rfl, get?_put_self]
  · rw [if_neg same, get?_put_of_ne r value same]

theorem get?_erase (r : Registers α) (name other : String) :
    (r.erase name).get? other = if other = name then none else r.get? other := by
  by_cases same : other = name
  · subst same
    rw [if_pos rfl, get?_erase_self]
  · rw [if_neg same, get?_erase_of_ne r same]

end Registers

end Custody
