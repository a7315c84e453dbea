import Mathlib.Algebra.BigOperators.Group.List.Basic
import Custody.Registers

/-!
# What is in the registers

What the values in some registers weigh together. Storing a value adds its weight and takes away that of
the value which was there; erasing a name takes away the weight of its value. Names stay distinct.
-/

set_option autoImplicit false

namespace Custody.Registers

variable {α M : Type} [AddCommMonoid M]

def Distinct (r : Registers α) : Prop := (r.entries.map Prod.fst).Nodup

def total (weight : α → M) (r : Registers α) : M := (r.entries.map fun entry => weight entry.2).sum

/-- The weight of the value under a name, and of nothing when there is none. -/
def weightAt (weight : α → M) (r : Registers α) (name : String) : M := (r.get? name).elim 0 weight

private theorem mem_names_putEntry {name other : String} {value : α}
    {entries : List (String × α)} (member : other ∈ (putEntry name value entries).map Prod.fst) :
    other = name ∨ other ∈ entries.map Prod.fst := by
  induction entries with
  | nil => exact .inl (by simpa [putEntry] using member)
  | cons entry rest ih =>
      obtain ⟨n, v⟩ := entry
      by_cases same : n = name
      · subst same
        rw [putEntry, if_pos rfl] at member
        exact .inr member
      · rw [putEntry, if_neg same, List.map_cons] at member
        rcases List.mem_cons.1 member with here | later
        · exact .inr (here ▸ List.mem_cons_self)
        · exact (ih later).imp_right (List.mem_cons_of_mem _)

theorem Distinct.put {r : Registers α} (distinct : r.Distinct) (name : String) (value : α) :
    (r.put name value).Distinct := by
  obtain ⟨entries⟩ := r
  unfold Distinct Registers.put at *
  induction entries with
  | nil => simp [putEntry]
  | cons entry rest ih =>
      obtain ⟨n, v⟩ := entry
      obtain ⟨absent, rest_distinct⟩ := List.nodup_cons.1 distinct
      by_cases same : n = name
      · subst same
        rw [putEntry, if_pos rfl]
        exact List.nodup_cons.2 ⟨absent, rest_distinct⟩
      · rw [putEntry, if_neg same]
        refine List.nodup_cons.2 ⟨fun member => ?_, ih rest_distinct⟩
        exact (mem_names_putEntry member).elim same absent

theorem Distinct.erase {r : Registers α} (distinct : r.Distinct) (name : String) :
    (r.erase name).Distinct :=
  List.Nodup.sublist (List.filter_sublist.map _) distinct

theorem total_put (weight : α → M) (r : Registers α) (name : String) (value : α) :
    (r.put name value).total weight + r.weightAt weight name = r.total weight + weight value := by
  obtain ⟨entries⟩ := r
  simp only [total, weightAt, get?, Registers.put]
  induction entries with
  | nil => simp [putEntry]
  | cons entry rest ih =>
      obtain ⟨n, v⟩ := entry
      by_cases same : n = name
      · subst same
        simp only [putEntry, if_true, List.map_cons, List.sum_cons, List.lookup_cons, beq_self_eq_true,
          Option.elim_some]
        rw [add_right_comm, add_comm (weight value), add_right_comm]
      · simp only [putEntry, same, if_false, List.map_cons, List.sum_cons, List.lookup_cons,
          beq_false_of_ne (Ne.symm same)]
        rw [add_assoc, ih, add_assoc]

theorem total_erase (weight : α → M) {r : Registers α} (distinct : r.Distinct) (name : String) :
    (r.erase name).total weight + r.weightAt weight name = r.total weight := by
  obtain ⟨entries⟩ := r
  simp only [total, weightAt, get?, Registers.erase]
  induction entries with
  | nil => simp
  | cons entry rest ih =>
      obtain ⟨n, v⟩ := entry
      obtain ⟨absent, rest_distinct⟩ := List.nodup_cons.1 distinct
      by_cases same : n = name
      · subst same
        -- the name is in no other entry
        have kept : rest.filter (·.1 != n) = rest := by
          rw [List.filter_eq_self]
          intro entry member
          exact bne_iff_ne.2 fun here => absent (List.mem_map.2 ⟨entry, member, here⟩)
        simp only [List.filter_cons, bne_self_eq_false, Bool.false_eq_true, if_false, kept,
          List.lookup_cons, beq_self_eq_true, Option.elim_some, List.map_cons, List.sum_cons]
        exact add_comm _ _
      · simp only [List.filter_cons, bne_iff_ne, ne_eq, same, not_false_eq_true, if_true,
          List.lookup_cons, beq_false_of_ne (Ne.symm same), List.map_cons, List.sum_cons]
        rw [add_assoc, ih rest_distinct]

theorem weightAt_of_get? (weight : α → M) {r : Registers α} {name : String} {value : α}
    (found : r.get? name = some value) : r.weightAt weight name = weight value := by
  rw [weightAt, found, Option.elim_some]

end Custody.Registers
