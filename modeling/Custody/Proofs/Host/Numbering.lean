import Custody.Proofs.Host.Admission

/-!
# Handles number slots

A handle that is made for a slot names that slot, and a handle that names a slot is the one that is made
for it. So in each representation different slots have different handles, and a handle names at most one
slot. What the representations do not share is where they end. The integers that name a slot are those
that are not negative, and the upper half of the slots has none. Every slot has an address, and the
addresses beyond the last slot name none, though they are valid.
-/

set_option autoImplicit false

namespace Custody.Handle

theorem ne_invalid_of_slot? {h : Handle} {slot : Nat} (named : h.slot? = some slot) (mode : Mode) :
    h ≠ invalid mode := by
  rintro rfl
  have valid := isValid_of_slot? named
  rw [isValid_invalid] at valid
  cases valid

/-- Only slots of 32 bits have a name. -/
theorem slot_lt_of_slot? {h : Handle} {slot : Nat} (named : h.slot? = some slot) :
    slot < UInt32.size := by
  have nameable := (ofSlot?_isSome_iff h.mode slot).1 ⟨h, ofSlot?_of_slot? named⟩
  exact Nat.lt_of_lt_of_le nameable (by cases h.mode <;> decide)

theorem ofSlot?_inj {mode : Mode} {slot other : Nat} {h : Handle}
    (made : ofSlot? mode slot = some h) (again : ofSlot? mode other = some h) : slot = other := by
  have named := (slot?_of_ofSlot? made).2
  rw [(slot?_of_ofSlot? again).2] at named
  exact (Option.some.inj named).symm

theorem slot?_inj {h other : Handle} {slot : Nat} (mode : h.mode = other.mode)
    (named : h.slot? = some slot) (shared : other.slot? = some slot) : h = other := by
  have made := ofSlot?_of_slot? named
  rw [mode, ofSlot?_of_slot? shared] at made
  exact (Option.some.inj made).symm

/-! ## Where the representations end -/

theorem isSome_slot?_integer (value : Int32) :
    (slot? (.integer value)).isSome = isValid (.integer value) := by
  by_cases nonneg : 0 ≤ value <;> simp [slot?, isValid, nonneg]

theorem isSome_slot?_pointer (address : UInt64) :
    (slot? (.pointer address)).isSome = true ↔ 1 ≤ address.toNat ∧ address.toNat ≤ 2 ^ 32 := by
  by_cases outside : address.toNat = 0 ∨ 0x100000000 < address.toNat
  · simp only [slot?, outside, if_true, Option.isSome_none, Bool.false_eq_true, false_iff]
    omega
  · simp only [slot?, outside, if_false, Option.isSome_some, true_iff]
    omega

/-- The address of a slot is one above its number, and no slot is so high that this would not fit. -/
theorem ofSlot?_pointer (slot : UInt32) :
    ∃ address : UInt64, address.toNat = slot.toNat + 1 ∧
      ofSlot? .pointer slot.toNat = some (.pointer address) := by
  have small : slot.toNat < 0x100000000 := slot.toNat_lt
  refine ⟨UInt64.ofNat (slot.toNat + 1), ?_, if_pos small⟩
  exact UInt64.toNat_ofNat_of_lt' (by simp only [UInt64.size]; omega)

/-- Slots and handles correspond one to one, as far as a representation reaches. -/
theorem slots_one_to_one :
    (∀ (mode : Mode) (slot : UInt32) (h : Handle),
      ofSlot? mode slot.toNat = some h →
        h.mode = mode ∧ h.isValid = true ∧ h ≠ invalid mode ∧ h.slot? = some slot.toNat) ∧
    (∀ (h : Handle) (slot : Nat),
      h.slot? = some slot →
        slot < 2 ^ 32 ∧ h.isValid = true ∧ ofSlot? h.mode slot = some h) ∧
    (∀ (mode : Mode) (slot other : UInt32) (h : Handle),
      ofSlot? mode slot.toNat = some h → ofSlot? mode other.toNat = some h → slot = other) ∧
    (∀ (h other : Handle) (slot : Nat),
      h.mode = other.mode → h.slot? = some slot → other.slot? = some slot → h = other) ∧
    (∀ value : Int32, (slot? (.integer value)).isSome = isValid (.integer value)) ∧
    (∀ slot : UInt32,
      (∃ h, ofSlot? .integer slot.toNat = some h) ↔ slot.toNat < 2 ^ 31) ∧
    (∀ slot : UInt32,
      ∃ address : UInt64, address.toNat = slot.toNat + 1 ∧
        ofSlot? .pointer slot.toNat = some (.pointer address)) ∧
    (∀ address : UInt64,
      (slot? (.pointer address)).isSome = true ↔
        1 ≤ address.toNat ∧ address.toNat ≤ 2 ^ 32) := by
  refine ⟨?_, ?_, ?_, fun _ _ _ => slot?_inj, isSome_slot?_integer, ?_, ofSlot?_pointer,
    isSome_slot?_pointer⟩
  · intro mode slot h made
    obtain ⟨own, named⟩ := slot?_of_ofSlot? made
    exact ⟨own, isValid_of_slot? named, ne_invalid_of_slot? named mode, named⟩
  · intro h slot named
    exact ⟨slot_lt_of_slot? named, isValid_of_slot? named, ofSlot?_of_slot? named⟩
  · intro mode slot other h made again
    exact UInt32.toNat_inj.1 (ofSlot?_inj made again)
  · exact fun slot => ofSlot?_isSome_iff .integer slot.toNat

/-- The last slot of all has the handle one above what 32 bits can hold, and the integers have ended at
half of it. -/
theorem slots_one_to_one_at_last :
    ofSlot? .pointer 0xFFFFFFFF = some (.pointer 0x100000000) ∧
      slot? (.pointer 0x100000000) = some 0xFFFFFFFF ∧
      ¬(∃ h, ofSlot? .integer 0xFFFFFFFF = some h) ∧
      slot? (.pointer 0x100000001) = none := by
  obtain ⟨_, named, _, _, _, integers, _, addresses⟩ := slots_one_to_one
  have last : slot? (.pointer 0x100000000) = some 0xFFFFFFFF := by decide
  refine ⟨(named (.pointer 0x100000000) 0xFFFFFFFF last).2.2, last, ?_, ?_⟩
  · exact fun made => absurd ((integers 0xFFFFFFFF).1 made) (by decide)
  · have beyond := mt (addresses 0x100000001).1 (by decide)
    exact Option.not_isSome_iff_eq_none.1 beyond

end Custody.Handle
