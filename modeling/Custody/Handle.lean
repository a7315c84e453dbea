import Custody.Text.Shown

/-!
# Resource handles

A handle is the value a host hands out for a registration. It has one of two representations, a
signed integer of 32 bits or an address of 64 bits, and both encode a slot of the host's table:
`Handle.ofSlot?` goes from slot to handle and `Handle.slot?` goes back. The two are inverse to each
other wherever they are defined, and a handle that names a slot is valid.
-/

set_option autoImplicit false

namespace Custody

open Text (Shown hexDigits paddedHexDigits)

/-- The representation of handles that a guest and its host agree on. -/
inductive Mode where
  | integer
  | pointer
deriving DecidableEq, Inhabited

def Mode.name : Mode → String
  | .integer => "integer"
  | .pointer => "pointer"

def Mode.title : Mode → String
  | .integer => "Integer"
  | .pointer => "Pointer"

inductive Handle where
  | integer (value : Int32)
  | pointer (address : UInt64)
deriving DecidableEq, Inhabited

namespace Handle

def mode : Handle → Mode
  | .integer _ => .integer
  | .pointer _ => .pointer

/-- The sentinel of a mode: no registration, moved out, or transferred. -/
def invalid : Mode → Handle
  | .integer => .integer (-1)
  | .pointer => .pointer 0

/-- Whether a handle can name a live registration: no negative integer and not the null address. -/
def isValid : Handle → Bool
  | .integer value => 0 ≤ value
  | .pointer address => address != 0

/-- The table slot that a handle names. An integer names the slot of its own number, an address the
slot one below it; slots have 32 bits, so most addresses name none. -/
def slot? : Handle → Option Nat
  | .integer value => if 0 ≤ value then some value.toInt.toNat else none
  | .pointer address =>
      if address.toNat = 0 ∨ 0x100000000 < address.toNat then none else some (address.toNat - 1)

/-- The handle of a slot, or nothing when the representation has no value for it. -/
def ofSlot? : Mode → Nat → Option Handle
  | .integer, slot => if slot < 0x80000000 then some (.integer (Int32.ofNat slot)) else none
  | .pointer, slot => if slot < 0x100000000 then some (.pointer (UInt64.ofNat (slot + 1))) else none

/-- A handle in diagnostics: an integer in decimal, an address in base sixteen. With parts on lines
of their own an address has all its sixteen digits. -/
def shown : Handle → Shown
  | .integer value => .text (toString value.toInt)
  | .pointer address =>
      .leaf ("0x" ++ hexDigits address.toNat) ("0x" ++ paddedHexDigits 16 address.toNat)

def text (h : Handle) : String := h.shown.inline

@[simp]
theorem mode_invalid (m : Mode) : (invalid m).mode = m := by
  cases m <;> rfl

@[simp]
theorem isValid_invalid (m : Mode) : (invalid m).isValid = false := by
  cases m <;> decide

theorem slot?_of_ofSlot? {m : Mode} {slot : Nat} {h : Handle} (made : ofSlot? m slot = some h) :
    h.mode = m ∧ h.slot? = some slot := by
  cases m with
  | integer =>
      obtain ⟨small, equal⟩ := Option.ite_none_right_eq_some.1 made
      cases equal
      have value : (Int32.ofNat slot).toInt = slot := Int32.toInt_ofNat_of_lt small
      have nonneg : (0 : Int32) ≤ Int32.ofNat slot := by
        rw [Int32.le_iff_toInt_le, value]
        simp
      simp [mode, slot?, value, nonneg]
  | pointer =>
      obtain ⟨small, equal⟩ := Option.ite_none_right_eq_some.1 made
      cases equal
      have address : (UInt64.ofNat (slot + 1)).toNat = slot + 1 :=
        UInt64.toNat_ofNat_of_lt' (by simp [UInt64.size]; omega)
      have inside : ¬0x100000000 < slot + 1 := by omega
      simp only [mode, slot?, address, inside]
      simp

theorem ofSlot?_of_slot? {h : Handle} {slot : Nat} (named : h.slot? = some slot) :
    ofSlot? h.mode slot = some h := by
  cases h with
  | integer value =>
      obtain ⟨nonneg, equal⟩ := Option.ite_none_right_eq_some.1 named
      have nonneg : 0 ≤ value.toInt := by simpa [Int32.le_iff_toInt_le] using nonneg
      have small := value.toInt_lt
      have equal : value.toInt.toNat = slot := by simpa using equal
      have back : Int32.ofNat slot = value := by
        apply Int32.toInt_inj.1
        rw [Int32.toInt_ofNat_of_lt (by omega)]
        omega
      have bound : slot < 0x80000000 := by omega
      simp only [mode, ofSlot?, bound, if_true, back]
  | pointer address =>
      obtain ⟨inside, equal⟩ := Option.ite_none_left_eq_some.1 named
      have equal : address.toNat - 1 = slot := by simpa using equal
      have next : slot + 1 = address.toNat := by omega
      have bound : slot < 0x100000000 := by omega
      simp only [mode, ofSlot?, bound, if_true, next, UInt64.ofNat_toNat]

theorem isValid_of_slot? {h : Handle} {slot : Nat} (named : h.slot? = some slot) :
    h.isValid = true := by
  cases h with
  | integer value =>
      obtain ⟨nonneg, _⟩ := Option.ite_none_right_eq_some.1 named
      simpa [isValid] using nonneg
  | pointer address =>
      obtain ⟨inside, _⟩ := Option.ite_none_left_eq_some.1 named
      have present : address ≠ 0 := fun null => inside (.inl (by simp [null]))
      simpa [isValid] using present

end Handle

end Custody
