import Custody.Memory.Basic
import Custody.Text.Shown

/-!
# Elements in linear memory

The element types that an array in memory can have. An element is a bit pattern, kept as a natural
number below `patterns size`, and lies in memory with its lowest byte first. `decode` reads back what
`encode` wrote (`decode_encode`).
-/

set_option autoImplicit false

namespace Custody.Memory

open Text (Shown ofDigits)

inductive ElementType where
  | u8
  | u16
  | u32
  | i64
  | f64
  | u128
  | unit
deriving DecidableEq, Inhabited

namespace ElementType

def layout : ElementType → Layout
  | .u8 => { size := 1, align := 1 }
  | .u16 => { size := 2, align := 2 }
  | .u32 => { size := 4, align := 4 }
  | .i64 | .f64 => { size := 8, align := 8 }
  | .u128 => { size := 16, align := 16 }
  | .unit => { size := 0, align := 1 }

def signed (bits : Nat) : Int :=
  if bits < 0x8000000000000000 then bits else (bits : Int) - 0x10000000000000000

/-- An element in diagnostics. Floats are shown by their bits elsewhere, so they have no text. -/
def shown? (type : ElementType) (bits : Nat) : Option Shown :=
  match type with
  | .u8 | .u16 | .u32 | .u128 => some (.number bits)
  | .i64 => some (.text (toString (signed bits)))
  | .f64 => none
  | .unit => some (.text "()")

def sequence? (type : ElementType) (elements : List Nat) : Option Shown :=
  if type = .f64 then none else some (.sequence (elements.filterMap type.shown?))

end ElementType

/-- An element as it is written down. The type that it is read for decides what it means. -/
inductive Literal where
  | number (value : Int)
  /-- A natural number in decimal digits, or a float by the sixteen digits of its bits. -/
  | text (digits : String)
  | nothing
deriving DecidableEq, Inhabited

/-- How many bit patterns `size` bytes have. -/
def patterns : (size : Nat) → Nat
  | 0 => 1
  | size + 1 => 256 * patterns size

def Literal.bits (type : ElementType) : Literal → Nat
  | .number value => (value % patterns type.layout.size).toNat
  | .text digits =>
      let base := if type = .f64 then 16 else 10
      ofDigits base digits.toList % patterns type.layout.size
  | .nothing => 0

/-- The bytes of a bit pattern, the lowest in front. -/
def encode : (size bits : Nat) → List UInt8
  | 0, _ => []
  | size + 1, bits => UInt8.ofNat bits :: encode size (bits / 256)

/-- The bit pattern of bytes with the lowest in front. -/
def decode : List UInt8 → Nat
  | [] => 0
  | b :: rest => b.toNat + 256 * decode rest

/-- The bit patterns of `count` elements of `size` bytes that lie one after the other. -/
def decodeMany (size count : Nat) (bytes : List UInt8) : List Nat :=
  (List.range count).map fun index => decode (window bytes (index * size) size)

@[simp]
theorem length_encode (size bits : Nat) : (encode size bits).length = size := by
  induction size generalizing bits with
  | zero => rfl
  | succ size ih => simp [encode, ih]

theorem decode_encode (size bits : Nat) : decode (encode size bits) = bits % patterns size := by
  induction size generalizing bits with
  | zero => simp [encode, decode, patterns, Nat.mod_one]
  | succ size ih =>
      have low : (UInt8.ofNat bits).toNat = bits % 256 := UInt8.toNat_ofNat'
      rw [encode, decode, ih, low, patterns, Nat.mod_mul]

@[simp]
theorem length_decodeMany (size count : Nat) (bytes : List UInt8) :
    (decodeMany size count bytes).length = count := by
  simp [decodeMany]

end Custody.Memory
