import Custody.Proofs.Memory.Blocks

/-!
# Rows of elements

Elements lie one after the other in memory. What was encoded is decoded again, whatever lies behind
it, and the other way round: bytes that are read as elements and written back are the same bytes. To
write over one element is to replace it in the row.
-/

set_option autoImplicit false

namespace Custody.Memory

variable {size count index bits : Nat} {bytes rest : List UInt8} {elements : List Nat}

/-! ## Single elements -/

theorem patterns_pos (size : Nat) : 0 < patterns size := by
  induction size with
  | zero => exact Nat.zero_lt_one
  | succ size ih => exact Nat.mul_pos (by decide) ih

theorem decode_lt (bytes : List UInt8) : decode bytes < patterns bytes.length := by
  induction bytes with
  | nil => exact Nat.zero_lt_one
  | cons b bytes ih =>
      have low := b.toNat_lt
      rw [decode, List.length_cons, patterns]
      omega

theorem encode_decode (bytes : List UInt8) : encode bytes.length (decode bytes) = bytes := by
  induction bytes with
  | nil => rfl
  | cons b bytes ih =>
      have low := b.toNat_lt
      have tail : (b.toNat + 256 * decode bytes) / 256 = decode bytes := by omega
      have head : UInt8.ofNat (b.toNat + 256 * decode bytes) = b := by
        apply UInt8.toNat_inj.1
        rw [UInt8.toNat_ofNat']
        omega
      rw [decode, List.length_cons, encode, head, tail, ih]

theorem decode_encode_of_lt (fits : bits < patterns size) : decode (encode size bits) = bits := by
  rw [decode_encode, Nat.mod_eq_of_lt fits]

/-! ## Whole rows -/

theorem decodeMany_zero (size : Nat) (bytes : List UInt8) : decodeMany size 0 bytes = [] := rfl

theorem decodeMany_succ (size count : Nat) (bytes : List UInt8) :
    decodeMany size (count + 1) bytes =
      decode (bytes.take size) :: decodeMany size count (bytes.drop size) := by
  unfold decodeMany
  rw [List.range_succ_eq_map, List.map_cons, List.map_map]
  congr 1
  · rw [Nat.zero_mul, window, List.drop_zero]
  · refine List.map_congr_left fun index _ => ?_
    change decode (window bytes ((index + 1) * size) size) = _
    rw [window, window, List.drop_drop, Nat.succ_mul, Nat.add_comm]

theorem decodeMany_encoded (fits : ∀ bits ∈ elements, bits < patterns size) :
    decodeMany size elements.length (elements.flatMap (encode size)) = elements := by
  induction elements with
  | nil => rfl
  | cons first others ih =>
      have length := length_encode size first
      rw [List.length_cons, decodeMany_succ, List.flatMap_cons, List.take_left' length,
        List.drop_left' length, ih fun bits member => fits bits (List.mem_cons_of_mem _ member),
        decode_encode_of_lt (fits first List.mem_cons_self)]

/-- Bytes that are read as elements are those that the elements encode. -/
theorem encoded_decodeMany (inside : count * size ≤ bytes.length) :
    (decodeMany size count bytes).flatMap (encode size) = bytes.take (count * size) := by
  induction count generalizing bytes with
  | zero => rw [Nat.zero_mul, List.take_zero, decodeMany_zero, List.flatMap_nil]
  | succ count ih =>
      rw [Nat.succ_mul] at inside
      have first : (bytes.take size).length = size := by
        rw [List.length_take]
        omega
      have others : count * size ≤ (bytes.drop size).length := by
        rw [List.length_drop]
        omega
      have encoded := encode_decode (bytes.take size)
      rw [first] at encoded
      rw [decodeMany_succ, List.flatMap_cons, encoded, ih others, Nat.succ_mul,
        Nat.add_comm (count * size), List.take_add]

theorem lt_of_mem_decodeMany (inside : count * size ≤ bytes.length) :
    ∀ bits ∈ decodeMany size count bytes, bits < patterns size := by
  induction count generalizing bytes with
  | zero => nofun
  | succ count ih =>
      rw [Nat.succ_mul] at inside
      have first : (bytes.take size).length = size := by
        rw [List.length_take]
        omega
      have others : count * size ≤ (bytes.drop size).length := by
        rw [List.length_drop]
        omega
      intro bits member
      rw [decodeMany_succ, List.mem_cons] at member
      rcases member with rfl | member
      · have bound := decode_lt (bytes.take size)
        rwa [first] at bound
      · exact ih others bits member

/-! ## Parts of rows -/

theorem window_append {offset : Nat} {front : List UInt8} (inside : offset + size ≤ front.length)
    (rest : List UInt8) : window (front ++ rest) offset size = window front offset size := by
  unfold window
  have room : size ≤ (front.drop offset).length := by
    rw [List.length_drop]
    omega
  rw [List.drop_append_of_le_length (Nat.le_of_add_right_le inside),
    List.take_append_of_le_length room]

theorem patched_append {offset : Nat} {front new : List UInt8}
    (inside : offset + new.length ≤ front.length) (rest : List UInt8) :
    patched (front ++ rest) offset new = patched front offset new ++ rest := by
  unfold patched
  rw [List.take_append_of_le_length (Nat.le_of_add_right_le inside),
    List.drop_append_of_le_length inside, List.append_assoc, List.append_assoc, List.append_assoc]

/-- Elements are read from the bytes of their row and from no others. -/
theorem decodeMany_append {front : List UInt8} (inside : count * size ≤ front.length)
    (rest : List UInt8) : decodeMany size count (front ++ rest) = decodeMany size count front := by
  unfold decodeMany
  refine List.map_congr_left fun index member => ?_
  have rows := Nat.mul_le_mul_right size (show index + 1 ≤ count from List.mem_range.1 member)
  rw [Nat.succ_mul] at rows
  rw [window_append (Nat.le_trans rows inside)]

/-- What lies in front of a place that is written over stays. -/
theorem patched_behind (front bytes : List UInt8) (offset : Nat) (new : List UInt8) :
    patched (front ++ bytes) (front.length + offset) new = front ++ patched bytes offset new := by
  unfold patched
  rw [List.take_length_add_append, Nat.add_assoc, List.drop_length_add_append, List.append_assoc,
    List.append_assoc, List.append_assoc]

theorem window_whole (bytes : List UInt8) : window bytes 0 bytes.length = bytes := List.take_length

theorem patched_whole {new : List UInt8} (whole : new.length = bytes.length) :
    patched bytes 0 new = new := by
  unfold patched
  rw [List.take_zero, List.nil_append, Nat.zero_add, whole, List.drop_length, List.append_nil]

theorem window_encoded (below : index < elements.length) :
    window (elements.flatMap (encode size)) (index * size) size = encode size elements[index] := by
  induction elements generalizing index with
  | nil => cases below
  | cons first others ih =>
      have length := length_encode size first
      rw [List.flatMap_cons]
      cases index with
      | zero =>
          rw [Nat.zero_mul, window, List.drop_zero, List.take_left' length, List.getElem_cons_zero]
      | succ index =>
          rw [Nat.succ_mul, Nat.add_comm, window, ← List.drop_drop, List.drop_left' length,
            List.getElem_cons_succ]
          exact ih (Nat.lt_of_succ_lt_succ below)

/-- To write over an element is to replace it in the row. -/
theorem patched_encoded (bits : Nat) (below : index < elements.length) :
    patched (elements.flatMap (encode size)) (index * size) (encode size bits) =
      (elements.set index bits).flatMap (encode size) := by
  induction elements generalizing index with
  | nil => cases below
  | cons first others ih =>
      have length := length_encode size first
      rw [List.flatMap_cons]
      cases index with
      | zero =>
          have whole : (encode size bits).length = (encode size first).length := by
            rw [length, length_encode]
          have inside : 0 + (encode size bits).length ≤ (encode size first).length := by omega
          rw [Nat.zero_mul, patched_append inside, patched_whole whole, List.set_cons_zero,
            List.flatMap_cons]
      | succ index =>
          have place : (index + 1) * size = (encode size first).length + index * size := by
            rw [length, Nat.succ_mul, Nat.add_comm]
          rw [place, patched_behind, ih (Nat.lt_of_succ_lt_succ below), List.set_cons_succ,
            List.flatMap_cons]

end Custody.Memory
