import Custody.Proofs.Memory.Rows
import Custody.Proofs.Memory.Safety
import Custody.Proofs.Memory.Values

/-!
# Memory mirrors plain values

A value is mirrored by an owner or a raw pointer when the region there holds it, byte for byte. Since
no block has two names, what is done under one name cannot be seen under another. So each operation
takes memory and plain values that mirror each other to ones that do so again, and both stop with
the same message or give the same answer.
-/

set_option autoImplicit false

namespace Custody.Memory

/-! ## Values in memory -/

/-- What a pointer stands for is there. -/
inductive Behind (m : Memory) : Pointer → Cargo → Prop where
  | null : Behind m .null .null
  | nothing (address : UInt64) : Behind m (.dangling address) .nothing
  | bytes {id : Nat} {content : List UInt8} (live : m.block? id = some content) :
      Behind m (.block id) (.bytes content)

/-- Where there is no region, there are no contents. -/
def Cargo.Carries (rest : Cargo) (front : List UInt8) : Prop :=
  match rest with
  | .bytes _ => True
  | _ => front = []

def Value.IsProper : Value → Prop
  | .buffer bytes rest => rest.Carries bytes
  | .vector element elements rest =>
      rest.Carries (elements.flatMap (encode element.size)) ∧ (rest = .null → elements = []) ∧
        ∀ bits ∈ elements, bits < patterns element.size
  | .region _ => True

theorem Value.isProper_row {element : Layout} {elements : List Nat} (behind : List UInt8)
    (fits : ∀ bits ∈ elements, bits < patterns element.size) :
    (Value.vector element elements (.bytes behind)).IsProper :=
  ⟨trivial, nofun, fits⟩

theorem Value.isProper_units {element : Layout} {elements : List Nat}
    (row : elements.flatMap (encode element.size) = [])
    (fits : ∀ bits ∈ elements, bits < patterns element.size) :
    (Value.vector element elements .nothing).IsProper :=
  ⟨row, nofun, fits⟩

/-- An owner is of the kind and of the length of a value. -/
def Value.Suits : Value → Holding → Prop
  | .buffer bytes _, .buffer b => b.length = bytes.length
  | .vector element elements _, .vector v => v.element = element ∧ v.length = elements.length
  | .region _, .region _ => True
  | _, _ => False

/-- Memory shows a value through what refers to it. -/
structure Holding.Shows (m : Memory) (x : Holding) (value : Value) : Prop where
  suits : value.Suits x
  behind : Behind m x.pointer value.cargo
  proper : value.IsProper

variable {m after : Memory} {x : Holding} {value : Value} {p : Pointer} {front : List UInt8}
  {rest cargo : Cargo}

theorem Behind.elsewhere (behind : Behind m p cargo)
    (same : ∀ id, p = .block id → after.block? id = m.block? id) : Behind after p cargo := by
  cases behind with
  | null => exact .null
  | nothing address => exact .nothing address
  | bytes live => exact .bytes ((same _ rfl).trans live)

theorem Holding.Shows.elsewhere (shows : x.Shows m value)
    (same : ∀ id, x.pointer = .block id → after.block? id = m.block? id) : x.Shows after value :=
  ⟨shows.suits, shows.behind.elsewhere same, shows.proper⟩

theorem behind_ofAlign (m : Memory) (align : Nat) :
    Behind m (.ofAddress (.ofNat align)) (.ofAlign align) := by
  unfold Pointer.ofAddress Cargo.ofAlign
  by_cases zero : UInt64.ofNat align = 0
  · rw [if_pos zero, if_pos zero]
    exact .null
  · rw [if_neg zero, if_neg zero]
    exact .nothing _

theorem align_ne_zero_of_isValid {layout : Layout} (valid : layout.isValid = true) :
    UInt64.ofNat layout.align ≠ 0 := by
  unfold Layout.isValid Layout.isPowerOfTwo at valid
  obtain ⟨power, -⟩ := Bool.and_eq_true_iff.1 valid
  obtain ⟨exponent, member, same⟩ := List.any_eq_true.1 power
  have small := List.mem_range.1 member
  have power : layout.align = 2 ^ exponent := by
    rw [eq_of_beq same, Nat.one_shiftLeft]
  have bound : 2 ^ exponent < 2 ^ 64 := Nat.pow_lt_pow_right (by decide) small
  intro zero
  have none := congrArg UInt64.toNat zero
  rw [power, UInt64.toNat_ofNat', Nat.mod_eq_of_lt bound] at none
  exact absurd none (Nat.ne_of_gt (Nat.two_pow_pos exponent))

/-! ## Reading and writing contents -/

/-- Where contents are, any part of them can be read. -/
theorem Behind.read (behind : Behind m p (rest.under front)) (carries : rest.Carries front)
    {offset size : Nat} (inside : offset + size ≤ front.length) :
    m.read p offset size = .ok (window front offset size) := by
  cases rest with
  | null | nothing =>
      have empty : front = [] := carries
      subst empty
      have none : size = 0 := by
        rw [List.length_nil] at inside
        omega
      rw [none, read_nothing, window, List.take_zero]
  | bytes rest =>
      cases behind with
      | bytes live =>
          have within : offset + size ≤ (front ++ rest).length := by
            rw [List.length_append]
            omega
          rw [read_block live within, window_append inside]

/-- Memory after a write through a pointer: the block of the pointer may have other bytes. -/
inductive Altered (m : Memory) (p : Pointer) : Memory → Prop where
  | untouched : Altered m p m
  | rewritten {id : Nat} {bytes content : List UInt8} {after : Memory} (pointer : p = .block id)
      (live : m.block? id = some bytes) (length : content.length = bytes.length)
      (rewritten : m.Rewritten id content after) : Altered m p after

theorem Altered.block?_eq (altered : Altered m p after) {id : Nat} (apart : p ≠ .block id) :
    after.block? id = m.block? id := by
  cases altered with
  | untouched => rfl
  | rewritten pointer _ _ rewritten =>
      rw [rewritten.block?_eq, if_neg]
      rintro rfl
      exact apart pointer

/-- Where contents are, any part of them can be written over, and what lies behind them stays. -/
theorem Behind.write (behind : Behind m p (rest.under front)) (carries : rest.Carries front)
    {offset : Nat} {new : List UInt8} (inside : offset + new.length ≤ front.length) :
    ∃ after, m.write p offset new = .ok after ∧ Altered m p after ∧
      Behind after p (rest.under (patched front offset new)) := by
  cases rest with
  | null | nothing =>
      have empty : front = [] := carries
      subst empty
      have none : new = [] := List.eq_nil_of_length_eq_zero (by
        rw [List.length_nil] at inside
        omega)
      subst none
      exact ⟨m, write_nothing m p offset, .untouched, behind⟩
  | bytes rest =>
      cases behind with
      | bytes live =>
          have within : offset + new.length ≤ (front ++ rest).length := by
            rw [List.length_append]
            omega
          obtain ⟨after, written, rewritten⟩ := write_block new offset live within
          refine ⟨after, written, .rewritten rfl live (length_patched within) rewritten, .bytes ?_⟩
          rw [rewritten.block?_eq, if_pos rfl, patched_append inside]

theorem Behind.eq_null (behind : Behind m p (rest.under front)) (null : p.isNull = true) :
    rest = .null := by
  cases rest with
  | null => rfl
  | nothing =>
      cases behind with
      | nothing address => cases null
  | bytes rest =>
      cases behind with
      | bytes live => cases null

namespace Holding.Shows

variable {b : Buffer} {bytes : List UInt8} {v : ElementVector} {elements : List Nat}

theorem bytes_ok (shows : (Holding.buffer b).Shows m (.buffer bytes rest)) :
    b.bytes m = .ok bytes := by
  have length : b.length = bytes.length := shows.suits
  have behind : Behind m b.pointer (rest.under bytes) := shows.behind
  have carries : rest.Carries bytes := shows.proper
  unfold Buffer.bytes
  cases null : b.pointer.isNull with
  | true =>
      have empty : bytes = [] := by
        rw [behind.eq_null null] at carries
        exact carries
      rw [empty, if_pos rfl]
  | false =>
      have whole : m.read b.pointer 0 bytes.length = .ok (window bytes 0 bytes.length) :=
        behind.read carries (Nat.le_of_eq (Nat.zero_add _))
      rw [if_neg Bool.false_ne_true, length, whole, window_whole]

theorem of_buffer (shows : (Holding.buffer b).Shows m value) :
    ∃ bytes rest, value = .buffer bytes rest := by
  cases value with
  | buffer bytes rest => exact ⟨bytes, rest, rfl⟩
  | vector _ _ _ | region _ => exact shows.suits.elim

theorem of_vector (shows : (Holding.vector v).Shows m value) :
    ∃ elements rest, value = .vector v.element elements rest := by
  cases value with
  | vector element elements rest =>
      obtain ⟨rfl, -⟩ := shows.suits
      exact ⟨elements, rest, rfl⟩
  | buffer _ _ | region _ => exact shows.suits.elim

theorem of_region (shows : (Holding.region p).Shows m value) : ∃ cargo, value = .region cargo := by
  cases value with
  | region cargo => exact ⟨cargo, rfl⟩
  | buffer _ _ | vector _ _ _ => exact shows.suits.elim

theorem row (shows : (Holding.vector v).Shows m (.vector v.element elements rest)) :
    Behind m v.pointer (rest.under (elements.flatMap (encode v.element.size))) ∧
      rest.Carries (elements.flatMap (encode v.element.size)) :=
  ⟨shows.behind, shows.proper.1⟩

theorem fits (shows : (Holding.vector v).Shows m (.vector v.element elements rest)) :
    ∀ bits ∈ elements, bits < patterns v.element.size :=
  shows.proper.2.2

theorem length_eq (shows : (Holding.vector v).Shows m (.vector v.element elements rest)) :
    v.length = elements.length :=
  shows.suits.2

theorem elements_ok (shows : (Holding.vector v).Shows m (.vector v.element elements rest)) :
    v.elements m = .ok elements := by
  obtain ⟨behind, carries⟩ := shows.row
  unfold ElementVector.elements
  cases null : v.pointer.isNull with
  | true =>
      -- at the null pointer there is not even a row of elements without bytes
      have none : elements = [] := shows.proper.2.1 (behind.eq_null null)
      rw [if_pos rfl, none]
      rfl
  | false =>
      have size : v.byteLength = (elements.flatMap (encode v.element.size)).length := by
        rw [length_encoded, ElementVector.byteLength, shows.length_eq]
      have whole := behind.read carries (Nat.le_of_eq (Nat.zero_add _))
      rw [if_neg Bool.false_ne_true, size, whole, window_whole, shows.length_eq]
      exact congrArg Except.ok (decodeMany_encoded shows.fits)

theorem getUnchecked_ok (shows : (Holding.vector v).Shows m (.vector v.element elements rest))
    {index : Nat} (below : index < elements.length) :
    v.getUnchecked m index = .ok elements[index] := by
  obtain ⟨behind, carries⟩ := shows.row
  have inside : index * v.element.size + v.element.size ≤
      (elements.flatMap (encode v.element.size)).length := by
    rw [length_encoded, ← Nat.succ_mul]
    exact Nat.mul_le_mul_right _ below
  have fits := shows.fits _ (List.getElem_mem below)
  unfold ElementVector.getUnchecked
  rw [behind.read carries inside, window_encoded below]
  exact congrArg Except.ok (decode_encode_of_lt fits)

theorem get_eq (shows : (Holding.vector v).Shows m (.vector v.element elements rest)) (index : Nat) :
    v.get m index =
      match elements[index]? with
      | some bits => .ok bits
      | none => .error (ElementVector.outOfBounds elements.length index) := by
  unfold ElementVector.get
  rw [shows.length_eq]
  by_cases below : index < elements.length
  · rw [if_pos below, shows.getUnchecked_ok below, List.getElem?_eq_getElem below]
  · rw [if_neg below, List.getElem?_eq_none (Nat.le_of_not_lt below)]

theorem rewritten {new : List Nat}
    (shows : (Holding.vector v).Shows m (.vector v.element elements rest))
    (behind : Behind after v.pointer (rest.under (new.flatMap (encode v.element.size))))
    (length : new.length = elements.length) (fits : ∀ bits ∈ new, bits < patterns v.element.size) :
    (Holding.vector v).Shows after (.vector v.element new rest) := by
  have lengths : (new.flatMap (encode v.element.size)).length =
      (elements.flatMap (encode v.element.size)).length := by
    rw [length_encoded, length_encoded, length]
  refine ⟨⟨rfl, shows.length_eq.trans length.symm⟩, behind, ?_, fun null => ?_, fits⟩
  · have carries := shows.row.2
    cases rest with
    | null | nothing =>
        have empty : elements.flatMap (encode v.element.size) = [] := carries
        exact List.eq_nil_of_length_eq_zero (lengths.trans (congrArg List.length empty))
    | bytes rest => trivial
  · exact List.eq_nil_of_length_eq_zero
      (length.trans (congrArg List.length (shows.proper.2.1 null)))

theorem setUnchecked_ok (shows : (Holding.vector v).Shows m (.vector v.element elements rest))
    {index bits : Nat} (below : index < elements.length) (fits : bits < patterns v.element.size) :
    ∃ after, v.setUnchecked m index bits = .ok after ∧ Altered m v.pointer after ∧
      (Holding.vector v).Shows after (.vector v.element (elements.set index bits) rest) := by
  obtain ⟨behind, carries⟩ := shows.row
  have inside : index * v.element.size + (encode v.element.size bits).length ≤
      (elements.flatMap (encode v.element.size)).length := by
    rw [length_encode, length_encoded, ← Nat.succ_mul]
    exact Nat.mul_le_mul_right _ below
  obtain ⟨after, written, altered, behind⟩ := behind.write carries inside
  rw [patched_encoded bits below] at behind
  refine ⟨after, written, altered, shows.rewritten behind List.length_set fun other member => ?_⟩
  rcases List.mem_or_eq_of_mem_set member with old | rfl
  · exact shows.fits other old
  · exact fits

theorem reverse_ok (shows : (Holding.vector v).Shows m (.vector v.element elements rest)) :
    ∃ after, v.reverse m = .ok after ∧ Altered m v.pointer after ∧
      (Holding.vector v).Shows after (.vector v.element elements.reverse rest) := by
  obtain ⟨behind, carries⟩ := shows.row
  have fits : ∀ bits ∈ elements.reverse, bits < patterns v.element.size := fun bits member =>
    shows.fits bits (List.mem_reverse.1 member)
  have lengths : (elements.reverse.flatMap (encode v.element.size)).length =
      (elements.flatMap (encode v.element.size)).length := by
    rw [length_encoded, length_encoded, List.length_reverse]
  unfold ElementVector.reverse
  by_cases empty : v.byteLength = 0
  · have none : (elements.flatMap (encode v.element.size)).length = 0 := by
      rw [length_encoded, ← shows.length_eq]
      exact empty
    rw [List.eq_nil_of_length_eq_zero none,
      ← List.eq_nil_of_length_eq_zero (lengths.trans none)] at behind
    exact ⟨m, if_pos empty, .untouched, shows.rewritten behind List.length_reverse fits⟩
  · obtain ⟨after, written, altered, behind⟩ :=
      behind.write carries (Nat.le_of_eq ((Nat.zero_add _).trans lengths))
    rw [patched_whole lengths] at behind
    refine ⟨after, ?_, altered, shows.rewritten behind List.length_reverse fits⟩
    rw [if_neg empty, shows.elements_ok]
    exact written

end Holding.Shows

/-! ## Values that change hands -/

theorem shows_emptyBuffer (m : Memory) : (Holding.buffer .empty).Shows m (.buffer [] .null) :=
  ⟨rfl, .null, rfl⟩

theorem shows_emptyVector (m : Memory) (element : Layout) :
    (Holding.vector (.empty element)).Shows m (.vector element [] .null) :=
  ⟨⟨rfl, rfl⟩, .null, rfl, fun _ => rfl, nofun⟩

theorem Holding.Shows.taken (shows : x.Shows m value) : (x.take.2).Shows m value.blank := by
  cases x <;> cases value <;> first | exact shows.suits.elim | skip
  · exact shows_emptyBuffer m
  · cases shows.suits.1
    exact shows_emptyVector m _
  · exact ⟨trivial, .null, trivial⟩

theorem Behind.region (behind : Behind m p cargo) :
    (Holding.region p).Shows m (.region cargo) :=
  ⟨trivial, behind, trivial⟩

theorem Behind.adoptBuffer (behind : Behind m p cargo) {length : Nat}
    (adoptable : Holdings.Adoptable m p length) :
    (Holding.buffer (.ofRaw p length)).Shows m (cargo.toBuffer length) := by
  cases behind with
  | null => exact ⟨rfl, .null, rfl⟩
  | nothing address =>
      have none : length = 0 := adoptable
      exact ⟨none, .nothing address, rfl⟩
  | @bytes id content live =>
      obtain ⟨bytes, present, inside⟩ := adoptable
      cases live.symm.trans present
      refine ⟨?_, ?_, trivial⟩
      · exact (List.length_take_of_le inside).symm
      · refine .bytes ?_
        rw [List.take_append_drop]
        exact live

theorem Behind.adoptVector (behind : Behind m p cargo) {element : Layout} {length : Nat}
    (adoptable : Holdings.Adoptable m p (length * element.size)) :
    (Holding.vector (.ofRaw element p length)).Shows m (cargo.toVector element length) := by
  cases behind with
  | null => exact ⟨⟨rfl, rfl⟩, .null, rfl, fun _ => rfl, nofun⟩
  | nothing address =>
      have none : length * element.size = 0 := adoptable
      have row : (List.replicate length 0).flatMap (encode element.size) = [] := by
        refine List.eq_nil_of_length_eq_zero ?_
        rw [length_encoded, List.length_replicate, none]
      refine ⟨⟨rfl, List.length_replicate.symm⟩, .nothing address, Value.isProper_units row ?_⟩
      intro bits member
      rw [List.eq_of_mem_replicate member]
      exact patterns_pos element.size
  | @bytes id content live =>
      obtain ⟨bytes, present, inside⟩ := adoptable
      cases live.symm.trans present
      refine ⟨⟨rfl, (length_decodeMany _ _ _).symm⟩, ?_,
        Value.isProper_row _ (lt_of_mem_decodeMany inside)⟩
      refine .bytes ?_
      rw [encoded_decodeMany inside, List.take_append_drop]
      exact live

/-- What leaked may be adopted again from end to end. -/
theorem Behind.adoptable (behind : Behind m p (rest.under front)) (carries : rest.Carries front) :
    Holdings.Adoptable m p front.length := by
  cases rest with
  | null =>
      cases behind with
      | null => trivial
  | nothing =>
      cases behind with
      | nothing address =>
          have empty : front = [] := carries
          exact congrArg List.length empty
  | bytes rest =>
      cases behind with
      | bytes live =>
          refine ⟨_, live, ?_⟩
          rw [List.length_append]
          exact Nat.le_add_right _ _

/-- A buffer that is adopted with the length that leaked has its old contents. -/
theorem Cargo.toBuffer_under {bytes : List UInt8} (proper : (Value.buffer bytes rest).IsProper) :
    (rest.under bytes).toBuffer bytes.length = .buffer bytes rest := by
  cases rest with
  | null | nothing =>
      have empty : bytes = [] := proper
      rw [empty]
      rfl
  | bytes rest =>
      rw [under, toBuffer, List.take_left, List.drop_left]

/-- A vector that is adopted with the length that leaked has its old contents. -/
theorem Cargo.toVector_under {element : Layout} {elements : List Nat}
    (proper : (Value.vector element elements rest).IsProper) :
    (rest.under (elements.flatMap (encode element.size))).toVector element elements.length =
      .vector element elements rest := by
  obtain ⟨carries, null, fits⟩ := proper
  cases rest with
  | null =>
      rw [null rfl]
      rfl
  | nothing =>
      have row : elements.flatMap (encode element.size) = [] := carries
      have zeros : List.replicate elements.length 0 = elements := by
        refine (List.eq_replicate_of_mem fun bits member => ?_).symm
        -- an element without bytes has one bit pattern
        have bound := fits bits member
        have lengths := length_encoded element.size elements
        have some := List.length_pos_of_mem member
        rw [row, List.length_nil] at lengths
        rw [(Nat.mul_eq_zero.1 lengths.symm).resolve_left (Nat.ne_of_gt some)] at bound
        exact Nat.lt_one_iff.1 bound
      change Value.vector element (List.replicate elements.length 0) .nothing = _
      rw [zeros]
  | bytes rest =>
      have length := length_encoded element.size elements
      rw [under, toVector, decodeMany_append (Nat.le_of_eq length.symm), decodeMany_encoded fits,
        List.drop_left' length]

theorem Behind.reallocated_new (behind : Behind m p cargo) (unheld : ∀ id, p ≠ .block id)
    (size : Nat) : cargo.reallocated size = .bytes (List.replicate size 0) := by
  cases behind with
  | null | nothing => rfl
  | bytes live => exact absurd rfl (unheld _)

theorem Behind.reallocated_old (behind : Behind m p cargo) {id : Nat} {bytes : List UInt8}
    (pointer : p = .block id) (live : m.block? id = some bytes) (size : Nat) :
    cargo.reallocated size = .bytes (resized bytes size) := by
  subst pointer
  cases behind with
  | bytes present =>
      cases live.symm.trans present
      rfl

/-! ## Memory and plain values together -/

theorem Ended.block?_eq {old : Holding} (ended : Ended m old after) {id : Nat}
    (apart : old.pointer ≠ .block id) : after.block? id = m.block? id := by
  cases ended with
  | untouched _ => rfl
  | freed _ pointer freed =>
      rw [freed.block?_eq, if_neg]
      rintro rfl
      exact apart pointer

/-- Memory shows under each name the value that is kept there. -/
structure Mirrors (s : Holdings) (p : Contents) : Prop where
  sound : s.Sound
  shows : ∀ name, Option.Rel (fun x value => x.Shows s.memory value) (s.held.get? name) (p.get? name)

namespace Mirrors

variable {s : Holdings} {p : Contents} {src dst : String} {y : Holding}

theorem start : Mirrors {} {} where
  sound := Holdings.sound_start
  shows _ := .none

theorem exists_value (mirrors : Mirrors s p) (present : s.held.get? src = some x) :
    ∃ value, p.get? src = some value ∧ x.Shows s.memory value := by
  have shows := mirrors.shows src
  rw [present] at shows
  generalize p.get? src = found at shows ⊢
  cases shows with
  | some shows => exact ⟨_, rfl, shows⟩

theorem exists_holding (mirrors : Mirrors s p) (kept : p.get? src = some value) :
    ∃ x, s.held.get? src = some x ∧ x.Shows s.memory value := by
  have shows := mirrors.shows src
  rw [kept] at shows
  generalize s.held.get? src = found at shows ⊢
  cases shows with
  | some shows => exact ⟨_, rfl, shows⟩

theorem exists_buffer (mirrors : Mirrors s p) {b : Buffer}
    (present : s.held.get? src = some (.buffer b)) :
    ∃ bytes rest, p.get? src = some (.buffer bytes rest) ∧
      (Holding.buffer b).Shows s.memory (.buffer bytes rest) := by
  obtain ⟨value, kept, shows⟩ := mirrors.exists_value present
  obtain ⟨bytes, rest, rfl⟩ := shows.of_buffer
  exact ⟨bytes, rest, kept, shows⟩

theorem exists_vector (mirrors : Mirrors s p) {v : ElementVector}
    (present : s.held.get? src = some (.vector v)) :
    ∃ elements rest, p.get? src = some (.vector v.element elements rest) ∧
      (Holding.vector v).Shows s.memory (.vector v.element elements rest) := by
  obtain ⟨value, kept, shows⟩ := mirrors.exists_value present
  obtain ⟨elements, rest, rfl⟩ := shows.of_vector
  exact ⟨elements, rest, kept, shows⟩

theorem exists_region (mirrors : Mirrors s p) {id : Nat} {bytes : List UInt8}
    (present : s.held.get? src = some (.region (.block id)))
    (live : s.memory.block? id = some bytes) : p.get? src = some (.region (.bytes bytes)) := by
  obtain ⟨value, kept, shows⟩ := mirrors.exists_value present
  obtain ⟨cargo, rfl⟩ := shows.of_region
  have behind : Behind s.memory (.block id) cargo := shows.behind
  cases behind with
  | bytes other =>
      cases live.symm.trans other
      exact kept

theorem keep (mirrors : Mirrors s p) {name : String}
    (same : ∀ x id, s.held.get? name = some x → x.pointer = .block id →
      after.block? id = s.memory.block? id) :
    Option.Rel (fun x value => x.Shows after value) (s.held.get? name) (p.get? name) := by
  have shows := mirrors.shows name
  generalize found : s.held.get? name = held at same shows ⊢
  generalize p.get? name = kept at shows ⊢
  cases shows with
  | none => exact .none
  | some shows => exact .some (shows.elsewhere fun id here => same _ id rfl here)

/-- Nothing is seen of what happens in blocks that nothing held refers to. -/
theorem elsewhere (mirrors : Mirrors s p) (sound : ({ s with memory := after } : Holdings).Sound)
    (same : ∀ name x id, s.held.get? name = some x → x.pointer = .block id →
      after.block? id = s.memory.block? id) : Mirrors { s with memory := after } p where
  sound := sound
  shows name := mirrors.keep (same name)

theorem obtained (mirrors : Mirrors s p) {bytes : List UInt8} {id : Nat}
    (obtained : s.memory.Obtained bytes id after) (size : IsSize bytes.length) :
    Mirrors { s with memory := after } p := by
  have carrying : ({ s with memory := after } : Holdings).Carrying (.region (.block id)) :=
    mirrors.sound.obtained obtained size rfl (Nat.zero_le _)
  refine mirrors.elsewhere carrying.sound fun name x number found here => ?_
  rw [obtained.block?_eq, if_neg]
  exact (mirrors.sound.backed name x found).ne_of_absent here obtained.absent

theorem freed (mirrors : Mirrors s p) (carrying : s.Carrying x) {id : Nat}
    (pointer : x.pointer = .block id) (freed : s.memory.Freed id after) :
    Mirrors { s with memory := after } p := by
  refine mirrors.elsewhere (carrying.freed pointer freed) fun name y number found here => ?_
  rw [freed.block?_eq, if_neg]
  rintro rfl
  exact carrying.apart name y number found here pointer

theorem ended (mirrors : Mirrors s p) (carrying : s.Carrying x) (ended : Ended s.memory x after) :
    Mirrors { s with memory := after } p := by
  cases ended with
  | untouched _ => exact mirrors
  | freed _ pointer freed => exact mirrors.freed carrying pointer freed

theorem moved (mirrors : Mirrors s p) (carrying : s.Carrying x) {bytes : List UInt8} {id new : Nat}
    (pointer : x.pointer = .block id) (moved : s.memory.Moved id bytes new after)
    (size : IsSize bytes.length) : Mirrors { s with memory := after } p := by
  refine mirrors.elsewhere (carrying.moved pointer moved size).sound fun name y number found here => ?_
  have unused := (mirrors.sound.backed name y found).ne_of_absent here moved.absent
  rw [moved.block?_eq, if_neg unused, if_neg]
  rintro rfl
  exact carrying.apart name y number found here pointer

theorem erase (mirrors : Mirrors s p) (present : s.held.get? src = some x) :
    Mirrors { s with held := s.held.erase src } (p.erase src) where
  sound := (mirrors.sound.erase present).sound
  shows name := by
    dsimp only
    rw [Registers.get?_erase, Registers.get?_erase]
    split
    · exact .none
    · exact mirrors.shows name

theorem put_blank (mirrors : Mirrors s p) (present : s.held.get? src = some x) (blank : y.IsBlank)
    (shows : y.Shows s.memory value) :
    Mirrors { s with held := s.held.put src y } (p.put src value) where
  sound := (mirrors.sound.put_blank present blank).sound
  shows name := by
    dsimp only
    rw [Registers.get?_put, Registers.get?_put]
    split
    · exact .some shows
    · exact mirrors.shows name

theorem altered (mirrors : Mirrors s p) (present : s.held.get? src = some x)
    (altered : Altered s.memory x.pointer after) (shows : x.Shows after value) :
    Mirrors { s with memory := after } (p.put src value) where
  sound := by
    cases altered with
    | untouched => exact mirrors.sound
    | rewritten _ live length rewritten => exact mirrors.sound.rewritten live length rewritten
  shows name := by
    dsimp only
    rw [Registers.get?_put]
    split
    · rename_i here
      rw [here, present]
      exact .some shows
    · rename_i apart
      refine mirrors.keep fun y id found there => altered.block?_eq fun pointer => apart ?_
      exact mirrors.sound.unshared name src y x id found present there pointer

/-- A value is put under a name, and what was there goes away. -/
theorem store (mirrors : Mirrors s p) (carrying : s.Carrying x) (shows : x.Shows s.memory value)
    (dst : String) :
    ∃ after, s.store dst x = .ok after ∧ Mirrors after (p.put dst value) := by
  obtain ⟨after, stored, replaced, sound⟩ := carrying.store dst
  refine ⟨_, stored, sound, fun name => ?_⟩
  -- the block of the old value is none of those that are still referred to
  have same : ∀ id, (∀ old, s.held.get? dst = some old → old.pointer ≠ .block id) →
      after.block? id = s.memory.block? id := by
    intro id apart
    unfold Holdings.Replaced at replaced
    cases present : s.held.get? dst with
    | none =>
        rw [present] at replaced
        rw [replaced]
    | some old =>
        rw [present] at replaced
        exact replaced.block?_eq (apart old present)
  dsimp only
  rw [Registers.get?_put, Registers.get?_put]
  split
  · refine .some (shows.elsewhere fun id here => same id fun old present there => ?_)
    exact carrying.apart dst old id present there here
  · rename_i apart
    refine mirrors.keep fun y id found here => same id fun old present there => apart ?_
    exact mirrors.sound.unshared name dst y old id found present here there

end Mirrors

end Custody.Memory
