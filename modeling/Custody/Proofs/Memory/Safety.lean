import Mathlib
import Custody.Proofs.Memory.Holdings

/-!
# Memory safety

However regions are handed around, each one has at most one owner, an owner never refers to a region
that was released, and what an owner answers for is given back once when the owner goes away or is
assigned over. So no operation that keeps its contract releases or reads anything that is not live.
-/

set_option autoImplicit false

namespace Custody.Memory

/-- Memory backs what refers to it: a live block is behind the bytes that an owner answers for. -/
inductive Holding.Backed (m : Memory) (x : Holding) : Prop where
  | unheld (nowhere : ∀ id, x.pointer ≠ .block id) (empty : x.byteLength = 0)
  | live {id : Nat} {bytes : List UInt8} (pointer : x.pointer = .block id)
      (live : m.block? id = some bytes) (inside : x.byteLength ≤ bytes.length)

/-- What a move or a leak leaves behind. -/
structure Holding.IsBlank (x : Holding) : Prop where
  pointer_eq : x.pointer = .null
  length_eq : x.length = 0

/-- What becomes of memory when a value goes away: one block is freed if there are bytes to answer
for, and nothing is touched otherwise. -/
inductive Ended (m : Memory) (x : Holding) : Memory → Prop where
  | untouched (empty : x.byteLength = 0) : Ended m x m
  | freed {id : Nat} {after : Memory} (full : 0 < x.byteLength) (pointer : x.pointer = .block id)
      (freed : m.Freed id after) : Ended m x after

variable {m after : Memory} {x y old : Holding}

namespace Holding

theorem IsBlank.nowhere (blank : x.IsBlank) (id : Nat) : x.pointer ≠ .block id := by
  rw [blank.pointer_eq]
  nofun

theorem IsBlank.byteLength_eq (blank : x.IsBlank) : x.byteLength = 0 := by
  cases x with
  | buffer b => exact blank.length_eq
  | vector v => exact Nat.mul_eq_zero.2 (.inl blank.length_eq)
  | region p => rfl

theorem emptyBuffer_isBlank : (Holding.buffer .empty).IsBlank := ⟨rfl, rfl⟩

theorem emptyVector_isBlank (element : Layout) : (Holding.vector (.empty element)).IsBlank :=
  ⟨rfl, rfl⟩

theorem take_fst (x : Holding) : x.take.1 = x := by
  cases x <;> rfl

theorem take_isBlank (x : Holding) : x.take.2.IsBlank := by
  cases x <;> exact ⟨rfl, rfl⟩

theorem leak_fst (x : Holding) : x.leak.1 = x.pointer := by
  cases x <;> rfl

theorem leak_snd (x : Holding) : x.leak.2 = x.take.2 := by
  cases x <;> rfl

theorem leak_isBlank (x : Holding) : x.leak.2.IsBlank := by
  cases x <;> exact ⟨rfl, rfl⟩

theorem drop_eq (x : Holding) (m : Memory) :
    x.drop m = if 0 < x.byteLength then m.release x.pointer else .ok m := by
  cases x <;> rfl

theorem IsBlank.drop_eq (blank : x.IsBlank) (m : Memory) : x.drop m = .ok m := by
  rw [Holding.drop_eq, blank.byteLength_eq]
  rfl

end Holding

namespace Holding.Backed

theorem keep (backed : x.Backed m)
    (kept : ∀ id bytes, x.pointer = .block id → m.block? id = some bytes →
      ∃ content, after.block? id = some content ∧ content.length = bytes.length) :
    x.Backed after := by
  cases backed with
  | unheld nowhere empty => exact .unheld nowhere empty
  | live pointer live inside =>
      obtain ⟨content, present, length⟩ := kept _ _ pointer live
      exact .live pointer present (length ▸ inside)

theorem elsewhere (backed : x.Backed m)
    (same : ∀ id, x.pointer = .block id → after.block? id = m.block? id) : x.Backed after :=
  backed.keep fun id bytes pointer live => ⟨bytes, (same id pointer).trans live, rfl⟩

theorem exists_block (backed : x.Backed m) {id : Nat} (pointer : x.pointer = .block id) :
    ∃ bytes, m.block? id = some bytes ∧ x.byteLength ≤ bytes.length := by
  cases backed with
  | unheld nowhere _ => exact absurd pointer (nowhere id)
  | live here live inside =>
      cases here.symm.trans pointer
      exact ⟨_, live, inside⟩

theorem ne_of_absent (backed : x.Backed m) {id new : Nat} (pointer : x.pointer = .block id)
    (absent : m.block? new = none) : id ≠ new := by
  rintro rfl
  obtain ⟨bytes, live, -⟩ := backed.exists_block pointer
  rw [absent] at live
  cases live

theorem byteLength_lt (backed : x.Backed m) (sound : m.Sound) : x.byteLength < sizeLimit := by
  cases backed with
  | unheld _ empty =>
      rw [empty]
      decide
  | live _ live inside => exact Nat.lt_of_le_of_lt inside (sound.sized _ _ live).2

theorem drop (backed : x.Backed m) : ∃ after, x.drop m = .ok after ∧ Ended m x after := by
  by_cases full : 0 < x.byteLength
  · cases backed with
    | unheld _ empty => omega
    | live pointer live _ =>
        obtain ⟨after, done, freed⟩ := release_block live
        exact ⟨after, by rw [drop_eq, if_pos full, pointer, done], .freed full pointer freed⟩
  · exact ⟨m, by rw [drop_eq, if_neg full], .untouched (by omega)⟩

theorem view (backed : x.Backed m) : x.view m = .ok () := by
  have readable : ∀ size, size = x.byteLength → x.pointer.isNull = false →
      ∃ bytes, m.read x.pointer 0 size = .ok bytes := by
    rintro size rfl full
    cases backed with
    | unheld _ empty => exact ⟨[], by rw [empty, read_nothing]⟩
    | live pointer live inside =>
        rw [pointer]
        exact ⟨_, read_block live (by omega)⟩
  cases x with
  | buffer b =>
      change (do let _ ← b.bytes m) = _
      unfold Buffer.bytes
      cases null : b.pointer.isNull with
      | true => rfl
      | false =>
          obtain ⟨bytes, done⟩ := readable _ rfl null
          rw [if_neg Bool.false_ne_true, show m.read b.pointer 0 b.length = _ from done]
          rfl
  | vector v =>
      change (do let _ ← v.elements m) = _
      unfold ElementVector.elements
      cases null : v.pointer.isNull with
      | true => rfl
      | false =>
          obtain ⟨bytes, done⟩ := readable _ rfl null
          rw [if_neg Bool.false_ne_true, show m.read v.pointer 0 v.byteLength = _ from done]
          rfl
  | region p => rfl

end Holding.Backed

theorem Ended.keep (ended : Ended m old after) (backed : x.Backed m)
    (apart : ∀ id, old.pointer = .block id → x.pointer ≠ .block id) : x.Backed after := by
  cases ended with
  | untouched _ => exact backed
  | freed _ pointer freed =>
      refine backed.elsewhere fun other here => ?_
      rw [freed.block?_eq, if_neg]
      rintro rfl
      exact apart _ pointer here

namespace Holdings

/-- The invariant of holdings: memory is sound and backs everything that is held, and no block is
held under two names. -/
structure Sound (s : Holdings) : Prop where
  memory : s.memory.Sound
  backed : ∀ name x, s.held.get? name = some x → x.Backed s.memory
  unshared : ∀ name other x y id, s.held.get? name = some x → s.held.get? other = some y →
    x.pointer = .block id → y.pointer = .block id → name = other

/-- A value is in hand: it is backed too, and nothing that is held refers to its block. -/
structure Carrying (s : Holdings) (x : Holding) : Prop where
  sound : s.Sound
  backed : x.Backed s.memory
  apart : ∀ name y id, s.held.get? name = some y → y.pointer = .block id → x.pointer ≠ .block id

theorem sound_start : ({} : Holdings).Sound where
  memory := sound_fresh
  backed := nofun
  unshared := nofun

variable {s : Holdings} {src dst : String}

/-! ## Taking in hand and putting down -/

theorem Sound.vacate (sound : s.Sound) (present : s.held.get? src = some x)
    {held : Registers Holding} {left : Option Holding}
    (others : ∀ name, held.get? name = if name = src then left else s.held.get? name)
    (blank : ∀ y, left = some y → y.IsBlank) :
    ({ s with held } : Holdings).Carrying x := by
  -- what refers to a block afterwards is where it was before
  have before : ∀ name y id, held.get? name = some y → y.pointer = .block id →
      name ≠ src ∧ s.held.get? name = some y := by
    intro name y id found pointer
    rw [others] at found
    split at found
    · exact absurd pointer ((blank y found).nowhere id)
    · exact ⟨‹_›, found⟩
  refine ⟨⟨sound.memory, fun name y found => ?_, fun name other y z id first second here there => ?_⟩,
    sound.backed src x present, fun name y id found pointer here => ?_⟩
  · rw [others] at found
    split at found
    · exact .unheld (blank y found).nowhere (blank y found).byteLength_eq
    · exact sound.backed name y found
  · exact sound.unshared name other y z id (before _ _ _ first here).2 (before _ _ _ second there).2
      here there
  · obtain ⟨apart, held⟩ := before name y id found pointer
    exact apart (sound.unshared name src y x id held present pointer here)

theorem Sound.erase (sound : s.Sound) (present : s.held.get? src = some x) :
    ({ s with held := s.held.erase src } : Holdings).Carrying x :=
  sound.vacate present (s.held.get?_erase src) nofun

theorem Sound.put_blank (sound : s.Sound) (present : s.held.get? src = some x) {left : Holding}
    (blank : left.IsBlank) : ({ s with held := s.held.put src left } : Holdings).Carrying x :=
  sound.vacate present (s.held.get?_put src left) fun _ same => Option.some.inj same ▸ blank

theorem Sound.unheld (sound : s.Sound) (nowhere : ∀ id, x.pointer ≠ .block id)
    (empty : x.byteLength = 0) : s.Carrying x where
  sound := sound
  backed := .unheld nowhere empty
  apart _ _ id _ _ := nowhere id

theorem Sound.blank (sound : s.Sound) (blank : x.IsBlank) : s.Carrying x :=
  sound.unheld blank.nowhere blank.byteLength_eq

theorem Carrying.freed (carrying : s.Carrying x) {id : Nat} (pointer : x.pointer = .block id)
    (freed : s.memory.Freed id after) : ({ s with memory := after } : Holdings).Sound where
  memory := freed.sound carrying.sound.memory
  backed name y found := by
    refine (carrying.sound.backed name y found).elsewhere fun number here => ?_
    rw [freed.block?_eq, if_neg]
    rintro rfl
    exact carrying.apart name y number found here pointer
  unshared := carrying.sound.unshared

theorem Carrying.ended (carrying : s.Carrying x) (ended : Ended s.memory x after) :
    ({ s with memory := after } : Holdings).Sound := by
  cases ended with
  | untouched _ => exact carrying.sound
  | freed _ pointer freed => exact carrying.freed pointer freed

theorem Sound.of_get? (sound : s.Sound) {held : Registers Holding}
    (same : ∀ name, held.get? name = s.held.get? name) : ({ s with held } : Holdings).Sound where
  memory := sound.memory
  backed name y found := sound.backed name y (same name ▸ found)
  unshared name other y z id first second :=
    sound.unshared name other y z id (same name ▸ first) (same other ▸ second)

private theorem Carrying.put (carrying : s.Carrying x) (free : s.held.get? dst = none) :
    ({ s with held := s.held.put dst x } : Holdings).Sound := by
  have cases : ∀ name y, (s.held.put dst x).get? name = some y →
      name = dst ∧ y = x ∨ name ≠ dst ∧ s.held.get? name = some y := by
    intro name y found
    rw [Registers.get?_put] at found
    split at found
    · cases found
      exact .inl ⟨‹_›, rfl⟩
    · exact .inr ⟨‹_›, found⟩
  refine ⟨carrying.sound.memory, fun name y found => ?_,
    fun name other y z id first second here there => ?_⟩
  · obtain ⟨rfl, rfl⟩ | ⟨_, found⟩ := cases name y found
    · exact carrying.backed
    · exact carrying.sound.backed name y found
  · obtain ⟨rfl, rfl⟩ | ⟨_, before⟩ := cases name y first
    · obtain ⟨rfl, rfl⟩ | ⟨_, later⟩ := cases other z second
      · rfl
      · exact absurd here (carrying.apart other z id later there)
    · obtain ⟨rfl, rfl⟩ | ⟨_, later⟩ := cases other z second
      · exact absurd there (carrying.apart name y id before here)
      · exact carrying.sound.unshared name other y z id before later here there

def Replaced (s : Holdings) (dst : String) (after : Memory) : Prop :=
  match s.held.get? dst with
  | some old => Ended s.memory old after
  | none => after = s.memory

theorem Carrying.store (carrying : s.Carrying x) (dst : String) :
    ∃ after, s.store dst x = .ok { memory := after, held := s.held.put dst x } ∧
      s.Replaced dst after ∧ ({ memory := after, held := s.held.put dst x } : Holdings).Sound := by
  unfold Holdings.store Replaced
  cases present : s.held.get? dst with
  | none => exact ⟨s.memory, rfl, rfl, carrying.put present⟩
  | some old =>
      -- with the old value in hand, the name is free for the new one
      have vacated := carrying.sound.erase present
      obtain ⟨after, dropped, ended⟩ := vacated.backed.drop
      have apart : ∀ id, old.pointer = .block id → x.pointer ≠ .block id := fun id here =>
        carrying.apart dst old id present here
      have carried : ({ memory := after, held := s.held.erase dst } : Holdings).Carrying x := by
        refine ⟨vacated.ended ended, ended.keep carrying.backed apart, fun name y id found => ?_⟩
        rw [Registers.get?_erase] at found
        split at found
        · cases found
        · exact carrying.apart name y id found
      refine ⟨after, by dsimp only; rw [dropped]; rfl, ended, ?_⟩
      refine (carried.put (s.held.get?_erase_self dst)).of_get? fun name => ?_
      rw [Registers.get?_put, Registers.get?_put, Registers.get?_erase]
      split <;> rfl

/-! ## Memory that changes -/

theorem Sound.obtained (sound : s.Sound) {bytes : List UInt8} {id : Nat}
    (obtained : s.memory.Obtained bytes id after) (size : IsSize bytes.length)
    (pointer : x.pointer = .block id) (inside : x.byteLength ≤ bytes.length) :
    ({ s with memory := after } : Holdings).Carrying x := by
  have other : ∀ name y number, s.held.get? name = some y → y.pointer = .block number →
      number ≠ id := fun name y number found here =>
    (sound.backed name y found).ne_of_absent here obtained.absent
  have present := (obtained.block?_eq id).trans (if_pos rfl)
  refine ⟨⟨obtained.sound sound.memory size, fun name y found => ?_, sound.unshared⟩,
    .live pointer present inside, fun name y number found here there => ?_⟩
  · refine (sound.backed name y found).elsewhere fun number here => ?_
    rw [obtained.block?_eq, if_neg (other name y number found here)]
  · cases pointer.symm.trans there
    exact other name y id found here rfl

theorem Carrying.moved (carrying : s.Carrying x) {bytes : List UInt8} {id new : Nat}
    (pointer : x.pointer = .block id) (moved : s.memory.Moved id bytes new after)
    (size : IsSize bytes.length) :
    ({ s with memory := after } : Holdings).Carrying (.region (.block new)) := by
  have other : ∀ name y number, s.held.get? name = some y → y.pointer = .block number →
      number ≠ new ∧ number ≠ id := by
    intro name y number found here
    refine ⟨(carrying.sound.backed name y found).ne_of_absent here moved.absent, ?_⟩
    rintro rfl
    exact carrying.apart name y number found here pointer
  refine ⟨⟨moved.sound carrying.sound.memory size, fun name y found => ?_, carrying.sound.unshared⟩,
    .live rfl ((moved.block?_eq new).trans (if_pos rfl)) (Nat.zero_le _),
    fun name y number found here there => ?_⟩
  · refine (carrying.sound.backed name y found).elsewhere fun number here => ?_
    obtain ⟨first, second⟩ := other name y number found here
    rw [moved.block?_eq, if_neg first, if_neg second]
  · cases there
    exact (other name y new found here).1 rfl

theorem Sound.rewritten (sound : s.Sound) {bytes content : List UInt8} {id : Nat}
    (live : s.memory.block? id = some bytes) (length : content.length = bytes.length)
    (rewritten : s.memory.Rewritten id content after) :
    ({ s with memory := after } : Holdings).Sound := by
  have size := sound.memory.sized id bytes live
  refine ⟨rewritten.sound sound.memory (length ▸ size), fun name y found => ?_, sound.unshared⟩
  refine (sound.backed name y found).keep fun number old _ present => ?_
  rw [rewritten.block?_eq]
  by_cases here : number = id
  · subst here
    cases live.symm.trans present
    exact ⟨content, if_pos rfl, length⟩
  · exact ⟨old, (if_neg here).trans present, rfl⟩

/-! ## Single operations -/

/-- An operation that keeps its contract ends lawfully, or in a sound state. -/
def Lands (s : Holdings) (act : Act) : Prop :=
  (∃ stop, s.step act = .error stop ∧ stop.IsLawful) ∨
    ∃ after, s.step act = .ok after ∧ after.Sound

theorem withHeld_eq (present : s.held.get? src = some x)
    (next : Holding → Except Stop Holdings) : s.withHeld src next = next x := by
  rw [withHeld, present]

theorem Carrying.leak (carrying : s.Carrying x) : s.Carrying (.region x.pointer) where
  sound := carrying.sound
  backed := by
    cases carrying.backed with
    | unheld nowhere _ => exact .unheld nowhere rfl
    | live pointer live _ => exact .live pointer live (Nat.zero_le _)
  apart := carrying.apart

private theorem Carrying.adopt {p : Pointer} {byteLength : Nat} (carrying : s.Carrying (.region p))
    (adoptable : Adoptable s.memory p byteLength) (pointer : x.pointer = p)
    (bytes : x.byteLength = if p.isNull then 0 else byteLength) : s.Carrying x where
  sound := carrying.sound
  backed := by
    cases p with
    | null => exact .unheld (by rw [pointer]; nofun) bytes
    | dangling address => exact .unheld (by rw [pointer]; nofun) (bytes.trans adoptable)
    | block id =>
        obtain ⟨content, live, inside⟩ := adoptable
        exact .live pointer live (Nat.le_trans (Nat.le_of_eq bytes) inside)
  apart name y id found here there := carrying.apart name y id found here (pointer.symm.trans there)

theorem Carrying.adoptBuffer {p : Pointer} {length : Nat} (carrying : s.Carrying (.region p))
    (adoptable : Adoptable s.memory p length) : s.Carrying (.buffer (.ofRaw p length)) := by
  refine carrying.adopt adoptable ?_ ?_ <;> cases p <;> rfl

theorem Carrying.adoptVector {p : Pointer} {element : Layout} {length : Nat}
    (carrying : s.Carrying (.region p))
    (adoptable : Adoptable s.memory p (length * element.size)) :
    s.Carrying (.vector (.ofRaw element p length)) := by
  refine carrying.adopt adoptable ?_ ?_
  · cases p <;> rfl
  · cases p with
    | null => exact Nat.zero_mul _
    | dangling address => rfl
    | block id => rfl

private theorem Carrying.lands (carrying : s.Carrying x) (dst : String) :
    ∃ after, s.store dst x = .ok after ∧ after.Sound := by
  obtain ⟨memory, stored, -, sound⟩ := carrying.store dst
  exact ⟨_, stored, sound⟩

private theorem Sound.copyBytes (sound : s.Sound) (dst : String) (bytes : List UInt8) :
    s.Lands (.copyBytes dst bytes) := by
  simp only [Lands, step]
  obtain ⟨stop, failed, lawful⟩ | copied | ⟨size, id, memory, copied, obtained⟩ :=
    Buffer.ofBytes_cases s.memory bytes
  · exact .inl ⟨stop, by rw [failed]; rfl, lawful⟩
  · rw [copied]
    exact .inr ((sound.blank Holding.emptyBuffer_isBlank).lands dst)
  · rw [copied]
    exact .inr ((sound.obtained obtained size rfl (Nat.le_refl _)).lands dst)

private theorem Sound.copyElements (sound : s.Sound) (dst : String) (element : Layout)
    (elements : List Nat) : s.Lands (.copyElements dst element elements) := by
  simp only [Lands, step]
  obtain ⟨stop, failed, lawful⟩ | ⟨v, copied, nowhere, empty⟩ | ⟨size, id, memory, copied, obtained⟩ :=
    ElementVector.ofElements_cases s.memory element elements
  · exact .inl ⟨stop, by rw [failed]; rfl, lawful⟩
  · rw [copied]
    exact .inr ((sound.unheld (x := .vector v) nowhere empty).lands dst)
  · rw [copied]
    have length := length_encoded element.size elements
    let v : ElementVector := { element, pointer := .block id, length := elements.length }
    have inside : (Holding.vector v).byteLength ≤ _ := Nat.le_of_eq length.symm
    exact .inr ((sound.obtained obtained (length ▸ size) rfl inside).lands dst)

private theorem Sound.allocate (sound : s.Sound) (dst : String) (layout : Layout) :
    s.Lands (.allocate dst layout) := by
  simp only [Lands, step]
  obtain ⟨stop, failed, lawful⟩ | ⟨size, id, memory, allocated, obtained⟩ :=
    s.memory.allocate_cases layout
  · exact .inl ⟨stop, by rw [failed]; rfl, lawful⟩
  · rw [allocated]
    have size : IsSize (List.replicate layout.size (0 : UInt8)).length := by
      rwa [List.length_replicate]
    exact .inr ((sound.obtained (x := .region (.block id)) obtained size rfl
      (Nat.zero_le _)).lands dst)

private theorem Carrying.reallocate {p : Pointer} (carrying : s.Carrying (.region p))
    {oldSize : Nat} (lawful : s.memory.Reallocatable p oldSize) (dst : String) (layout : Layout) :
    (∃ stop, s.memory.realloc p oldSize layout = .error stop ∧ stop.IsLawful) ∨
    ∃ new memory after, s.memory.realloc p oldSize layout = .ok (new, memory) ∧
      ({ s with memory } : Holdings).store dst (.region new) = .ok after ∧ after.Sound := by
  obtain failed | ⟨new, memory, done, reallocated⟩ :=
    realloc_cases carrying.sound.memory lawful layout
  · exact .inl failed
  · have carried : ({ s with memory } : Holdings).Carrying (.region new) := by
      cases reallocated with
      | nothing _ _ => exact carrying.sound.unheld (Pointer.ofAddress_ne_block _) rfl
      | freed _ pointer freed =>
          exact (carrying.freed pointer freed).unheld (Pointer.ofAddress_ne_block _) rfl
      | obtained size _ obtained =>
          refine carrying.sound.obtained obtained ?_ rfl (Nat.zero_le _)
          rwa [List.length_replicate]
      | moved size pointer _ moved =>
          refine carrying.moved pointer moved ?_
          rwa [length_resized]
    obtain ⟨after, stored, sound⟩ := carried.lands dst
    exact .inr ⟨new, memory, after, done, stored, sound⟩

private theorem Carrying.release {p : Pointer} (carrying : s.Carrying (.region p))
    (releasable : Releasable s.memory p) :
    ∃ after, s.memory.release p = .ok after ∧ ({ s with memory := after } : Holdings).Sound := by
  obtain rfl | ⟨id, bytes, rfl, live⟩ := releasable
  · exact ⟨s.memory, release_null s.memory, carrying.sound⟩
  · obtain ⟨after, released, freed⟩ := release_block live
    exact ⟨after, released, carrying.freed rfl freed⟩

/-! ## Elements of a vector -/

private theorem element_inside {v : ElementVector} {index : Nat} (below : index < v.length) :
    index * v.element.size + v.element.size ≤ v.byteLength := by
  have rows := Nat.mul_le_mul_right v.element.size (show index + 1 ≤ v.length from below)
  rwa [Nat.succ_mul] at rows

private theorem get_lawful {v : ElementVector} (backed : (Holding.vector v).Backed m) (index : Nat) :
    (∃ stop, v.get m index = .error stop ∧ stop.IsLawful) ∨ ∃ bits, v.get m index = .ok bits := by
  unfold ElementVector.get
  by_cases below : index < v.length
  · rw [if_pos below]
    right
    unfold ElementVector.getUnchecked
    have inside := element_inside below
    cases backed with
    | unheld _ empty =>
        have unsized : v.element.size = 0 := by
          have empty : v.byteLength = 0 := empty
          omega
        rw [unsized, read_nothing]
        exact ⟨_, rfl⟩
    | live pointer live whole =>
        have pointer : v.pointer = _ := pointer
        have whole : v.byteLength ≤ _ := whole
        rw [pointer, read_block live (by omega)]
        exact ⟨_, rfl⟩
  · exact .inl ⟨_, if_neg below, trivial⟩

private theorem Sound.set (sound : s.Sound) {v : ElementVector}
    (present : s.held.get? src = some (.vector v)) (index bits : Nat) :
    (∃ stop, v.set s.memory index bits = .error stop ∧ stop.IsLawful) ∨
    ∃ after, v.set s.memory index bits = .ok after ∧
      ({ s with memory := after } : Holdings).Sound := by
  unfold ElementVector.set
  by_cases below : index < v.length
  · rw [if_pos below]
    right
    unfold ElementVector.setUnchecked
    have inside := element_inside below
    cases sound.backed src _ present with
    | unheld _ empty =>
        have unsized : v.element.size = 0 := by
          have empty : v.byteLength = 0 := empty
          omega
        rw [unsized, encode, write_nothing]
        exact ⟨_, rfl, sound⟩
    | @live id bytes pointer live whole =>
        have pointer : v.pointer = .block id := pointer
        have within : index * v.element.size + (encode v.element.size bits).length ≤
            bytes.length := by
          rw [length_encode]
          exact Nat.le_trans inside whole
        obtain ⟨after, written, rewritten⟩ := write_block _ _ live within
        rw [pointer]
        exact ⟨after, written, sound.rewritten live (length_patched within) rewritten⟩
  · exact .inl ⟨_, if_neg below, trivial⟩

/-! ## Whole runs -/

theorem Sound.lands (sound : s.Sound) {act : Act} (permitted : s.Permitted act) : s.Lands act := by
  cases act with
  | newBuffer dst => exact .inr ((sound.blank Holding.emptyBuffer_isBlank).lands dst)
  | copyBytes dst bytes => exact sound.copyBytes dst bytes
  | adoptBuffer src dst length =>
      obtain ⟨p, present, adoptable⟩ := permitted
      simp only [Lands, step, moving, withHeld_eq present, Holding.pointer]
      exact .inr (((sound.erase present).adoptBuffer adoptable).lands dst)
  | newVector dst element =>
      exact .inr ((sound.blank (Holding.emptyVector_isBlank element)).lands dst)
  | copyElements dst element elements => exact sound.copyElements dst element elements
  | adoptVector src dst element length =>
      obtain ⟨p, present, adoptable⟩ := permitted
      simp only [Lands, step, moving, withHeld_eq present, Holding.pointer]
      exact .inr (((sound.erase present).adoptVector adoptable).lands dst)
  | take src dst =>
      obtain ⟨x, present⟩ := permitted
      simp only [Lands, step, withHeld_eq present, x.take_fst]
      exact .inr ((sound.put_blank present x.take_isBlank).lands dst)
  | assign src dst =>
      obtain ⟨x, present⟩ := permitted
      simp only [Lands, step, moving, withHeld_eq present]
      exact .inr ((sound.erase present).lands dst)
  | leak src dst =>
      obtain ⟨x, present⟩ := permitted
      simp only [Lands, step, withHeld_eq present, x.leak_fst]
      exact .inr ((sound.put_blank present x.leak_isBlank).leak.lands dst)
  | drop src =>
      obtain ⟨x, present⟩ := permitted
      simp only [Lands, step, moving, withHeld_eq present]
      have vacated := sound.erase present
      obtain ⟨after, dropped, ended⟩ := vacated.backed.drop
      exact .inr ⟨_, by rw [dropped]; rfl, vacated.ended ended⟩
  | view src =>
      obtain ⟨x, present⟩ := permitted
      simp only [Lands, step, withHeld_eq present, (sound.backed src x present).view]
      exact .inr ⟨s, rfl, sound⟩
  | get src index =>
      obtain ⟨v, present⟩ := permitted
      simp only [Lands, step, withVector, withHeld_eq present]
      obtain ⟨stop, failed, lawful⟩ | ⟨bits, got⟩ := get_lawful (sound.backed src _ present) index
      · exact .inl ⟨stop, by rw [failed]; rfl, lawful⟩
      · exact .inr ⟨s, by rw [got]; rfl, sound⟩
  | set src index bits =>
      obtain ⟨v, present⟩ := permitted
      simp only [Lands, step, withVector, withHeld_eq present]
      obtain ⟨stop, failed, lawful⟩ | ⟨after, written, still⟩ := sound.set present index bits
      · exact .inl ⟨stop, by rw [failed]; rfl, lawful⟩
      · exact .inr ⟨_, by rw [written]; rfl, still⟩
  | allocate dst layout => exact sound.allocate dst layout
  | release src =>
      obtain ⟨p, present, releasable⟩ := permitted
      simp only [Lands, step, moving, withHeld_eq present, Holding.pointer]
      obtain ⟨after, released, still⟩ := (sound.erase present).release releasable
      exact .inr ⟨_, by rw [released]; rfl, still⟩
  | reallocate src dst oldSize layout =>
      obtain ⟨p, present, lawful⟩ := permitted
      simp only [Lands, step, moving, withHeld_eq present, Holding.pointer]
      obtain ⟨stop, failed, lawful⟩ | ⟨new, memory, after, done, stored, still⟩ :=
        (sound.erase present).reallocate lawful dst layout
      · exact .inl ⟨stop, by rw [failed]; rfl, lawful⟩
      · exact .inr ⟨after, by rw [done]; exact stored, still⟩

theorem Reachable.sound (reachable : s.Reachable) : s.Sound := by
  induction reachable with
  | start => exact sound_start
  | step _ _ permitted done ih =>
      obtain ⟨stop, failed, _⟩ | ⟨after, landed, sound⟩ := ih.lands permitted
      · cases done.symm.trans failed
      · cases done.symm.trans landed
        exact sound

/-- What memory safety means for the holdings of a guest. -/
structure Safe (s : Holdings) : Prop where
  unshared : ∀ name other x y id, s.held.get? name = some x → s.held.get? other = some y →
    x.pointer = .block id → y.pointer = .block id → name = other
  /-- Nothing refers to a region that was released. -/
  live : ∀ name x id, s.held.get? name = some x → x.pointer = .block id →
    ∃ bytes, s.memory.block? id = some bytes ∧ x.byteLength ≤ bytes.length
  bounded : ∀ name x, s.held.get? name = some x → x.byteLength < 2 ^ 64
  balanced : s.memory.counters.allocations = s.memory.counters.releases + s.memory.blocks.size
  /-- An operation that does not return has failed an assertion or run out of memory. It has not read
  or released anything that is not live. -/
  lawful : ∀ act stop, s.Permitted act → s.step act = .error stop → stop.IsLawful
  dropped : ∀ src x, s.held.get? src = some x →
    ∃ after, s.step (.drop src) = .ok { memory := after, held := s.held.erase src } ∧
      Ended s.memory x after
  assigned : ∀ src dst x, src ≠ dst → s.held.get? src = some x →
    ∃ after, s.step (.assign src dst) =
        .ok { memory := after, held := (s.held.erase src).put dst x } ∧
      s.Replaced dst after
  taken : ∀ src dst x, src ≠ dst → s.held.get? src = some x →
    ∃ after left, left.IsBlank ∧ left.drop after = .ok after ∧
      s.step (.take src dst) =
        .ok { memory := after, held := (s.held.put src left).put dst x } ∧
      s.Replaced dst after
  leaked : ∀ src dst x, src ≠ dst → s.held.get? src = some x →
    ∃ after left, left.IsBlank ∧ left.drop after = .ok after ∧
      s.step (.leak src dst) =
        .ok { memory := after, held := (s.held.put src left).put dst (.region x.pointer) } ∧
      s.Replaced dst after

private theorem Replaced.of_get? {held : Registers Holding}
    (replaced : ({ s with held } : Holdings).Replaced dst after)
    (same : held.get? dst = s.held.get? dst) : s.Replaced dst after := by
  unfold Replaced at replaced ⊢
  rwa [← same]

theorem Sound.toSafe (sound : s.Sound) : s.Safe where
  unshared := sound.unshared
  live name x id found pointer := (sound.backed name x found).exists_block pointer
  bounded name x found := by
    have small := (sound.backed name x found).byteLength_lt sound.memory
    exact Nat.lt_trans small (by decide)
  balanced := sound.memory.balanced
  lawful act stop permitted failed := by
    obtain ⟨other, same, lawful⟩ | ⟨after, done, _⟩ := sound.lands permitted
    · cases failed.symm.trans same
      exact lawful
    · cases failed.symm.trans done
  dropped src x present := by
    obtain ⟨after, dropped, ended⟩ := (sound.backed src x present).drop
    refine ⟨after, ?_, ended⟩
    simp only [step, moving, withHeld_eq present]
    rw [dropped]
    rfl
  assigned src dst x apart present := by
    obtain ⟨after, stored, replaced, _⟩ := (sound.erase present).store dst
    refine ⟨after, ?_, replaced.of_get? ((s.held.get?_erase src dst).trans (if_neg (Ne.symm apart)))⟩
    simp only [step, moving, withHeld_eq present]
    exact stored
  taken src dst x apart present := by
    obtain ⟨after, stored, replaced, _⟩ := (sound.put_blank present x.take_isBlank).store dst
    refine ⟨after, _, x.take_isBlank, x.take_isBlank.drop_eq after, ?_,
      replaced.of_get? ((s.held.get?_put src _ dst).trans (if_neg (Ne.symm apart)))⟩
    simp only [step, withHeld_eq present, x.take_fst]
    exact stored
  leaked src dst x apart present := by
    obtain ⟨after, stored, replaced, _⟩ := (sound.put_blank present x.leak_isBlank).leak.store dst
    refine ⟨after, _, x.leak_isBlank, x.leak_isBlank.drop_eq after, ?_,
      replaced.of_get? ((s.held.get?_put src _ dst).trans (if_neg (Ne.symm apart)))⟩
    simp only [step, withHeld_eq present, x.leak_fst]
    exact stored

/-- Guest code that keeps the contracts is safe at every point of every run. -/
theorem Reachable.safe (reachable : s.Reachable) : s.Safe := reachable.sound.toSafe

/-- A text leaks, is made larger and is adopted as two elements, while another vector is there to be
assigned over. -/
theorem safe_of_adopted :
    ∃ s : Holdings, s.Reachable ∧
      s.held.get? "pair" =
        some (.vector { element := { size := 4, align := 4 }, pointer := .block 1, length := 2 }) ∧
      s.memory.counters = { allocations := 2, releases := 0 } ∧ s.Safe := by
  have reachable : Holdings.Reachable _ :=
    .step (.copyElements "other" { size := 4, align := 4 } [7])
      (.step (.adoptVector "raw" "pair" { size := 4, align := 4 } 2)
        (.step (.reallocate "raw" "raw" 3 { size := 8, align := 4 })
          (.step (.leak "text" "raw")
            (.step (.copyBytes "text" [1, 2, 3]) .start trivial rfl) ⟨_, rfl⟩ rfl)
          ⟨_, rfl, _, rfl, rfl⟩ rfl)
        ⟨_, rfl, _, rfl, Nat.le_refl 8⟩ rfl)
      trivial rfl
  exact ⟨_, reachable, rfl, rfl, reachable.safe⟩

end Holdings

end Custody.Memory
