import Custody.Proofs.Memory.Blocks

/-!
# A region that is reallocated again and again

A caller that starts from nothing asks for regions of one size after the other, passes each back with
its size, and writes into the one that it has. What a pointer means depends on the size that it came
with. A region without bytes is an address that is never looked at again, whatever it is; a region with
bytes is a live block, and reallocation moves what it holds. So a chain of requests holds one block or
none, according to the size it has come to.
-/

set_option autoImplicit false

namespace Custody.Memory

/-- What a reallocation hands over to be freed, moved or, when it is null, obtained. -/
def handed? (p : Pointer) (oldSize newSize : Nat) : Option Pointer :=
  if oldSize = 0 then
    if newSize = 0 then none else some .null
  else some p

/-- A reallocation does nothing with a pointer but to hand it over. -/
theorem realloc_congr (m : Memory) {p q : Pointer} {oldSize : Nat} {layout : Layout}
    (same : handed? p oldSize layout.size = handed? q oldSize layout.size) :
    m.realloc p oldSize layout = m.realloc q oldSize layout := by
  unfold realloc
  by_cases none : oldSize = 0
  · simp only [none, if_true]
  · unfold handed? at same
    rw [if_neg none, if_neg none] at same
    cases same
    rfl

/-- A pointer with its size, as a chain of requests has come to it. -/
structure Chain where
  memory : Memory
  pointer : Pointer := .null
  size : Nat := 0

namespace Chain

/-- What happens next in a chain: a request, or bytes that are written into the region. -/
inductive Link where
  | resize (align newSize : UInt64)
  | write (offset : Nat) (bytes : List UInt8)

namespace Link

def sizeAfter (size : Nat) : Link → Nat
  | .resize _ newSize => newSize.toNat
  | .write _ _ => size

/-- Bytes are written inside the region, and a region is asked for with an alignment that every region
has and a size that is to be had. -/
def IsLawful (size : Nat) : Link → Prop
  | .resize align newSize =>
      newSize ≠ 0 → align.toNat ≤ guaranteedAlignment ∧ newSize.toNat < sizeLimit
  | .write offset bytes => offset + bytes.length ≤ size

instance (size : Nat) (link : Link) : Decidable (link.IsLawful size) :=
  match link with
  | .resize align newSize =>
      inferInstanceAs (Decidable
        (newSize ≠ 0 → align.toNat ≤ guaranteedAlignment ∧ newSize.toNat < sizeLimit))
  | .write offset bytes => inferInstanceAs (Decidable (offset + bytes.length ≤ size))

end Link

def AreLawful : Nat → List Link → Prop
  | _, [] => True
  | size, link :: rest => link.IsLawful size ∧ AreLawful (link.sizeAfter size) rest

instance decidableAreLawful : (size : Nat) → (links : List Link) → Decidable (AreLawful size links)
  | _, [] => inferInstanceAs (Decidable True)
  | size, link :: rest =>
      have := decidableAreLawful (link.sizeAfter size) rest
      inferInstanceAs (Decidable (link.IsLawful size ∧ AreLawful (link.sizeAfter size) rest))

def step (c : Chain) : Link → Except Stop Chain
  | .resize align newSize => do
      let (pointer, memory) ← c.memory.realloc c.pointer c.size
        { size := newSize.toNat, align := align.toNat }
      return { memory, pointer, size := newSize.toNat }
  | .write offset bytes => do
      return { c with memory := ← c.memory.write c.pointer offset bytes }

def run (first : Memory) (links : List Link) : Except Stop Chain :=
  links.foldlM step { memory := first }

/-! ## What a chain has -/

/-- A chain has a block of its size, or none, beside what was there at first. -/
structure Held (first : Memory) (c : Chain) : Prop where
  region : c.size ≠ 0 →
    ∃ id bytes, c.pointer = .block id ∧ c.memory.block? id = some bytes ∧ bytes.length = c.size
  unheld : ∀ id, c.pointer = .block id → c.size ≠ 0
  fresh : ∀ id, c.pointer = .block id → first.block? id = none
  others : ∀ id, c.pointer ≠ .block id → c.memory.block? id = first.block? id
  counted : ∃ released,
    c.memory.counters =
      { allocations := first.counters.allocations + released + if c.size = 0 then 0 else 1
        releases := first.counters.releases + released }

theorem held_start (first : Memory) : Held first { memory := first } where
  region nonempty := absurd rfl nonempty
  unheld := nofun
  fresh := nofun
  others _ _ := rfl
  counted := ⟨0, rfl⟩

/-- What a request does to a chain. -/
structure Resized (c : Chain) (align newSize : UInt64) (after : Chain) : Prop where
  size_eq : after.size = newSize.toNat
  /-- The bytes that the old and the new region both have are the same. -/
  kept : ∃ bytes, c.memory.read c.pointer 0 (min c.size newSize.toNat) = .ok bytes ∧
    after.memory.read after.pointer 0 (min c.size newSize.toNat) = .ok bytes
  /-- For an empty region the alignment is returned. -/
  empty : newSize = 0 → after.pointer = .ofAddress align
  counters_eq : after.memory.counters =
    { allocations :=
        c.memory.counters.allocations + if c.size = 0 ∧ newSize ≠ 0 then 1 else 0
      releases := c.memory.counters.releases + if c.size ≠ 0 ∧ newSize = 0 then 1 else 0 }
  /-- Only a live block of the size at hand is freed or moved. -/
  handed : ∀ p, handed? c.pointer c.size newSize.toNat = some p →
    c.size = 0 ∧ p = .null ∨
      ∃ id bytes, p = .block id ∧ c.memory.block? id = some bytes ∧ bytes.length = c.size
  /-- The pointer of an empty region makes no difference. -/
  unread : c.size = 0 → ∀ other,
    c.memory.realloc other 0 { size := newSize.toNat, align := align.toNat } =
      .ok (after.pointer, after.memory)

/-- What a link does to a chain. Writing counts nothing. -/
def Continues (c : Chain) : Link → Chain → Prop
  | .resize align newSize, after => c.Resized align newSize after
  | .write _ _, after =>
      after.pointer = c.pointer ∧ after.size = c.size ∧ after.memory.counters = c.memory.counters

variable {first : Memory} {c : Chain}

theorem Held.no_block_iff (held : c.Held first) : (∀ id, c.pointer ≠ .block id) ↔ c.size = 0 := by
  constructor
  · intro none
    refine Decidable.byContradiction fun nonempty => ?_
    obtain ⟨id, _, block, _⟩ := held.region nonempty
    exact none id block
  · exact fun empty id block => held.unheld id block empty

theorem Held.others_of_block {id other : Nat} (held : c.Held first) (block : c.pointer = .block id)
    (different : other ≠ id) : c.memory.block? other = first.block? other := by
  refine held.others other fun also => different ?_
  rw [block] at also
  cases also
  rfl

theorem Held.length_eq {id : Nat} {bytes : List UInt8} (held : c.Held first)
    (block : c.pointer = .block id) (live : c.memory.block? id = some bytes) :
    bytes.length = c.size := by
  obtain ⟨own, content, block', live', length⟩ := held.region (held.unheld id block)
  rw [block] at block'
  cases block'
  rw [live] at live'
  cases live'
  exact length

theorem Held.reallocatable (held : c.Held first) : c.memory.Reallocatable c.pointer c.size := by
  cases pointer : c.pointer with
  | null => trivial
  | dangling address => exact held.no_block_iff.1 (by simp [pointer])
  | block id =>
      obtain ⟨own, bytes, block, live, length⟩ := held.region (held.unheld id pointer)
      rw [pointer] at block
      cases block
      exact ⟨bytes, live, length⟩

theorem Held.handed (held : c.Held first) {newSize : Nat} {p : Pointer}
    (handed : handed? c.pointer c.size newSize = some p) :
    c.size = 0 ∧ p = .null ∨
      ∃ id bytes, p = .block id ∧ c.memory.block? id = some bytes ∧ bytes.length = c.size := by
  unfold handed? at handed
  by_cases none : c.size = 0
  · rw [if_pos none] at handed
    split at handed
    · cases handed
    · cases handed
      exact .inl ⟨none, rfl⟩
  · rw [if_neg none] at handed
    cases handed
    exact .inr (held.region none)

theorem window_resized (bytes : List UInt8) {size count : Nat} (old : count ≤ bytes.length)
    (new : count ≤ size) : window (resized bytes size) 0 count = window bytes 0 count := by
  unfold window resized
  rw [List.drop_zero, List.drop_zero, List.take_append_of_le_length, List.take_take,
    Nat.min_eq_left new]
  rw [List.length_take]
  exact Nat.le_min.2 ⟨new, old⟩

variable {pointer : Pointer} {memory : Memory} {layout : Layout}

theorem Held.reallocated (held : c.Held first)
    (reallocated : c.memory.Reallocated c.pointer layout pointer memory) :
    Held first { memory, pointer, size := layout.size } := by
  obtain ⟨released, counted⟩ := held.counted
  cases reallocated with
  | nothing empty unheld =>
      have none := held.no_block_iff.1 unheld
      constructor
      case region => exact fun nonempty => absurd empty nonempty
      case unheld => exact fun id block => absurd block (Pointer.ofAddress_ne_block _ id)
      case fresh => exact fun id block => absurd block (Pointer.ofAddress_ne_block _ id)
      case others => exact fun id _ => held.others id (unheld id)
      case counted =>
        refine ⟨released, counted.trans ?_⟩
        simp only [none, empty]
  | @freed id _ empty block freed =>
      have some := held.unheld id block
      constructor
      case region => exact fun nonempty => absurd empty nonempty
      case unheld => exact fun id block => absurd block (Pointer.ofAddress_ne_block _ id)
      case fresh => exact fun id block => absurd block (Pointer.ofAddress_ne_block _ id)
      case others =>
        intro other _
        rw [freed.block?_eq]
        split
        · rename_i same
          rw [same, held.fresh id block]
        · rename_i different
          exact held.others_of_block block different
      case counted =>
        refine ⟨released + 1, ?_⟩
        rw [freed.counters_eq, counted]
        simp only [some, empty, if_false, if_true]
        rfl
  | @obtained id _ size unheld obtained =>
      have none := held.no_block_iff.1 unheld
      constructor
      case region =>
        exact fun _ => ⟨id, _, rfl, (obtained.block?_eq id).trans (if_pos rfl), List.length_replicate⟩
      case unheld => exact fun _ _ => Nat.ne_of_gt size.1
      case fresh =>
        intro own block
        cases block
        rw [← held.others id (unheld id)]
        exact obtained.absent
      case others =>
        intro other different
        rw [obtained.block?_eq, if_neg fun same => different (by rw [same])]
        exact held.others other (unheld other)
      case counted =>
        refine ⟨released, ?_⟩
        rw [obtained.counters_eq, counted]
        simp only [none, Nat.ne_of_gt size.1, if_false, if_true]
  | @moved id new bytes _ size block live moved =>
      have some := held.unheld id block
      have apart : new ≠ id := fun same => by
        rw [← same, moved.absent] at live
        cases live
      constructor
      case region =>
        exact fun _ => ⟨new, _, rfl, (moved.block?_eq new).trans (if_pos rfl), length_resized _ _⟩
      case unheld => exact fun _ _ => Nat.ne_of_gt size.1
      case fresh =>
        intro own block'
        cases block'
        rw [← held.others_of_block block apart, moved.absent]
      case others =>
        intro other different
        rw [moved.block?_eq, if_neg fun same => different (by rw [same])]
        split
        · rename_i same
          rw [same, held.fresh id block]
        · rename_i different
          exact held.others_of_block block different
      case counted =>
        refine ⟨released, ?_⟩
        rw [moved.counters_eq, counted]
        simp only [some, Nat.ne_of_gt size.1, if_false]

theorem Held.resized (held : c.Held first) {align newSize : UInt64}
    (reallocated : c.memory.Reallocated c.pointer
      { size := newSize.toNat, align := align.toNat } pointer memory)
    (done : c.memory.realloc c.pointer c.size { size := newSize.toNat, align := align.toNat } =
      .ok (pointer, memory)) :
    c.Resized align newSize { memory, pointer, size := newSize.toNat } := by
  have zero_iff : newSize = 0 ↔ newSize.toNat = 0 := by
    rw [← UInt64.toNat_inj, UInt64.toNat_zero]
  constructor
  case size_eq => rfl
  case kept =>
    cases reallocated with
    | nothing empty _ | freed empty _ _ =>
        rw [show newSize.toNat = 0 from empty, Nat.min_zero]
        exact ⟨[], read_nothing .., read_nothing ..⟩
    | obtained _ unheld _ =>
        rw [held.no_block_iff.1 unheld, Nat.zero_min]
        exact ⟨[], read_nothing .., read_nothing ..⟩
    | moved _ block live moved =>
        have old := Nat.min_le_left c.size newSize.toNat
        have new := Nat.min_le_right c.size newSize.toNat
        rw [← held.length_eq block live] at old new ⊢
        refine ⟨_, by rw [block]; exact read_block live (by rwa [Nat.zero_add]), ?_⟩
        rw [← window_resized _ old new]
        exact read_block ((moved.block?_eq _).trans (if_pos rfl))
          (by rwa [Nat.zero_add, length_resized])
  case empty =>
    intro empty
    cases reallocated with
    | nothing | freed => rw [UInt64.ofNat_toNat]
    | obtained size | moved size => exact absurd (zero_iff.1 empty) (Nat.ne_of_gt size.1)
  case counters_eq =>
    cases reallocated with
    | nothing empty unheld =>
        have none := held.no_block_iff.1 unheld
        simp [none, zero_iff.2 empty]
    | freed empty block freed =>
        have some := held.unheld _ block
        simp [freed.counters_eq, some, zero_iff.2 empty]
    | obtained size unheld obtained =>
        have none := held.no_block_iff.1 unheld
        have full : newSize ≠ 0 := fun empty => Nat.ne_of_gt size.1 (zero_iff.1 empty)
        simp [obtained.counters_eq, none, full]
    | moved size block live moved =>
        have some := held.unheld _ block
        have full : newSize ≠ 0 := fun empty => Nat.ne_of_gt size.1 (zero_iff.1 empty)
        simp [moved.counters_eq, some, full]
  case handed => exact fun p handed => held.handed handed
  case unread =>
    intro none other
    rw [← done, none]
    exact realloc_congr _ (by simp only [handed?, if_true])

theorem Held.resize (held : c.Held first) {align newSize : UInt64}
    (lawful : (Link.resize align newSize).IsLawful c.size) :
    ∃ after, c.step (.resize align newSize) = .ok after ∧ c.Resized align newSize after ∧
      after.Held first := by
  have granted : newSize.toNat = 0 ∨
      ¬(guaranteedAlignment < align.toNat ∨ sizeLimit ≤ newSize.toNat) := by
    by_cases empty : newSize = 0
    · exact .inl (by rw [empty, UInt64.toNat_zero])
    · have fine := lawful empty
      exact .inr (by omega)
  obtain ⟨pointer, memory, done, reallocated⟩ := @realloc_held c.memory c.pointer c.size
    held.reallocatable held.unheld { size := newSize.toNat, align := align.toNat } granted
  refine ⟨{ memory, pointer, size := newSize.toNat }, ?_, held.resized reallocated done,
    held.reallocated reallocated⟩
  simp only [step, done]
  rfl

theorem Held.write (held : c.Held first) {offset : Nat} {bytes : List UInt8}
    (lawful : (Link.write offset bytes).IsLawful c.size) :
    ∃ memory, c.memory.write c.pointer offset bytes = .ok memory ∧
      memory.counters = c.memory.counters ∧ Held first { c with memory } := by
  by_cases none : c.size = 0
  · have nothing : bytes = [] := by
      refine List.eq_nil_of_length_eq_zero ?_
      have inside : offset + bytes.length ≤ c.size := lawful
      omega
    rw [nothing]
    exact ⟨c.memory, write_nothing .., rfl, held⟩
  · obtain ⟨id, content, block, live, length⟩ := held.region none
    obtain ⟨memory, written, rewritten⟩ := write_block bytes offset live (length ▸ lawful)
    refine ⟨memory, block ▸ written, rewritten.counters_eq, ?_⟩
    constructor
    case region =>
      refine fun _ => ⟨id, _, block, (rewritten.block?_eq id).trans (if_pos rfl), ?_⟩
      rw [length_patched (length ▸ lawful), length]
    case unheld => exact held.unheld
    case fresh => exact held.fresh
    case others =>
      intro other different
      rw [rewritten.block?_eq, if_neg fun same => different (by rw [same, block])]
      exact held.others other different
    case counted => exact rewritten.counters_eq ▸ held.counted

theorem Held.step (held : c.Held first) {link : Link} (lawful : link.IsLawful c.size) :
    ∃ after, c.step link = .ok after ∧ after.size = link.sizeAfter c.size ∧
      c.Continues link after ∧ after.Held first := by
  cases link with
  | resize align newSize =>
      obtain ⟨after, done, resized, held⟩ := held.resize lawful
      exact ⟨after, done, resized.size_eq, resized, held⟩
  | write offset bytes =>
      obtain ⟨memory, written, counters, held⟩ := held.write lawful
      refine ⟨{ c with memory }, ?_, rfl, ⟨rfl, rfl, counters⟩, held⟩
      simp only [Chain.step, written]
      rfl

theorem Held.run (held : c.Held first) {links : List Link} (lawful : AreLawful c.size links) :
    ∃ after, links.foldlM Chain.step c = .ok after ∧
      after.size = links.foldl Link.sizeAfter c.size ∧ after.Held first := by
  induction links generalizing c with
  | nil => exact ⟨c, rfl, rfl, held⟩
  | cons link rest ih =>
      obtain ⟨next, done, size, _, held⟩ := held.step lawful.1
      obtain ⟨after, ran, sizes, held⟩ := ih held (size ▸ lawful.2)
      refine ⟨after, ?_, ?_, held⟩
      · rw [List.foldlM_cons, done]
        exact ran
      · rw [sizes, size, List.foldl_cons]

theorem Held.adopted (held : c.Held first) :
    ∃ after, (Buffer.ofRaw c.pointer c.size).drop c.memory = .ok after ∧
      (∃ released, after.counters =
        { allocations := first.counters.allocations + released
          releases := first.counters.releases + released }) ∧
      ∀ id, after.block? id = first.block? id := by
  obtain ⟨released, counted⟩ := held.counted
  by_cases none : c.size = 0
  · have nothing : (Buffer.ofRaw c.pointer c.size).length = 0 := by
      unfold Buffer.ofRaw
      split
      · rfl
      · exact none
    refine ⟨c.memory, if_neg (by omega), ⟨released, counted.trans ?_⟩, fun id => ?_⟩
    · simp only [none, if_true]
      rfl
    · exact held.others id (held.no_block_iff.2 none id)
  · obtain ⟨id, bytes, block, live, _⟩ := held.region none
    obtain ⟨after, given, freed⟩ := release_block live
    refine ⟨after, ?_, ⟨released + 1, ?_⟩, fun other => ?_⟩
    · rw [block]
      exact (if_pos (Nat.pos_of_ne_zero none)).trans given
    · rw [freed.counters_eq, counted]
      simp only [none, if_false]
      rfl
    · rw [freed.block?_eq]
      split
      · rename_i same
        rw [same, held.fresh id block]
      · rename_i different
        exact held.others_of_block block different

/-! ## Chains of any length -/

/-- A chain that has come to a size, and goes on from there. -/
structure Lasts (first : Memory) (c : Chain) : Prop where
  /-- One region more was obtained than given back, unless the size is zero. -/
  counted : ∃ released, c.memory.counters =
    { allocations := first.counters.allocations + released + if c.size = 0 then 0 else 1
      releases := first.counters.releases + released }
  /-- A buffer that adopts the region and is dropped leaves memory as it was before the chain. -/
  adopted : ∃ after, (Buffer.ofRaw c.pointer c.size).drop c.memory = .ok after ∧
    (∃ released, after.counters =
      { allocations := first.counters.allocations + released
        releases := first.counters.releases + released }) ∧
    ∀ id, after.block? id = first.block? id
  goes_on : ∀ link, link.IsLawful c.size → ∃ after, c.step link = .ok after ∧ c.Continues link after

/-- Every chain of lawful requests and writes succeeds, keeps what its regions have in common, and
leaves one region at most. -/
theorem run_lasts (first : Memory) {links : List Link} (lawful : AreLawful 0 links) :
    ∃ c, run first links = .ok c ∧ c.size = links.foldl Link.sizeAfter 0 ∧ c.Lasts first := by
  obtain ⟨c, ran, size, held⟩ := (held_start first).run lawful
  refine ⟨c, ran, size, held.counted, held.adopted, fun link lawful => ?_⟩
  obtain ⟨after, done, _, continues, _⟩ := held.step lawful
  exact ⟨after, done, continues⟩

/-- A region is obtained, written, grown, given up for an empty one, and obtained again. -/
def toAndFro : List Link :=
  [.resize 1 2, .write 0 [7, 8], .resize 1 4, .resize 8 0, .resize 4 3]

theorem toAndFro_lasts :
    AreLawful 0 toAndFro ∧ ∃ c, run {} toAndFro = .ok c ∧ c.size = 3 ∧ c.Lasts {} := by
  have lawful : AreLawful 0 toAndFro := by decide
  exact ⟨lawful, run_lasts {} lawful⟩

end Chain

end Custody.Memory
