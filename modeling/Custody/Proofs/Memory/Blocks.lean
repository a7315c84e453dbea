import Custody.Memory.Buffer
import Custody.Memory.ElementVector

/-!
# Blocks of memory

What each operation does to the live blocks and to the counters. A block is obtained under a number
that no live block has, it is freed once, and reallocation moves it without counting anything. All
other blocks stay as they are.
-/

set_option autoImplicit false

namespace Custody

/-- The ends that guest code may come to without breaking a promise. -/
def Stop.IsLawful : Stop → Prop
  | .panic _ | .abort _ => True
  | .misuse | .exhausted => False

theorem Pointer.ofAddress_ne_block (address : UInt64) (id : Nat) :
    Pointer.ofAddress address ≠ .block id := by
  unfold Pointer.ofAddress
  split <;> nofun

namespace Memory

def IsSize (size : Nat) : Prop := 0 < size ∧ size < sizeLimit

/-- Every region obtained is live or was given back. -/
structure Sound (m : Memory) : Prop where
  balanced : m.counters.allocations = m.counters.releases + m.blocks.size
  sized : ∀ id bytes, m.block? id = some bytes → IsSize bytes.length

theorem sound_fresh : ({} : Memory).Sound where
  balanced := rfl
  sized := nofun

/-! ## What an operation changes -/

structure Obtained (m : Memory) (bytes : List UInt8) (id : Nat) (after : Memory) : Prop where
  absent : m.block? id = none
  block?_eq : ∀ other, after.block? other = if other = id then some bytes else m.block? other
  counters_eq : after.counters = { m.counters with allocations := m.counters.allocations + 1 }
  size_eq : after.blocks.size = m.blocks.size + 1

structure Freed (m : Memory) (id : Nat) (after : Memory) : Prop where
  live : ∃ bytes, m.block? id = some bytes
  block?_eq : ∀ other, after.block? other = if other = id then none else m.block? other
  counters_eq : after.counters = { m.counters with releases := m.counters.releases + 1 }
  size_eq : m.blocks.size = after.blocks.size + 1

structure Rewritten (m : Memory) (id : Nat) (bytes : List UInt8) (after : Memory) : Prop where
  block?_eq : ∀ other, after.block? other = if other = id then some bytes else m.block? other
  counters_eq : after.counters = m.counters
  size_eq : after.blocks.size = m.blocks.size

structure Moved (m : Memory) (old : Nat) (bytes : List UInt8) (new : Nat) (after : Memory) :
    Prop where
  absent : m.block? new = none
  block?_eq : ∀ other, after.block? other =
    if other = new then some bytes else if other = old then none else m.block? other
  counters_eq : after.counters = m.counters
  size_eq : after.blocks.size = m.blocks.size

variable {m middle after : Memory} {id new : Nat} {bytes content : List UInt8}

theorem Obtained.sound (obtained : m.Obtained bytes id after) (sound : m.Sound)
    (size : IsSize bytes.length) : after.Sound := by
  constructor
  · rw [obtained.counters_eq, obtained.size_eq]
    have balanced := sound.balanced
    dsimp only
    omega
  · intro other found present
    rw [obtained.block?_eq] at present
    split at present
    · cases present
      exact size
    · exact sound.sized other found present

theorem Freed.sound (freed : m.Freed id after) (sound : m.Sound) : after.Sound := by
  constructor
  · have balanced := sound.balanced
    have fewer := freed.size_eq
    rw [freed.counters_eq]
    dsimp only
    omega
  · intro other found present
    rw [freed.block?_eq] at present
    split at present
    · cases present
    · exact sound.sized other found present

theorem Rewritten.sound (rewritten : m.Rewritten id bytes after) (sound : m.Sound)
    (size : IsSize bytes.length) : after.Sound := by
  constructor
  · rw [rewritten.counters_eq, rewritten.size_eq]
    exact sound.balanced
  · intro other found present
    rw [rewritten.block?_eq] at present
    split at present
    · cases present
      exact size
    · exact sound.sized other found present

theorem Moved.sound (moved : m.Moved id bytes new after) (sound : m.Sound)
    (size : IsSize bytes.length) : after.Sound := by
  constructor
  · rw [moved.counters_eq, moved.size_eq]
    exact sound.balanced
  · intro other found present
    rw [moved.block?_eq] at present
    split at present
    · cases present
      exact size
    · split at present
      · cases present
      · exact sound.sized other found present

theorem Obtained.rewritten (obtained : m.Obtained bytes id middle)
    (rewritten : middle.Rewritten id content after) : m.Obtained content id after where
  absent := obtained.absent
  block?_eq other := by
    rw [rewritten.block?_eq, obtained.block?_eq]
    by_cases same : other = id
    · rw [if_pos same, if_pos same]
    · rw [if_neg same, if_neg same, if_neg same]
  counters_eq := rewritten.counters_eq.trans obtained.counters_eq
  size_eq := rewritten.size_eq.trans obtained.size_eq

/-! ## Allocation and release -/

theorem obtained_obtain (m : Memory) (bytes : List UInt8) :
    (m.obtain bytes).1 = .block m.blocks.next ∧
      m.Obtained bytes m.blocks.next (m.obtain bytes).2 := by
  refine ⟨rfl, m.blocks.get?_next, fun other => ?_, rfl, m.blocks.size_add bytes⟩
  by_cases same : other = m.blocks.next
  · subst same
    rw [if_pos rfl]
    exact m.blocks.get?_add_next bytes
  · rw [if_neg same]
    exact m.blocks.get?_add_of_ne bytes same

theorem outOfMemory_isLawful (layout : Layout) : (outOfMemory layout).IsLawful := trivial

theorem allocate_ok (m : Memory) (layout : Layout) (size : IsSize layout.size)
    (fine : layout.align ≤ guaranteedAlignment) :
    ∃ id after, m.allocate layout = .ok (.block id, after) ∧
      m.Obtained (List.replicate layout.size 0) id after := by
  obtain ⟨pointer, obtained⟩ := m.obtained_obtain (List.replicate layout.size 0)
  refine ⟨_, _, ?_, obtained⟩
  unfold allocate
  rw [if_neg (Nat.ne_of_gt size.1), if_neg (Nat.not_lt.2 fine), if_neg (Nat.not_le.2 size.2)]
  exact congrArg Except.ok (Prod.ext pointer rfl)

theorem allocate_cases (m : Memory) (layout : Layout) :
    (∃ stop, m.allocate layout = .error stop ∧ stop.IsLawful) ∨
    (IsSize layout.size ∧ ∃ id after, m.allocate layout = .ok (.block id, after) ∧
      m.Obtained (List.replicate layout.size 0) id after) := by
  by_cases empty : layout.size = 0
  · exact .inl ⟨_, if_pos empty, trivial⟩
  by_cases coarse : guaranteedAlignment < layout.align
  · exact .inl ⟨_, (if_neg empty).trans (if_pos coarse), trivial⟩
  by_cases large : sizeLimit ≤ layout.size
  · exact .inl ⟨_, (if_neg empty).trans ((if_neg coarse).trans (if_pos large)),
      outOfMemory_isLawful layout⟩
  · have size : IsSize layout.size := ⟨Nat.pos_of_ne_zero empty, Nat.lt_of_not_le large⟩
    exact .inr ⟨size, m.allocate_ok layout size (Nat.le_of_not_lt coarse)⟩

theorem release_null (m : Memory) : m.release .null = .ok m := rfl

theorem release_block (live : m.block? id = some bytes) :
    ∃ after, m.release (.block id) = .ok after ∧ m.Freed id after := by
  refine ⟨_, by rw [release, live], ⟨bytes, live⟩, fun other => ?_, rfl, m.blocks.size_erase live⟩
  by_cases same : other = id
  · subst same
    rw [if_pos rfl]
    exact m.blocks.get?_erase_self other
  · rw [if_neg same]
    exact m.blocks.get?_erase_of_ne same

/-! ## Reading and writing -/

theorem read_nothing (m : Memory) (p : Pointer) (offset : Nat) : m.read p offset 0 = .ok [] :=
  if_pos rfl

theorem write_nothing (m : Memory) (p : Pointer) (offset : Nat) : m.write p offset [] = .ok m := rfl

theorem read_block {offset size : Nat} (live : m.block? id = some bytes)
    (inside : offset + size ≤ bytes.length) :
    m.read (.block id) offset size = .ok (window bytes offset size) := by
  unfold read
  by_cases empty : size = 0
  · rw [if_pos empty, window, empty, List.take_zero]
  · simp only [empty, live, inside, if_true, if_false]

theorem length_patched {offset : Nat} (inside : offset + content.length ≤ bytes.length) :
    (patched bytes offset content).length = bytes.length := by
  simp only [patched, List.length_append, List.length_take, List.length_drop]
  omega

theorem write_block (content : List UInt8) (offset : Nat) (live : m.block? id = some bytes)
    (inside : offset + content.length ≤ bytes.length) :
    ∃ after, m.write (.block id) offset content = .ok after ∧
      m.Rewritten id (patched bytes offset content) after := by
  unfold write
  cases content with
  | nil =>
      refine ⟨m, rfl, fun other => ?_, rfl, rfl⟩
      by_cases same : other = id
      · rw [if_pos same, same, live, patched, List.append_nil, List.length_nil, Nat.add_zero,
          List.take_append_drop]
      · rw [if_neg same]
  | cons first rest =>
      simp only [List.isEmpty_cons, Bool.false_eq_true, live, inside, if_true, if_false]
      refine ⟨_, rfl, fun other => ?_, rfl, m.blocks.size_replace _ _⟩
      by_cases same : other = id
      · subst same
        rw [if_pos rfl]
        exact m.blocks.get?_replace_self _ live
      · rw [if_neg same]
        exact m.blocks.get?_replace_of_ne _ same

theorem Obtained.fill {size : Nat} (obtained : m.Obtained (List.replicate size 0) id middle)
    (whole : content.length = size) :
    ∃ after, middle.write (.block id) 0 content = .ok after ∧ m.Obtained content id after := by
  have live : middle.block? id = some (List.replicate size 0) :=
    (obtained.block?_eq id).trans (if_pos rfl)
  obtain ⟨after, written, rewritten⟩ := write_block content 0 live (by
    rw [List.length_replicate]
    omega)
  have filled : patched (List.replicate size 0) 0 content = content := by
    simp [patched, whole]
  rw [filled] at rewritten
  exact ⟨after, written, obtained.rewritten rewritten⟩

/-! ## Reallocation -/

/-- What the guest promises about a pointer that it has reallocated: it is null, or it stands for an
empty region, or it is a live region of the size given. -/
def Reallocatable (m : Memory) (p : Pointer) (oldSize : Nat) : Prop :=
  match p with
  | .null => True
  | .dangling _ => oldSize = 0
  | .block id => ∃ bytes, m.block? id = some bytes ∧ bytes.length = oldSize

theorem length_resized (bytes : List UInt8) (size : Nat) : (resized bytes size).length = size := by
  simp only [resized, List.length_append, List.length_take, List.length_replicate]
  omega

private theorem moved_resized (live : m.block? id = some bytes) (size : Nat) :
    m.Moved id (resized bytes size) m.blocks.next
      { m with blocks := ((m.blocks.erase id).add (resized bytes size)).2 } := by
  refine ⟨m.blocks.get?_next, fun other => ?_, rfl, ?_⟩
  · by_cases newest : other = m.blocks.next
    · subst newest
      rw [if_pos rfl]
      exact (m.blocks.erase id).get?_add_next _
    · rw [if_neg newest]
      refine ((m.blocks.erase id).get?_add_of_ne _ newest).trans ?_
      by_cases same : other = id
      · subst same
        rw [if_pos rfl]
        exact m.blocks.get?_erase_self other
      · rw [if_neg same]
        exact m.blocks.get?_erase_of_ne same
  · exact (m.blocks.size_erase live).symm

/-- Reallocation ends lawfully, or it frees, or it stands still, or it obtains, or it moves. -/
inductive Reallocated (m : Memory) (p : Pointer) (layout : Layout) :
    Pointer → Memory → Prop where
  | nothing (empty : layout.size = 0) (unheld : ∀ id, p ≠ .block id) :
      Reallocated m p layout (.ofAddress (.ofNat layout.align)) m
  | freed {id : Nat} {after : Memory} (empty : layout.size = 0) (pointer : p = .block id)
      (freed : m.Freed id after) :
      Reallocated m p layout (.ofAddress (.ofNat layout.align)) after
  | obtained {id : Nat} {after : Memory} (size : IsSize layout.size)
      (unheld : ∀ id, p ≠ .block id)
      (obtained : m.Obtained (List.replicate layout.size 0) id after) :
      Reallocated m p layout (.block id) after
  | moved {id new : Nat} {bytes : List UInt8} {after : Memory} (size : IsSize layout.size)
      (pointer : p = .block id) (live : m.block? id = some bytes)
      (moved : m.Moved id (resized bytes layout.size) new after) :
      Reallocated m p layout (.block new) after

theorem realloc_refused (p : Pointer) (oldSize : Nat) {layout : Layout} (some : layout.size ≠ 0)
    (refused : guaranteedAlignment < layout.align ∨ sizeLimit ≤ layout.size) :
    m.realloc p oldSize layout = .error (outOfMemory layout) := by
  unfold realloc
  rw [if_neg some, if_pos refused]
  rfl

/-- A granted request succeeds, when a block is passed back with the bytes that it has. -/
theorem realloc_held {p : Pointer} {oldSize : Nat} (lawful : m.Reallocatable p oldSize)
    (some : ∀ id, p = .block id → oldSize ≠ 0) {layout : Layout}
    (granted : layout.size = 0 ∨ ¬(guaranteedAlignment < layout.align ∨ sizeLimit ≤ layout.size)) :
    ∃ new after, m.realloc p oldSize layout = .ok (new, after) ∧
      m.Reallocated p layout new after := by
  unfold realloc
  by_cases empty : layout.size = 0
  · rw [if_pos empty]
    cases p with
    | null =>
        refine ⟨_, m, ?_, .nothing empty nofun⟩
        split <;> rfl
    | dangling address =>
        have none : oldSize = 0 := lawful
        exact ⟨_, m, by rw [if_pos none]; rfl, .nothing empty nofun⟩
    | block id =>
        obtain ⟨bytes, live, length⟩ := lawful
        obtain ⟨after, released, freed⟩ := release_block live
        exact ⟨_, after, by rw [if_neg (some id rfl), released]; rfl, .freed empty rfl freed⟩
  · have fine := granted.resolve_left empty
    rw [if_neg empty, if_neg fine]
    have size : IsSize layout.size := ⟨by omega, by omega⟩
    cases p with
    | null =>
        obtain ⟨pointer, obtained⟩ := m.obtained_obtain (List.replicate layout.size 0)
        exact ⟨_, _, by rw [ite_self]; rfl, .obtained size nofun obtained⟩
    | dangling address =>
        have none : oldSize = 0 := lawful
        obtain ⟨pointer, obtained⟩ := m.obtained_obtain (List.replicate layout.size 0)
        exact ⟨_, _, by rw [if_pos none]; rfl, .obtained size nofun obtained⟩
    | block id =>
        obtain ⟨bytes, live, length⟩ := lawful
        refine ⟨_, _, ?_, .moved size rfl live (moved_resized live layout.size)⟩
        rw [if_neg (some id rfl)]
        dsimp only
        rw [live]
        rfl

theorem realloc_granted {p : Pointer} {oldSize : Nat} (sound : m.Sound)
    (lawful : m.Reallocatable p oldSize) {layout : Layout}
    (granted : layout.size = 0 ∨ ¬(guaranteedAlignment < layout.align ∨ sizeLimit ≤ layout.size)) :
    ∃ new after, m.realloc p oldSize layout = .ok (new, after) ∧
      m.Reallocated p layout new after := by
  refine realloc_held lawful (fun id pointer => ?_) granted
  subst pointer
  obtain ⟨bytes, live, rfl⟩ := lawful
  exact Nat.ne_of_gt (sound.sized id bytes live).1

theorem realloc_cases {p : Pointer} {oldSize : Nat} (sound : m.Sound)
    (lawful : m.Reallocatable p oldSize) (layout : Layout) :
    (∃ stop, m.realloc p oldSize layout = .error stop ∧ stop.IsLawful) ∨
    ∃ new after, m.realloc p oldSize layout = .ok (new, after) ∧
      m.Reallocated p layout new after := by
  by_cases granted :
      layout.size = 0 ∨ ¬(guaranteedAlignment < layout.align ∨ sizeLimit ≤ layout.size)
  · exact .inr (realloc_granted sound lawful granted)
  · obtain ⟨some, refused⟩ := not_or.1 granted
    exact .inl ⟨_, realloc_refused p oldSize some (Decidable.not_not.1 refused),
      outOfMemory_isLawful layout⟩

/-! ## Copies -/

theorem Buffer.ofBytes_nil (m : Memory) : Buffer.ofBytes m [] = .ok (.empty, m) := rfl

theorem Buffer.ofBytes_refused {stop : Stop} (full : bytes ≠ [])
    (refused : m.allocate { size := bytes.length, align := 1 } = .error stop) :
    Buffer.ofBytes m bytes = .error stop := by
  have some : bytes.isEmpty = false := by simp [full]
  simp only [Buffer.ofBytes, some, Bool.false_eq_true, if_false, bind, Except.bind, refused]

private theorem ofBytes_filled {size : Nat} (full : bytes ≠ []) (whole : bytes.length = size)
    (allocated : m.allocate { size := bytes.length, align := 1 } = .ok (.block id, middle))
    (obtained : m.Obtained (List.replicate size 0) id middle) :
    ∃ after, Buffer.ofBytes m bytes =
        .ok ({ pointer := .block id, length := bytes.length }, after) ∧
      m.Obtained bytes id after := by
  obtain ⟨after, written, filled⟩ := obtained.fill whole
  have some : bytes.isEmpty = false := by simp [full]
  refine ⟨after, ?_, filled⟩
  simp only [Buffer.ofBytes, some, Bool.false_eq_true, if_false, bind, Except.bind, allocated,
    written]
  rfl

theorem Buffer.ofBytes_ok (m : Memory) (size : IsSize bytes.length) :
    ∃ id after, Buffer.ofBytes m bytes =
        .ok ({ pointer := .block id, length := bytes.length }, after) ∧
      m.Obtained bytes id after := by
  obtain ⟨id, middle, allocated, obtained⟩ :=
    m.allocate_ok { size := bytes.length, align := 1 } size (Nat.le_add_left 1 7)
  exact ⟨id, ofBytes_filled (List.length_pos_iff.1 size.1) rfl allocated obtained⟩

theorem Buffer.ofBytes_cases (m : Memory) (bytes : List UInt8) :
    (∃ stop, Buffer.ofBytes m bytes = .error stop ∧ stop.IsLawful) ∨
    Buffer.ofBytes m bytes = .ok (.empty, m) ∨
    IsSize bytes.length ∧ ∃ id after,
      Buffer.ofBytes m bytes = .ok ({ pointer := .block id, length := bytes.length }, after) ∧
        m.Obtained bytes id after := by
  by_cases empty : bytes = []
  · subst empty
    exact .inr (.inl (Buffer.ofBytes_nil m))
  · obtain ⟨stop, failed, lawful⟩ | ⟨size, id, middle, allocated, obtained⟩ :=
      m.allocate_cases { size := bytes.length, align := 1 }
    · exact .inl ⟨stop, Buffer.ofBytes_refused empty failed, lawful⟩
    · exact .inr (.inr ⟨size, id, ofBytes_filled empty rfl allocated obtained⟩)

theorem Buffer.ofBytes_exhausted (m : Memory) (large : sizeLimit ≤ bytes.length) :
    Buffer.ofBytes m bytes = .error (outOfMemory { size := bytes.length, align := 1 }) := by
  have full : bytes.length ≠ 0 := fun empty => by simp [empty, sizeLimit] at large
  have refused : m.allocate { size := bytes.length, align := 1 } =
      .error (outOfMemory { size := bytes.length, align := 1 }) :=
    (if_neg full).trans ((if_neg (by decide : ¬guaranteedAlignment < 1)).trans (if_pos large))
  exact Buffer.ofBytes_refused (List.ne_nil_of_length_pos (Nat.pos_of_ne_zero full)) refused

theorem length_encoded (size : Nat) (elements : List Nat) :
    (elements.flatMap (encode size)).length = elements.length * size := by
  induction elements with
  | nil => rw [List.flatMap_nil, List.length_nil, List.length_nil, Nat.zero_mul]
  | cons first rest ih =>
      rw [List.flatMap_cons, List.length_append, length_encode, ih, List.length_cons,
        Nat.succ_mul, Nat.add_comm]

namespace ElementVector

variable {element : Layout} {elements : List Nat}

theorem ofElements_nil (m : Memory) (element : Layout) :
    ofElements m element [] = .ok (.empty element, m) := rfl

theorem ofElements_unsized (m : Memory) (unsized : element.size = 0) (full : elements ≠ []) :
    ofElements m element elements =
      .ok ({ element
             pointer := .ofAddress (.ofNat element.align)
             length := elements.length }, m) := by
  have some : elements.isEmpty = false := by simp [full]
  simp only [ofElements, some, Bool.false_eq_true, if_false, unsized, if_true]
  rfl

theorem ofElements_refused {stop : Stop} (full : elements ≠ []) (sized : element.size ≠ 0)
    (refused : m.allocate { size := elements.length * element.size, align := element.align } =
      .error stop) : ofElements m element elements = .error stop := by
  have some : elements.isEmpty = false := by simp [full]
  simp only [ofElements, some, Bool.false_eq_true, if_false, sized, bind, Except.bind, refused]

private theorem ofElements_filled (full : elements ≠ []) (sized : element.size ≠ 0)
    (allocated : m.allocate { size := elements.length * element.size, align := element.align } =
      .ok (.block id, middle))
    (obtained : m.Obtained (List.replicate (elements.length * element.size) 0) id middle) :
    ∃ after, ofElements m element elements =
        .ok ({ element, pointer := .block id, length := elements.length }, after) ∧
      m.Obtained (elements.flatMap (encode element.size)) id after := by
  obtain ⟨after, written, filled⟩ := obtained.fill (length_encoded element.size elements)
  have some : elements.isEmpty = false := by simp [full]
  refine ⟨after, ?_, filled⟩
  simp only [ofElements, some, Bool.false_eq_true, if_false, sized, bind, Except.bind, allocated,
    written]
  rfl

theorem ofElements_ok (m : Memory) (size : IsSize (elements.length * element.size))
    (fine : element.align ≤ guaranteedAlignment) :
    ∃ id after, ofElements m element elements =
        .ok ({ element, pointer := .block id, length := elements.length }, after) ∧
      m.Obtained (elements.flatMap (encode element.size)) id after := by
  obtain ⟨id, middle, allocated, obtained⟩ :=
    m.allocate_ok { size := elements.length * element.size, align := element.align } size fine
  have full : elements ≠ [] := List.length_pos_iff.1 (Nat.pos_of_mul_pos_right size.1)
  exact ⟨id, ofElements_filled full (Nat.ne_of_gt (Nat.pos_of_mul_pos_left size.1)) allocated
    obtained⟩

theorem ofElements_cases (m : Memory) (element : Layout) (elements : List Nat) :
    (∃ stop, ofElements m element elements = .error stop ∧ stop.IsLawful) ∨
    (∃ v, ofElements m element elements = .ok (v, m) ∧ (∀ id, v.pointer ≠ .block id) ∧
      v.byteLength = 0) ∨
    IsSize (elements.length * element.size) ∧ ∃ id after,
      ofElements m element elements =
          .ok ({ element, pointer := .block id, length := elements.length }, after) ∧
        m.Obtained (elements.flatMap (encode element.size)) id after := by
  by_cases empty : elements = []
  · subst empty
    exact .inr (.inl ⟨_, ofElements_nil m element, nofun, Nat.zero_mul _⟩)
  by_cases unsized : element.size = 0
  · refine .inr (.inl ⟨_, ofElements_unsized m unsized empty, Pointer.ofAddress_ne_block _, ?_⟩)
    simp [byteLength, unsized]
  · obtain ⟨stop, failed, lawful⟩ | ⟨size, id, middle, allocated, obtained⟩ :=
      m.allocate_cases { size := elements.length * element.size, align := element.align }
    · exact .inl ⟨stop, ofElements_refused empty unsized failed, lawful⟩
    · exact .inr (.inr ⟨size, id, ofElements_filled empty unsized allocated obtained⟩)

end ElementVector

end Memory

end Custody
