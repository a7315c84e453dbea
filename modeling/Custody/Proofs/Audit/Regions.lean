import Custody.Proofs.Audit.Runs

/-!
# Scenarios of buffers and vectors

The scenarios that only use memory pass from every world, for payloads that memory can hold. Each
obtains at most one region, and it gives back what it obtained.
-/

set_option autoImplicit false

namespace Custody

namespace Memory

def regionsFor (bytes : List UInt8) : Nat := if bytes.isEmpty then 0 else 1

variable {m filled freed : Memory} {bytes : List UInt8} {b : Buffer}

/-- A buffer holds a copy of bytes, which may be given back through it or through its pointer. -/
structure Buffer.Copies (b : Buffer) (bytes : List UInt8) (m filled freed : Memory) : Prop where
  made : Buffer.ofBytes m bytes = .ok (b, filled)
  length_eq : b.length = bytes.length
  bytes_eq : b.bytes filled = .ok bytes
  dropped : b.drop filled = .ok freed
  released : filled.release b.pointer = .ok freed
  filled_eq : filled.counters =
    { m.counters with allocations := m.counters.allocations + regionsFor bytes }
  freed_eq : freed.counters =
    { allocations := m.counters.allocations + regionsFor bytes
      releases := m.counters.releases + regionsFor bytes }
  block?_eq : ∀ id, freed.block? id = m.block? id

theorem Buffer.Copies.restored (copies : b.Copies bytes m filled freed) : m.Restored freed :=
  ⟨copies.block?_eq, _, copies.freed_eq⟩

theorem Buffer.copies_ofBytes (m : Memory) (small : bytes.length < sizeLimit) :
    ∃ b filled freed, Buffer.Copies b bytes m filled freed := by
  by_cases empty : bytes = []
  · subst empty
    exact ⟨.empty, m, m, ofBytes_nil m, rfl, rfl, rfl, rfl, rfl, rfl, fun _ => rfl⟩
  · have size : IsSize bytes.length := ⟨List.length_pos_iff.2 empty, small⟩
    obtain ⟨id, filled, made, obtained⟩ := ofBytes_ok m size
    have live : filled.block? id = some bytes := (obtained.block?_eq id).trans (if_pos rfl)
    obtain ⟨freed, released, spec⟩ := release_block live
    have one : regionsFor bytes = 1 := by simp [regionsFor, empty]
    refine ⟨_, filled, freed, made, rfl, ?_, (if_pos size.1).trans released, released, ?_, ?_, ?_⟩
    · have whole : window bytes 0 bytes.length = bytes := by simp [window]
      exact (read_block live (Nat.le_of_eq (Nat.zero_add _))).trans (congrArg Except.ok whole)
    · rw [one, obtained.counters_eq]
    · rw [one, spec.counters_eq, obtained.counters_eq]
    · intro other
      rw [spec.block?_eq, obtained.block?_eq]
      split
      · rename_i same
        rw [same, obtained.absent]
      · rfl

end Memory

namespace Audit

open Memory (Buffer ElementVector)
open Session (Excursion Script World)

variable {α : Type} {world : World} {m after : Memory} {mode : Mode} {payload : List UInt8}

/-! ## Calls of memory -/

theorem callMemory_ok {call : Memory → Except Stop (α × Memory)} {answer : α}
    (called : call m = .ok (answer, after)) :
    Script.callMemory call (world.setMemory m) = .ok answer (world.setMemory after) := by
  unfold Script.callMemory
  rw [Script.get_bind]
  change (Script.ofExcept (call m) >>= _) _ = _
  rw [called]
  rfl

theorem bytesOf_ok {b : Buffer} {bytes : List UInt8} (read : b.bytes m = .ok bytes) :
    bytesOf b (world.setMemory m) = .ok bytes (world.setMemory m) :=
  callMemory_ok (by rw [read]; rfl)

theorem dropBuffer_ok {b : Buffer} (dropped : b.drop m = .ok after) :
    dropBuffer b (world.setMemory m) = .ok () (world.setMemory after) :=
  callMemory_ok (by rw [dropped]; rfl)

theorem releaseRaw_ok {p : Pointer} (released : m.release p = .ok after) :
    releaseRaw p (world.setMemory m) = .ok () (world.setMemory after) :=
  callMemory_ok (by rw [released]; rfl)

theorem setElement_ok {v : ElementVector} {index element : Nat}
    (stored : v.set m index element = .ok after) :
    setElement v index element (world.setMemory m) = .ok () (world.setMemory after) :=
  callMemory_ok (by rw [stored]; rfl)

theorem elementAt_ok {v : ElementVector} {index element : Nat}
    (read : v.get m index = .ok element) :
    elementAt v index (world.setMemory m) = .ok element (world.setMemory m) :=
  callMemory_ok (by rw [read]; rfl)

theorem elementsOf_ok {v : ElementVector} {elements : List Nat} (read : v.elements m = .ok elements) :
    elementsOf v (world.setMemory m) = .ok elements (world.setMemory m) :=
  callMemory_ok (by rw [read]; rfl)

theorem dropVector_ok {v : ElementVector} (dropped : v.drop m = .ok after) :
    dropVector v (world.setMemory m) = .ok () (world.setMemory after) :=
  callMemory_ok (by rw [dropped]; rfl)

theorem memoryCounters_ok (world : World) :
    memoryCounters world = .ok world.workspace.memory.counters world := rfl

theorem releasedSince_ok (world : World) (m : Memory) (earlier : Memory.Counters) :
    releasedSince earlier (world.setMemory m) =
      .ok (m.counters.since earlier).releases (world.setMemory m) := rfl

/-- A scenario that comes home from every world, whether the audit is ready there or not. -/
def Steady (scenario : Scenario Unit) : Prop :=
  ∀ world, ∃ after, Runs scenario world () after ∧ Excursion world after [] [] {}

private theorem steady_of_restored {scenario : Scenario Unit}
    (runs : ∀ (world : World) (m : Memory), ∃ after,
      Runs scenario (world.setMemory m) () (world.setMemory after) ∧ m.Restored after) :
    Steady scenario := by
  intro world
  obtain ⟨after, run, restored⟩ := runs world world.workspace.memory
  exact ⟨_, run, Excursion.of_memory restored⟩

/-! ## Buffers -/

theorem bufferCopy_steady (small : payload.length < Memory.sizeLimit) : Steady (bufferCopy payload) := by
  refine steady_of_restored fun world m => ?_
  obtain ⟨b, filled, freed, copies⟩ := Buffer.copies_ofBytes m small
  refine ⟨freed, ?_, copies.restored⟩
  unfold bufferCopy
  refine (runs_lift (memoryCounters_ok (world.setMemory m))).bind ?_
  refine (runs_lift (callMemory_ok copies.made)).bind ?_
  refine Runs.bind (.holding () (world.setMemory filled) ?_ (dropBuffer_ok copies.dropped)) ?_
  · refine (runs_ensure (by simp [copies.length_eq]) _ _).bind ?_
    refine (runs_lift (bytesOf_ok copies.bytes_eq)).bind ?_
    exact runs_ensure (by simp) _ _
  · refine (runs_lift (memoryCounters_ok (world.setMemory freed))).bind ?_
    refine runs_ensure ?_ _ _
    simp [copies.freed_eq, Memory.Counters.since]

theorem bufferMove_steady (small : payload.length < Memory.sizeLimit) : Steady (bufferMove payload) := by
  refine steady_of_restored fun world m => ?_
  obtain ⟨b, filled, freed, copies⟩ := Buffer.copies_ofBytes m small
  refine ⟨freed, ?_, copies.restored⟩
  unfold bufferMove
  refine (runs_lift (callMemory_ok copies.made)).bind ?_
  refine Runs.bind (.holding filled.counters (world.setMemory filled) ?_
    (dropBuffer_ok copies.dropped)) ?_
  · refine Runs.bind (.holding filled.counters (world.setMemory filled) ?_
      (dropBuffer_ok (b := .empty) rfl)) ?_
    · refine (runs_ensure rfl _ _).bind ?_
      refine (runs_lift (bytesOf_ok copies.bytes_eq)).bind ?_
      refine (runs_ensure (by simp) _ _).bind ?_
      exact runs_lift (memoryCounters_ok (world.setMemory filled))
    · refine (runs_lift (releasedSince_ok world filled _)).bind ?_
      refine (runs_ensure ?_ _ _).bind (runs_pure _ _)
      simp [Memory.Counters.since]
  · refine (runs_lift (releasedSince_ok world freed _)).bind ?_
    refine runs_ensure ?_ _ _
    simp [copies.freed_eq, copies.filled_eq, Memory.Counters.since, Memory.regionsFor]

theorem bufferLeak_steady (small : payload.length < Memory.sizeLimit) : Steady (bufferLeak payload) := by
  refine steady_of_restored fun world m => ?_
  obtain ⟨b, filled, freed, copies⟩ := Buffer.copies_ofBytes m small
  refine ⟨freed, ?_, copies.restored⟩
  unfold bufferLeak
  refine (runs_lift (callMemory_ok copies.made)).bind ?_
  refine (runs_lift (memoryCounters_ok (world.setMemory filled))).bind ?_
  refine (runs_lift (dropBuffer_ok (b := .empty) rfl)).bind ?_
  refine (runs_lift (releasedSince_ok world filled _)).bind ?_
  refine (runs_lift (releaseRaw_ok copies.released)).bind ?_
  refine (runs_lift (releasedSince_ok world freed _)).bind ?_
  refine (runs_ensure (by simp [copies.length_eq]) _ _).bind ?_
  refine (runs_ensure (by simp [Memory.Counters.since]) _ _).bind ?_
  refine runs_ensure ?_ _ _
  cases payload <;>
    simp [copies.freed_eq, copies.filled_eq, copies.length_eq, Memory.Counters.since, Memory.regionsFor]

/-! ## Vectors -/

/-- The numbers from one to eight in a vector of their own, of which the fourth is changed. -/
private theorem vector_ok (m : Memory) :
    ∃ (v : ElementVector) (filled changed freed : Memory),
      ElementVector.ofElements m Memory.ElementType.u32.layout [1, 2, 3, 4, 5, 6, 7, 8] =
        .ok (v, filled) ∧
      v.element = Memory.ElementType.u32.layout ∧ v.length = 8 ∧
      v.set filled 3 40 = .ok changed ∧ v.get changed 0 = .ok 1 ∧
      v.elements changed = .ok [1, 2, 3, 40, 5, 6, 7, 8] ∧ changed.release v.pointer = .ok freed ∧
      freed.counters = { changed.counters with releases := changed.counters.releases + 1 } ∧
      m.Restored freed := by
  have size : Memory.IsSize
      ([1, 2, 3, 4, 5, 6, 7, 8].length * Memory.ElementType.u32.layout.size) :=
    ⟨by decide, by decide⟩
  obtain ⟨id, filled, made, obtained⟩ := ElementVector.ofElements_ok m size (by decide)
  have live := (obtained.block?_eq id).trans (if_pos rfl)
  obtain ⟨changed, stored, rewritten⟩ :=
    Memory.write_block (Memory.encode 4 40) 12 live (by decide)
  have content := (rewritten.block?_eq id).trans (if_pos rfl)
  obtain ⟨freed, released, spec⟩ := Memory.release_block content
  refine ⟨_, filled, changed, freed, made, rfl, rfl, stored, ?_, ?_, released, spec.counters_eq, ?_,
    1, ?_⟩
  · change (do return Memory.decode (← changed.read (.block id) 0 4)) = _
    rw [Memory.read_block content (by decide)]
    rfl
  · change (do
      let bytes ← changed.read (.block id) 0 32
      return Memory.decodeMany 4 8 bytes) = _
    rw [Memory.read_block content (by decide)]
    rfl
  · intro other
    rw [spec.block?_eq, rewritten.block?_eq, obtained.block?_eq]
    by_cases same : other = id
    · rw [if_pos same, same, obtained.absent]
    · rw [if_neg same, if_neg same, if_neg same]
  · rw [spec.counters_eq, rewritten.counters_eq, obtained.counters_eq]

theorem vectorElements_steady : Steady vectorElements := by
  refine steady_of_restored fun world m => ?_
  obtain ⟨v, filled, changed, freed, made, element, length, stored, first, elements, released, counted,
    restored⟩ := vector_ok m
  refine ⟨freed, ?_, restored⟩
  have empty : ∀ m, (ElementVector.empty v.element).drop m = .ok m := by
    intro m
    simp [ElementVector.drop, ElementVector.byteLength, ElementVector.empty]
  unfold vectorElements
  refine (runs_lift (callMemory_ok made)).bind ?_
  refine Runs.bind (.keeping () (world.setMemory changed) ?_) ?_
  · refine (runs_lift (setElement_ok stored)).bind ?_
    refine (runs_lift (elementAt_ok first)).bind ?_
    refine (runs_lift (elementsOf_ok elements)).bind ?_
    exact runs_ensure (by simp [length]) _ _
  · refine (runs_lift (memoryCounters_ok (world.setMemory changed))).bind ?_
    refine (runs_lift (dropVector_ok (empty changed))).bind ?_
    refine Runs.bind (.keeping () (world.setMemory changed) ?_) ?_
    · refine (runs_lift (releasedSince_ok world changed _)).bind ?_
      exact runs_ensure (by simp [Memory.Counters.since]) _ _
    · refine (runs_lift (dropVector_ok (empty changed))).bind ?_
      refine (runs_lift (releasedSince_ok world changed _)).bind ?_
      refine (runs_ensure (by simp [Memory.Counters.since]) _ _).bind ?_
      refine (runs_lift (releaseRaw_ok released)).bind ?_
      refine (runs_lift (releasedSince_ok world freed _)).bind ?_
      refine runs_ensure ?_ _ _
      simp [length, counted, Memory.Counters.since]

end Audit

end Custody
