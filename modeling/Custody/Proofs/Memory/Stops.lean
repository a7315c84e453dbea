import Custody.Memory.Workspace

/-!
# How work in memory stops

Work in memory fails an assertion, breaks a rule or finds memory full. It has no bounds of its own to
run out of.
-/

set_option autoImplicit false

namespace Custody

/-- The computation does not stop because a bound of its own was too small. -/
def Unexhausted {α : Type} (outcome : Except Stop α) : Prop := outcome ≠ .error .exhausted

variable {α β : Type}

theorem Unexhausted.ok (value : α) : Unexhausted (.ok value) := nofun

theorem Unexhausted.misuse : Unexhausted (.error .misuse : Except Stop α) := nofun

theorem Unexhausted.bind {outcome : Except Stop α} {next : α → Except Stop β}
    (first : Unexhausted outcome) (rest : ∀ value, Unexhausted (next value)) :
    Unexhausted (outcome >>= next) := by
  cases outcome with
  | ok value => exact rest value
  | error stop =>
      intro exhausted
      cases exhausted
      exact first rfl

namespace Memory

variable (m : Memory)

theorem allocate_unexhausted (layout : Layout) : Unexhausted (m.allocate layout) := by
  unfold allocate outOfMemory
  split
  · nofun
  · split
    · nofun
    · split <;> nofun

theorem release_unexhausted (p : Pointer) : Unexhausted (m.release p) := by
  unfold release
  split
  · nofun
  · split <;> nofun
  · nofun

theorem read_unexhausted (p : Pointer) (offset size : Nat) : Unexhausted (m.read p offset size) := by
  unfold read
  split
  · nofun
  · split
    · split
      · split <;> nofun
      · nofun
    · nofun

theorem write_unexhausted (p : Pointer) (offset : Nat) (new : List UInt8) :
    Unexhausted (m.write p offset new) := by
  unfold write
  split
  · nofun
  · split
    · split
      · split <;> nofun
      · nofun
    · nofun

theorem realloc_unexhausted (p : Pointer) (oldSize : Nat) (layout : Layout) :
    Unexhausted (m.realloc p oldSize layout) := by
  unfold realloc
  split
  · dsimp only
    split
    · exact .ok _
    · exact (m.release_unexhausted p).bind fun _ => .ok _
  · split
    · unfold outOfMemory
      nofun
    · split
      · exact .ok _
      · split
        · exact .ok _
        · exact .misuse
      · exact .misuse

/-! ## Buffers and vectors -/

namespace Buffer

theorem ofBytes_unexhausted (bytes : List UInt8) : Unexhausted (Buffer.ofBytes m bytes) := by
  unfold ofBytes
  split
  · exact .ok _
  · exact (m.allocate_unexhausted _).bind fun (_, m) => (m.write_unexhausted _ _ _).bind fun _ => .ok _

theorem bytes_unexhausted (b : Buffer) : Unexhausted (b.bytes m) := by
  unfold bytes
  split
  · exact .ok _
  · exact m.read_unexhausted _ _ _

theorem drop_unexhausted (b : Buffer) : Unexhausted (b.drop m) := by
  unfold drop
  split
  · exact m.release_unexhausted _
  · exact .ok _

end Buffer

namespace ElementVector

variable (v : ElementVector)

theorem ofElements_unexhausted (element : Layout) (elements : List Nat) :
    Unexhausted (ofElements m element elements) := by
  unfold ofElements
  split
  · exact .ok _
  · split
    · exact .ok _
    · exact (m.allocate_unexhausted _).bind fun (_, m) => (m.write_unexhausted _ _ _).bind fun _ => .ok _

theorem elements_unexhausted : Unexhausted (v.elements m) := by
  unfold elements
  split
  · exact .ok _
  · exact (m.read_unexhausted _ _ _).bind fun _ => .ok _

theorem getUnchecked_unexhausted (index : Nat) : Unexhausted (v.getUnchecked m index) :=
  (m.read_unexhausted _ _ _).bind fun _ => .ok _

theorem setUnchecked_unexhausted (index bits : Nat) : Unexhausted (v.setUnchecked m index bits) :=
  m.write_unexhausted _ _ _

theorem get_unexhausted (index : Nat) : Unexhausted (v.get m index) := by
  unfold get outOfBounds
  split
  · exact v.getUnchecked_unexhausted m index
  · nofun

theorem set_unexhausted (index bits : Nat) : Unexhausted (v.set m index bits) := by
  unfold set outOfBounds
  split
  · exact v.setUnchecked_unexhausted m index bits
  · nofun

theorem reverse_unexhausted : Unexhausted (v.reverse m) := by
  unfold reverse
  split
  · exact .ok _
  · exact (v.elements_unexhausted m).bind fun _ => m.write_unexhausted _ _ _

theorem drop_unexhausted : Unexhausted (v.drop m) := by
  unfold drop
  split
  · exact m.release_unexhausted _
  · exact .ok _

end ElementVector

/-! ## Workspaces -/

namespace Workspace

variable (w : Workspace)

theorem putBuffer_unexhausted (dst : String) (b : Buffer) : Unexhausted (w.putBuffer dst b) := by
  unfold putBuffer
  dsimp only
  split
  · exact (Buffer.drop_unexhausted _ _).bind fun _ => .ok _
  · exact .ok _

theorem putVector_unexhausted (dst : String) (type : ElementType) (v : ElementVector) :
    Unexhausted (w.putVector dst type v) := by
  unfold putVector
  dsimp only
  split
  · exact (ElementVector.drop_unexhausted _ _).bind fun _ => .ok _
  · exact .ok _

theorem withBuffer_unexhausted (src : String) {next : Buffer → Outcome}
    (nexts : ∀ b, Unexhausted (next b)) : Unexhausted (w.withBuffer src next) := by
  unfold withBuffer
  split
  · exact nexts _
  · exact .ok _

theorem withVector_unexhausted (src : String) {next : ElementType → ElementVector → Outcome}
    (nexts : ∀ type v, Unexhausted (next type v)) : Unexhausted (w.withVector src next) := by
  unfold withVector
  split
  · exact nexts _ _
  · exact .ok _

theorem withRegion_unexhausted (src : String) {next : Region → Outcome}
    (nexts : ∀ region, Unexhausted (next region)) : Unexhausted (w.withRegion src next) := by
  unfold withRegion
  split
  · exact nexts _
  · exact .ok _

theorem releaseRegion_unexhausted (src : String) (region : Region) :
    Unexhausted (w.releaseRegion src region) := by
  unfold releaseRegion
  split
  · exact .ok _
  · exact (w.memory.release_unexhausted _).bind fun _ => .ok _

theorem reallocateRegion_unexhausted (src : Option (String × Region)) (dst : String)
    (oldSize : Option Nat) (layout : Layout) :
    Unexhausted (w.reallocateRegion src dst oldSize layout) := by
  unfold reallocateRegion
  dsimp only
  split
  · split
    · exact .ok _
    · refine (w.memory.realloc_unexhausted _ _ _).bind fun _ => ?_
      split <;> exact .ok _
  · refine (w.memory.realloc_unexhausted _ _ _).bind fun _ => ?_
    split <;> exact .ok _

theorem step_unexhausted (step : Step) : Unexhausted (w.step step) := by
  cases step with
  | newBuffer dst => exact (w.putBuffer_unexhausted _ _).bind fun _ => .ok _
  | copyBytes dst bytes =>
      refine (Buffer.ofBytes_unexhausted _ _).bind fun (_, _) => ?_
      exact (putBuffer_unexhausted _ _ _).bind fun _ => .ok _
  | inspectBuffer src =>
      exact w.withBuffer_unexhausted src fun b => (b.bytes_unexhausted _).bind fun _ => .ok _
  | takeBuffer src dst =>
      exact w.withBuffer_unexhausted src fun b => (putBuffer_unexhausted _ _ _).bind fun _ => .ok _
  | assignBuffer src dst =>
      exact w.withBuffer_unexhausted src fun b => (putBuffer_unexhausted _ _ _).bind fun _ => .ok _
  | dropBuffer src =>
      exact w.withBuffer_unexhausted src fun b => (b.drop_unexhausted _).bind fun _ => .ok _
  | leakBuffer src dst => exact w.withBuffer_unexhausted src fun b => .ok _
  | adoptBuffer src dst length =>
      refine w.withRegion_unexhausted src fun region => ?_
      dsimp only
      split
      · exact (putBuffer_unexhausted _ _ _).bind fun _ => .ok _
      · exact .ok _
  | newVector dst type => exact (w.putVector_unexhausted _ _ _).bind fun _ => .ok _
  | copyElements dst type elements =>
      refine (ElementVector.ofElements_unexhausted _ _ _).bind fun (_, _) => ?_
      exact (putVector_unexhausted _ _ _ _).bind fun _ => .ok _
  | inspectVector src =>
      exact w.withVector_unexhausted src fun _ v => (v.elements_unexhausted _).bind fun _ => .ok _
  | readElement src index =>
      exact w.withVector_unexhausted src fun _ v => (v.get_unexhausted _ _).bind fun _ => .ok _
  | writeElement src index element =>
      exact w.withVector_unexhausted src fun _ v => (v.set_unexhausted _ _ _).bind fun _ => .ok _
  | readUnchecked src index =>
      refine w.withVector_unexhausted src fun _ v => ?_
      split
      · exact (v.getUnchecked_unexhausted _ _).bind fun _ => .ok _
      · exact .ok _
  | writeUnchecked src index element =>
      refine w.withVector_unexhausted src fun _ v => ?_
      split
      · exact (v.setUnchecked_unexhausted _ _ _).bind fun _ => .ok _
      · exact .ok _
  | reverseVector src =>
      exact w.withVector_unexhausted src fun _ v => (v.reverse_unexhausted _).bind fun _ => .ok _
  | takeVector src dst =>
      exact w.withVector_unexhausted src fun _ v => (putVector_unexhausted _ _ _ _).bind fun _ => .ok _
  | assignVector src dst =>
      exact w.withVector_unexhausted src fun _ v => (putVector_unexhausted _ _ _ _).bind fun _ => .ok _
  | dropVector src =>
      exact w.withVector_unexhausted src fun _ v => (v.drop_unexhausted _).bind fun _ => .ok _
  | leakVector src dst => exact w.withVector_unexhausted src fun _ v => .ok _
  | adoptVector src dst type length =>
      refine w.withRegion_unexhausted src fun region => ?_
      dsimp only
      split
      · exact (putVector_unexhausted _ _ _ _).bind fun _ => .ok _
      · exact .ok _
  | nullRegion dst => exact .ok _
  | allocate dst layout =>
      simp only [Workspace.step]
      split
      · exact (w.memory.allocate_unexhausted _).bind fun (_, _) => .ok _
      · exact .ok _
  | release src => exact w.withRegion_unexhausted src (w.releaseRegion_unexhausted src)
  | reallocate src dst oldSize layout =>
      cases src with
      | none => exact w.reallocateRegion_unexhausted none dst oldSize layout
      | some src =>
          exact w.withRegion_unexhausted src fun region =>
            w.reallocateRegion_unexhausted (some (src, region)) dst oldSize layout
  | readRegion src =>
      refine w.withRegion_unexhausted src fun region => ?_
      split
      · exact (w.memory.read_unexhausted _ _ _).bind fun _ => .ok _
      · exact .ok _
  | writeRegion src offset bytes =>
      simp only [Workspace.step]
      split
      · exact .ok _
      · split
        · split
          · exact (w.memory.write_unexhausted _ _ _).bind fun _ => .ok _
          · exact .ok _
        · exact .ok _

end Workspace

end Memory

end Custody
