import Custody.Registers
import Custody.Proofs.Memory.Blocks

/-!
# Holdings in linear memory

A guest keeps buffers, vectors and raw pointers under names, of any number and with elements of any
size. Ownership of a region moves between them: a pointer leaks out of an owner, is reallocated, and
is adopted by another one. `Permitted` is what the contract of each operation asks of the guest.
-/

set_option autoImplicit false

namespace Custody.Memory

/-- What can refer to a region: an owner, or a raw pointer whose receiver has to look after it. -/
inductive Holding where
  | buffer (b : Buffer)
  | vector (v : ElementVector)
  | region (p : Pointer)

namespace Holding

def pointer : Holding → Pointer
  | .buffer b => b.pointer
  | .vector v => v.pointer
  | .region p => p

def length : Holding → Nat
  | .buffer b => b.length
  | .vector v => v.length
  | .region _ => 0

/-- The bytes that an owner answers for. A raw pointer answers for none. -/
def byteLength : Holding → Nat
  | .buffer b => b.length
  | .vector v => v.byteLength
  | .region _ => 0

def take : Holding → Holding × Holding
  | .buffer b => (.buffer b.take.1, .buffer b.take.2)
  | .vector v => (.vector v.take.1, .vector v.take.2)
  | .region p => (.region p, .region .null)

def leak : Holding → Pointer × Holding
  | .buffer b => (b.leak.1.1, .buffer b.leak.2)
  | .vector v => (v.leak.1.1, .vector v.leak.2)
  | .region p => (p, .region .null)

def drop (x : Holding) (m : Memory) : Except Stop Memory :=
  match x with
  | .buffer b => b.drop m
  | .vector v => v.drop m
  | .region _ => .ok m

def view (x : Holding) (m : Memory) : Except Stop Unit :=
  match x with
  | .buffer b => do let _ ← b.bytes m
  | .vector v => do let _ ← v.elements m
  | .region _ => .ok ()

end Holding

inductive Act where
  | newBuffer (dst : String)
  | copyBytes (dst : String) (bytes : List UInt8)
  | adoptBuffer (src dst : String) (length : Nat)
  | newVector (dst : String) (element : Layout)
  | copyElements (dst : String) (element : Layout) (elements : List Nat)
  | adoptVector (src dst : String) (element : Layout) (length : Nat)
  | take (src dst : String)
  | assign (src dst : String)
  | leak (src dst : String)
  | drop (src : String)
  | view (src : String)
  | get (src : String) (index : Nat)
  | set (src : String) (index bits : Nat)
  | allocate (dst : String) (layout : Layout)
  | release (src : String)
  | reallocate (src dst : String) (oldSize : Nat) (layout : Layout)

structure Holdings where
  memory : Memory := {}
  held : Registers Holding := {}

namespace Holdings

def store (s : Holdings) (dst : String) (x : Holding) : Except Stop Holdings := do
  let memory ←
    match s.held.get? dst with
    | some old => old.drop s.memory
    | none => pure s.memory
  return { memory, held := s.held.put dst x }

def withHeld (s : Holdings) (src : String) (next : Holding → Except Stop Holdings) :
    Except Stop Holdings :=
  match s.held.get? src with
  | some x => next x
  | none => .error .misuse

/-- Goes on with what is moved out of a name, which is not in use any more. -/
def moving (s : Holdings) (src : String) (next : Holdings → Holding → Except Stop Holdings) :
    Except Stop Holdings :=
  s.withHeld src (next { s with held := s.held.erase src })

def withVector (s : Holdings) (src : String) (next : ElementVector → Except Stop Memory) :
    Except Stop Holdings :=
  s.withHeld src fun x =>
    match x with
    | .vector v => do return { s with memory := ← next v }
    | _ => .error .misuse

def step (s : Holdings) : Act → Except Stop Holdings
  | .newBuffer dst => s.store dst (.buffer .empty)
  | .copyBytes dst bytes => do
      let (b, memory) ← Buffer.ofBytes s.memory bytes
      { s with memory }.store dst (.buffer b)
  | .adoptBuffer src dst length =>
      s.moving src fun s x => s.store dst (.buffer (.ofRaw x.pointer length))
  | .newVector dst element => s.store dst (.vector (.empty element))
  | .copyElements dst element elements => do
      let (v, memory) ← ElementVector.ofElements s.memory element elements
      { s with memory }.store dst (.vector v)
  | .adoptVector src dst element length =>
      s.moving src fun s x => s.store dst (.vector (.ofRaw element x.pointer length))
  | .take src dst =>
      s.withHeld src fun x => { s with held := s.held.put src x.take.2 }.store dst x.take.1
  | .assign src dst => s.moving src fun s x => s.store dst x
  | .leak src dst =>
      s.withHeld src fun x =>
        { s with held := s.held.put src x.leak.2 }.store dst (.region x.leak.1)
  | .drop src => s.moving src fun s x => do return { s with memory := ← x.drop s.memory }
  | .view src => s.withHeld src fun x => do
      x.view s.memory
      return s
  | .get src index => s.withVector src fun v => do
      let _ ← v.get s.memory index
      return s.memory
  | .set src index bits => s.withVector src fun v => v.set s.memory index bits
  | .allocate dst layout => do
      let (p, memory) ← s.memory.allocate layout
      { s with memory }.store dst (.region p)
  | .release src =>
      s.moving src fun s x => do return { s with memory := ← s.memory.release x.pointer }
  | .reallocate src dst oldSize layout =>
      s.moving src fun s x => do
        let (p, memory) ← s.memory.realloc x.pointer oldSize layout
        { s with memory }.store dst (.region p)

/-- What the guest promises about a pointer that an owner adopts: the bytes that the owner is to
answer for are there. -/
def Adoptable (m : Memory) (p : Pointer) (byteLength : Nat) : Prop :=
  match p with
  | .null => True
  | .dangling _ => byteLength = 0
  | .block id => ∃ bytes, m.block? id = some bytes ∧ byteLength ≤ bytes.length

/-- What the guest promises about a pointer that it releases. -/
def Releasable (m : Memory) (p : Pointer) : Prop :=
  p = .null ∨ ∃ id bytes, p = .block id ∧ m.block? id = some bytes

/-- The contract of each operation. A raw pointer must not be released while an owner has it, so
adopting, releasing and reallocating use it up. -/
def Permitted (s : Holdings) : Act → Prop
  | .newBuffer _ | .copyBytes _ _ | .newVector _ _ | .copyElements _ _ _ | .allocate _ _ => True
  | .adoptBuffer src _ length =>
      ∃ p, s.held.get? src = some (.region p) ∧ Adoptable s.memory p length
  | .adoptVector src _ element length =>
      ∃ p, s.held.get? src = some (.region p) ∧ Adoptable s.memory p (length * element.size)
  | .take src _ | .assign src _ | .leak src _ | .drop src | .view src =>
      ∃ x, s.held.get? src = some x
  | .get src _ | .set src _ _ => ∃ v, s.held.get? src = some (.vector v)
  | .release src => ∃ p, s.held.get? src = some (.region p) ∧ Releasable s.memory p
  | .reallocate src _ oldSize _ =>
      ∃ p, s.held.get? src = some (.region p) ∧ s.memory.Reallocatable p oldSize

/-- The states that permitted operations lead to from nothing. An operation that does not return
leaves the state as it is or ends the program. -/
inductive Reachable : Holdings → Prop where
  | start : Reachable {}
  | step {s after : Holdings} (act : Act) (reachable : Reachable s) (permitted : s.Permitted act)
      (done : s.step act = .ok after) : Reachable after

end Holdings

end Custody.Memory
