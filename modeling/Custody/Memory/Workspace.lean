import Custody.Memory.Buffer
import Custody.Memory.ElementVector
import Custody.Refusal
import Custody.Registers

/-!
# Workspaces

A workspace is memory with named owners of its regions: buffers, vectors, and raw regions that no
owner looks after. Steps create, move, read, change and drop them; a step that would break the rules
of memory is refused. Storing into a register in use drops the buffer or vector that was there; a
raw region is only forgotten.
-/

set_option autoImplicit false

namespace Custody.Memory

/-- A pointer and a length without an owner. -/
structure Region where
  pointer : Pointer
  length : Nat
deriving DecidableEq, Inhabited

structure Workspace where
  memory : Memory := {}
  buffers : Registers Buffer := {}
  vectors : Registers (ElementType × ElementVector) := {}
  regions : Registers Region := {}

/-- What can be done in a workspace. Registers are given by name. -/
inductive Step where
  | newBuffer (dst : String)
  | copyBytes (dst : String) (bytes : List UInt8)
  | inspectBuffer (src : String)
  | takeBuffer (src dst : String)
  | assignBuffer (src dst : String)
  | dropBuffer (src : String)
  | leakBuffer (src dst : String)
  | adoptBuffer (src dst : String) (length : Option Nat)
  | newVector (dst : String) (type : ElementType)
  | copyElements (dst : String) (type : ElementType) (elements : List Literal)
  | inspectVector (src : String)
  | readElement (src : String) (index : Nat)
  | writeElement (src : String) (index : Nat) (element : Literal)
  | readUnchecked (src : String) (index : Nat)
  | writeUnchecked (src : String) (index : Nat) (element : Literal)
  | reverseVector (src : String)
  | takeVector (src dst : String)
  | assignVector (src dst : String)
  | dropVector (src : String)
  | leakVector (src dst : String)
  | adoptVector (src dst : String) (type : ElementType) (length : Option Nat)
  | nullRegion (dst : String)
  | allocate (dst : String) (layout : Layout)
  | release (src : String)
  | reallocate (src : Option String) (dst : String) (oldSize : Option Nat) (layout : Layout)
  | readRegion (src : String)
  | writeRegion (src : String) (offset : Nat) (bytes : List UInt8)

inductive Answer where
  | done
  | refused (reason : Refusal)
  /-- A region, with its size when a block is behind it. -/
  | region (region : Region) (size : Option Nat)
  | address (address : Nat)
  | bytes (bytes : List UInt8)
  | element (type : ElementType) (bits : Nat)
  | buffer (buffer : Buffer) (bytes : List UInt8)
  | vector (type : ElementType) (vector : ElementVector) (elements : List Nat)

namespace Workspace

abbrev Outcome := Except Stop (Answer × Workspace)

def done (w : Workspace) : Outcome := .ok (.done, w)

def refuse (w : Workspace) (reason : Refusal) : Outcome := .ok (.refused reason, w)

def putBuffer (w : Workspace) (dst : String) (b : Buffer) : Except Stop Workspace := do
  let memory ←
    match w.buffers.get? dst with
    | some old => old.drop w.memory
    | none => pure w.memory
  return { w with memory, buffers := w.buffers.put dst b }

def putVector (w : Workspace) (dst : String) (type : ElementType) (v : ElementVector) :
    Except Stop Workspace := do
  let memory ←
    match w.vectors.get? dst with
    | some (_, old) => old.drop w.memory
    | none => pure w.memory
  return { w with memory, vectors := w.vectors.put dst (type, v) }

def putRegion (w : Workspace) (dst : String) (p : Pointer) (length : Nat) : Outcome :=
  let region : Region := { pointer := p, length }
  .ok (.region region (w.memory.size? p), { w with regions := w.regions.put dst region })

def withBuffer (w : Workspace) (src : String) (next : Buffer → Outcome) : Outcome :=
  match w.buffers.get? src with
  | some b => next b
  | none => w.refuse .noSuchBuffer

def withVector (w : Workspace) (src : String) (next : ElementType → ElementVector → Outcome) :
    Outcome :=
  match w.vectors.get? src with
  | some (type, v) => next type v
  | none => w.refuse .noSuchVector

def withRegion (w : Workspace) (src : String) (next : Region → Outcome) : Outcome :=
  match w.regions.get? src with
  | some region => next region
  | none => w.refuse .noSuchRegion

def canAdopt (w : Workspace) (region : Region) (byteLength align : Nat) : Bool :=
  match region.pointer with
  | .null => true
  | .block _ =>
      match w.memory.size? region.pointer with
      | some size => byteLength ≤ size
      | none => false
  | .dangling address => byteLength == 0 && address.toNat % align == 0

def elementCount (w : Workspace) (region : Region) (type : ElementType) : Nat :=
  match w.memory.size? region.pointer with
  | some size => size / type.layout.size
  | none => 0

def releaseRegion (w : Workspace) (src : String) (region : Region) : Outcome :=
  match region.pointer with
  | .dangling _ => w.refuse .dangling
  | p => do
      let memory ← w.memory.release p
      done { w with memory, regions := w.regions.erase src }

/-- Whether reallocation leaves the old region where it is: a live one that is said to hold no bytes
is not looked at. -/
def keepsOld (region : Region) (oldSize : Nat) : Bool :=
  match region.pointer with
  | .block _ => oldSize == 0
  | _ => false

/-- Reallocates the pointer of a region, or the null pointer. -/
def reallocateRegion (w : Workspace) (src : Option (String × Region)) (dst : String)
    (oldSize : Option Nat) (layout : Layout) : Outcome := do
  let p := (src.map fun (_, region) => region.pointer).getD .null
  let oldSize := oldSize.getD ((w.memory.size? p).getD 0)
  match p with
  | .dangling _ => if oldSize ≠ 0 then return (.refused .dangling, w)
  | _ => pure ()
  let (new, memory) ← w.memory.realloc p oldSize layout
  let regions :=
    match src with
    | some (name, region) => if keepsOld region oldSize then w.regions else w.regions.erase name
    | none => w.regions
  let w := { w with memory, regions }
  if layout.size = 0 then
    let region : Region := { pointer := new, length := 0 }
    return (.address layout.align, { w with regions := w.regions.put dst region })
  else w.putRegion dst new layout.size

def step (w : Workspace) : Step → Outcome
  | .newBuffer dst => do done (← w.putBuffer dst .empty)
  | .copyBytes dst bytes => do
      let (b, memory) ← Buffer.ofBytes w.memory bytes
      done (← { w with memory }.putBuffer dst b)
  | .inspectBuffer src =>
      w.withBuffer src fun b => do return (.buffer b (← b.bytes w.memory), w)
  | .takeBuffer src dst =>
      w.withBuffer src fun b => do
        let (taken, left) := b.take
        done (← { w with buffers := w.buffers.put src left }.putBuffer dst taken)
  | .assignBuffer src dst =>
      w.withBuffer src fun b => do
        done (← { w with buffers := w.buffers.erase src }.putBuffer dst b)
  | .dropBuffer src =>
      w.withBuffer src fun b => do
        done { w with memory := ← b.drop w.memory, buffers := w.buffers.erase src }
  | .leakBuffer src dst =>
      w.withBuffer src fun b =>
        let ((p, length), left) := b.leak
        { w with buffers := w.buffers.put src left }.putRegion dst p length
  | .adoptBuffer src dst length =>
      w.withRegion src fun region => do
        let length := length.getD ((w.memory.size? region.pointer).getD 0)
        if w.canAdopt region length 1 then
          let w := { w with regions := w.regions.erase src }
          done (← w.putBuffer dst (.ofRaw region.pointer length))
        else w.refuse .regionTooSmall
  | .newVector dst type => do done (← w.putVector dst type (.empty type.layout))
  | .copyElements dst type elements => do
      let (v, memory) ← ElementVector.ofElements w.memory type.layout (elements.map (·.bits type))
      done (← { w with memory }.putVector dst type v)
  | .inspectVector src =>
      w.withVector src fun type v => do return (.vector type v (← v.elements w.memory), w)
  | .readElement src index =>
      w.withVector src fun type v => do return (.element type (← v.get w.memory index), w)
  | .writeElement src index element =>
      w.withVector src fun type v => do
        done { w with memory := ← v.set w.memory index (element.bits type) }
  | .readUnchecked src index =>
      w.withVector src fun type v => do
        if index < v.length then return (.element type (← v.getUnchecked w.memory index), w)
        else w.refuse .outOfRange
  | .writeUnchecked src index element =>
      w.withVector src fun type v => do
        if index < v.length then
          done { w with memory := ← v.setUnchecked w.memory index (element.bits type) }
        else w.refuse .outOfRange
  | .reverseVector src =>
      w.withVector src fun _ v => do done { w with memory := ← v.reverse w.memory }
  | .takeVector src dst =>
      w.withVector src fun type v => do
        let (taken, left) := v.take
        done (← { w with vectors := w.vectors.put src (type, left) }.putVector dst type taken)
  | .assignVector src dst =>
      w.withVector src fun type v => do
        done (← { w with vectors := w.vectors.erase src }.putVector dst type v)
  | .dropVector src =>
      w.withVector src fun _ v => do
        done { w with memory := ← v.drop w.memory, vectors := w.vectors.erase src }
  | .leakVector src dst =>
      w.withVector src fun type v =>
        let ((p, length), left) := v.leak
        { w with vectors := w.vectors.put src (type, left) }.putRegion dst p length
  | .adoptVector src dst type length =>
      w.withRegion src fun region => do
        let length := length.getD (w.elementCount region type)
        if w.canAdopt region (length * type.layout.size) type.layout.align then
          let w := { w with regions := w.regions.erase src }
          done (← w.putVector dst type (.ofRaw type.layout region.pointer length))
        else w.refuse .regionTooSmall
  | .nullRegion dst => w.putRegion dst .null 0
  | .allocate dst layout =>
      if layout.isValid then do
        let (p, memory) ← w.memory.allocate layout
        { w with memory }.putRegion dst p layout.size
      else w.refuse .badLayout
  | .release src => w.withRegion src (w.releaseRegion src)
  | .reallocate none dst oldSize layout => w.reallocateRegion none dst oldSize layout
  | .reallocate (some src) dst oldSize layout =>
      w.withRegion src fun region => w.reallocateRegion (some (src, region)) dst oldSize layout
  | .readRegion src =>
      w.withRegion src fun region => do
        match w.memory.size? region.pointer with
        | some size => return (.bytes (← w.memory.read region.pointer 0 size), w)
        | none => return (.region region none, w)
  | .writeRegion src offset bytes =>
      match w.regions.get? src with
      | none => w.refuse .outOfRange
      | some region =>
          match w.memory.size? region.pointer with
          | some size => do
              if offset + bytes.length ≤ size then
                done { w with memory := ← w.memory.write region.pointer offset bytes }
              else w.refuse .outOfRange
          | none => w.refuse .outOfRange

end Workspace

end Custody.Memory
