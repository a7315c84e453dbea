import Custody.Ledger
import Custody.Stop

/-!
# Linear memory

Memory is a ledger of the live blocks. The number of a block is never used again, so a pointer to a
released block names nothing. Counters say how many blocks were obtained and given back.

Reading, writing and releasing something that is not live is a misuse; every operation says so
instead of going on.
-/

set_option autoImplicit false

namespace Custody

inductive Pointer where
  | null
  | block (id : Nat)
  /-- An address where no block starts. It stands for a region without bytes. -/
  | dangling (address : UInt64)
deriving DecidableEq, Inhabited

namespace Pointer

def ofAddress (address : UInt64) : Pointer :=
  if address = 0 then .null else .dangling address

def isNull : Pointer → Bool
  | .null => true
  | _ => false

end Pointer

structure Layout where
  size : Nat
  align : Nat
deriving DecidableEq

namespace Layout

/-- The size of a region is below this bound even when it is rounded up to its alignment. -/
def sizeBound : Nat := 0x8000000000000000

def isPowerOfTwo (n : Nat) : Bool :=
  (List.range 64).any fun exponent => n == 1 <<< exponent

def isValid (layout : Layout) : Bool :=
  isPowerOfTwo layout.align && layout.size + layout.align ≤ sizeBound

end Layout

/-- How many regions were obtained and given back. -/
structure Memory.Counters where
  allocations : Nat := 0
  releases : Nat := 0
deriving DecidableEq, Inhabited

namespace Memory.Counters

def live (c : Counters) : Nat := c.allocations - c.releases

/-- What was counted since an earlier time; nothing when that time was not earlier. -/
def since (c earlier : Counters) : Counters :=
  { allocations := c.allocations - earlier.allocations
    releases := c.releases - earlier.releases }

end Memory.Counters

structure Memory where
  blocks : Ledger (List UInt8) := .empty
  counters : Memory.Counters := {}

namespace Memory

def guaranteedAlignment : Nat := 8

def sizeLimit : Nat := 0x10000000000

def block? (m : Memory) (id : Nat) : Option (List UInt8) :=
  m.blocks.get? id

def size? (m : Memory) : Pointer → Option Nat
  | .block id => (m.block? id).map List.length
  | _ => none

def outOfMemory (layout : Layout) : Stop :=
  let size := if layout.isValid then layout.size else 1
  .abort ("memory allocation of " ++ toString size ++ " bytes failed")

def obtain (m : Memory) (bytes : List UInt8) : Pointer × Memory :=
  let (id, blocks) := m.blocks.add bytes
  (.block id,
    { blocks, counters := { m.counters with allocations := m.counters.allocations + 1 } })

def allocate (m : Memory) (layout : Layout) : Except Stop (Pointer × Memory) :=
  if layout.size = 0 then .error (.panic "zero-sized regions are never allocated")
  else if guaranteedAlignment < layout.align then
    .error (.panic ("alignment " ++ toString layout.align ++ " exceeds the malloc guarantee"))
  else if sizeLimit ≤ layout.size then .error (outOfMemory layout)
  else .ok (m.obtain (List.replicate layout.size 0))

/-- Gives a region back. The null pointer is ignored. -/
def release (m : Memory) : Pointer → Except Stop Memory
  | .null => .ok m
  | .block id =>
      match m.block? id with
      | some _ =>
          .ok
            { blocks := m.blocks.erase id
              counters := { m.counters with releases := m.counters.releases + 1 } }
      | none => .error .misuse
  | .dangling _ => .error .misuse

def resized (bytes : List UInt8) (size : Nat) : List UInt8 :=
  bytes.take size ++ List.replicate (size - bytes.length) 0

/-- Moves a region to one of another size, keeping the bytes that both have. Without old bytes a
region is obtained, and without new bytes the old one is given back; what then stands for the empty
region is the alignment, taken as an address. -/
def realloc (m : Memory) (p : Pointer) (oldSize : Nat) (layout : Layout) :
    Except Stop (Pointer × Memory) := do
  if layout.size = 0 then
    let m ← if oldSize = 0 then pure m else m.release p
    return (.ofAddress (.ofNat layout.align), m)
  else if guaranteedAlignment < layout.align ∨ sizeLimit ≤ layout.size then
    throw (outOfMemory layout)
  else
    match if oldSize = 0 then .null else p with
    | .null => return m.obtain (List.replicate layout.size 0)
    | .block id =>
        match m.block? id with
        | some bytes =>
            let (new, blocks) := (m.blocks.erase id).add (resized bytes layout.size)
            return (.block new, { m with blocks })
        | none => throw .misuse
    | .dangling _ => throw .misuse

def window (bytes : List UInt8) (offset size : Nat) : List UInt8 :=
  (bytes.drop offset).take size

/-- Reads bytes of a region from an offset on. No byte can be read where no block is. -/
def read (m : Memory) (p : Pointer) (offset size : Nat) : Except Stop (List UInt8) :=
  if size = 0 then .ok []
  else
    match p with
    | .block id =>
        match m.block? id with
        | some bytes =>
            if offset + size ≤ bytes.length then .ok (window bytes offset size)
            else .error .misuse
        | none => .error .misuse
    | _ => .error .misuse

def patched (bytes : List UInt8) (offset : Nat) (new : List UInt8) : List UInt8 :=
  bytes.take offset ++ new ++ bytes.drop (offset + new.length)

def write (m : Memory) (p : Pointer) (offset : Nat) (new : List UInt8) : Except Stop Memory :=
  if new.isEmpty then .ok m
  else
    match p with
    | .block id =>
        match m.block? id with
        | some bytes =>
            if offset + new.length ≤ bytes.length then
              .ok { m with blocks := m.blocks.replace id (patched bytes offset new) }
            else .error .misuse
        | none => .error .misuse
    | _ => .error .misuse

end Memory

end Custody
