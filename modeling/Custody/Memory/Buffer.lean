import Custody.Handle
import Custody.Memory.Basic
import Custody.Text.Shown
import Custody.Text.Utf8

/-!
# Byte buffers

A buffer owns a region of bytes and gives it back when it is dropped. It is never copied: a buffer
that was taken from or leaked is empty and owns nothing.
-/

set_option autoImplicit false

namespace Custody.Memory

open Text (Shown)

structure Buffer where
  pointer : Pointer := .null
  length : Nat := 0
deriving DecidableEq, Inhabited

namespace Buffer

def empty : Buffer := {}

/-- Adopts a region of a given length. Behind the null pointer there is nothing to adopt. -/
def ofRaw (p : Pointer) (length : Nat) : Buffer :=
  if p.isNull then empty else { pointer := p, length }

def ofBytes (m : Memory) (bytes : List UInt8) : Except Stop (Buffer × Memory) := do
  if bytes.isEmpty then return (empty, m)
  let (p, m) ← m.allocate { size := bytes.length, align := 1 }
  let m ← m.write p 0 bytes
  return ({ pointer := p, length := bytes.length }, m)

def bytes (b : Buffer) (m : Memory) : Except Stop (List UInt8) :=
  if b.pointer.isNull then .ok [] else m.read b.pointer 0 b.length

/-- Gives up the region without releasing it: its start and length, and the buffer afterwards. -/
def leak (b : Buffer) : (Pointer × Nat) × Buffer :=
  ((b.pointer, b.length), empty)

/-- Moves the region into another buffer, with the buffer left behind. -/
def take (b : Buffer) : Buffer × Buffer := (b, empty)

/-- Gives the region back unless it has no bytes. -/
def drop (b : Buffer) (m : Memory) : Except Stop Memory :=
  if 0 < b.length then m.release b.pointer else .ok m

/-- A buffer in diagnostics. Addresses change from run to run, so one is only told apart from null. -/
def shown (b : Buffer) (bytes : List UInt8) : Shown :=
  .record "LinearBuffer"
    [ ("ptr", if b.pointer.isNull then (Handle.invalid .pointer).shown else .text "PTR"),
      ("len", .number b.length),
      ("text", .quoted (Text.ofUtf8Lossy bytes)) ]

end Buffer

end Custody.Memory
