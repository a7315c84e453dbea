import Custody.Handle
import Custody.Ledger
import Custody.Stop

/-!
# Registrations of a guest

Every object that a guest registers with its host has a place on the heap, whose number is never used
again. The place holds the object and the handle of its owner. The handle is there while the owner is
attached; it is the sentinel before the host has answered, after the handle was transferred, and once
its drop was requested. Only the host's destructor call takes the object off the heap.
-/

set_option autoImplicit false

namespace Custody.Guest

structure Registration (ρ : Type) where
  handle : Handle
  object : ρ

namespace Registration

variable {ρ : Type}

def mode (r : Registration ρ) : Mode := r.handle.mode

def isAttached (r : Registration ρ) : Bool := r.handle.isValid

end Registration

/-- The registrations of a guest whose objects were not destroyed. -/
structure Heap (ρ : Type) where
  places : Ledger (Registration ρ) := .empty

namespace Heap

variable {ρ : Type}

def get? (heap : Heap ρ) (id : Nat) : Option (Registration ρ) := heap.places.get? id

/-- Puts an object on the heap without an owner. -/
def add (heap : Heap ρ) (mode : Mode) (object : ρ) : Nat × Heap ρ :=
  let (id, places) := heap.places.add { handle := .invalid mode, object }
  (id, { places })

def put (heap : Heap ρ) (id : Nat) (r : Registration ρ) : Heap ρ :=
  { places := heap.places.replace id r }

def attach (heap : Heap ρ) (id : Nat) (h : Handle) : Heap ρ :=
  match heap.get? id with
  | some r => heap.put id { r with handle := h }
  | none => heap

/-- Takes the handle out of a registration, which is detached then. -/
def takeHandle (heap : Heap ρ) (id : Nat) : Option (Handle × Heap ρ) :=
  match heap.get? id with
  | some r => some (r.handle, heap.put id { r with handle := .invalid r.mode })
  | none => none

def remove (heap : Heap ρ) (id : Nat) : Option (ρ × Heap ρ) :=
  match heap.get? id with
  | some r => some (r.object, { places := heap.places.erase id })
  | none => none

def reattach (heap : Heap ρ) (h : Handle) (id : Option Nat) : Except Stop (Heap ρ) :=
  if !h.isValid then .error (.panic "cannot reattach the invalid handle")
  else
    match id with
    | none => .error (.panic "cannot reattach a null representation")
    | some id =>
        match heap.get? id with
        | none => .error .misuse
        | some r =>
            if r.isAttached then
              .error (.panic ("registration is still attached to " ++ r.handle.text))
            else .ok (heap.attach id h)

end Heap

end Custody.Guest
