import Custody.Host.Fault

/-!
# The table of registrations

A table of bounded capacity whose entries have stable slots. A freed slot goes onto a stack and the
next insertion takes the slot freed last; only when no slot is free does the table grow. Looking up
or removing an absent slot changes nothing and says which slot was asked for.
-/

set_option autoImplicit false

namespace Custody.Host

/-- A bounded table with stable slots. -/
structure Table (α : Type) where
  /-- Every slot ever used, with its entry while there is one. -/
  slots : Array (Option α)
  /-- The slots without an entry, the one freed last in front. -/
  freed : List Nat
  live : Nat
  capacity : Nat

namespace Table

variable {α : Type}

def empty (capacity : Nat) : Table α :=
  { slots := #[], freed := [], live := 0, capacity }

def size (t : Table α) : Nat := t.live

def isEmpty (t : Table α) : Bool := t.live == 0

/-- The number of slots a table can ever have: slots are numbers of 32 bits. -/
def slotLimit : Nat := 0x100000000

def get? (t : Table α) (slot : Nat) : Option α :=
  t.slots[slot]?.join

/-- The entry at a slot, or the fault that names the slot. -/
def get (t : Table α) (slot : Nat) : Except Fault α :=
  match t.get? slot with
  | some entry => .ok entry
  | none => .error (.unknownHandle (.slot slot))

/-- Adds an entry at the slot freed last, or else at a new one. -/
def insert (t : Table α) (entry : α) : Except Fault (Nat × Table α) :=
  if t.capacity ≤ t.live then
    .error (.tableFull t.capacity)
  else
    match t.freed with
    | slot :: freed =>
        .ok (slot,
          { t with slots := t.slots.setIfInBounds slot (some entry), freed, live := t.live + 1 })
    | [] =>
        if t.slots.size < slotLimit then
          .ok (t.slots.size, { t with slots := t.slots.push (some entry), live := t.live + 1 })
        else
          .error (.table "resource table has no free keys")

/-- Takes the entry out of a slot, which becomes the one freed last. -/
def remove (t : Table α) (slot : Nat) : Except Fault (α × Table α) :=
  match t.get? slot with
  | some entry =>
      .ok (entry,
        { t with
          slots := t.slots.setIfInBounds slot none
          freed := slot :: t.freed
          live := t.live - 1 })
  | none => .error (.unknownHandle (.slot slot))

def text (t : Table α) : String :=
  "HandleTable \x7b live: " ++ toString t.live ++ ", capacity: " ++ toString t.capacity ++
    ", .. \x7d"

end Table

end Custody.Host
