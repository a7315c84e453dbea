import Custody.Config.Basic
import Custody.Host.Entry

/-!
# Hosts

A host keeps the table of registrations, the destructors that wait for a flush, counters of what it
did and the faults that it recorded. The operations here are the ones that run no guest code: each
returns its answer with the host after it. What happens around a destructor is in
`Custody.Host.Machine`.

A handle is looked at in one order by every operation: its representation, whether it is the
sentinel, whether anything is registered there, and of which kind that is. A refused operation
leaves the table alone.
-/

set_option autoImplicit false

namespace Custody

open Host (DestructorCall Entry Fault Rep Table)

structure Host.Counters where
  registered : Nat := 0
  dropRequests : Nat := 0
  destructorsRun : Nat := 0
  importsCreated : Nat := 0
  importsReleased : Nat := 0
  faults : Nat := 0
deriving DecidableEq, Inhabited

structure Host where
  config : HostConfig
  table : Table Entry
  /-- The destructors that wait for a flush, the one requested first in front. -/
  pending : List DestructorCall
  counters : Host.Counters
  /-- The faults recorded and not yet taken, the oldest in front. -/
  faults : List Fault

namespace Host

/-- A host without registrations. -/
def install (config : HostConfig) : Host :=
  { config
    table := .empty config.maxHandles.toNat
    pending := []
    counters := {}
    faults := [] }

def live (host : Host) : Nat := host.table.size

/-- Refuses the representation that the host does not use. -/
def checkMode (host : Host) (mode : Mode) : Except Fault Unit :=
  if mode = host.config.mode then .ok ()
  else .error (.modeMismatch host.config.mode mode)

/-- The slot that a handle names, whether or not anything is registered there. -/
def slotOf (host : Host) (operation : String) (h : Handle) : Except Fault Nat := do
  host.checkMode h.mode
  if h.isValid then
    match h.slot? with
    | some slot => .ok slot
    | none => .error (.unknownHandle (.handle h))
  else .error (.invalidHandle operation)

/-- The registration that a handle names, with its slot. -/
def find (host : Host) (operation : String) (h : Handle) : Except Fault (Nat × Entry) := do
  let slot ← host.slotOf operation h
  match host.table.get? slot with
  | some entry => .ok (slot, entry)
  | none => .error (.unknownHandle (.handle h))

def findExported (host : Host) (operation : String) (h : Handle) :
    Except Fault (Nat × DestructorCall) := do
  match ← host.find operation h with
  | (slot, .exported call) => .ok (slot, call)
  | (_, .imported _) => .error (.kindMismatch (.handle h) Kind.exported.name)

def findImported (host : Host) (operation : String) (h : Handle) :
    Except Fault (Nat × String) := do
  match ← host.find operation h with
  | (slot, .imported name) => .ok (slot, name)
  | (_, .exported _) => .error (.kindMismatch (.handle h) Kind.imported.name)

def dropOperation : String := "resource.drop"

def repOperation : String := "resource.rep"

def vacate (host : Host) (slot : Nat) : Except Fault Host := do
  let (_, table) ← host.table.remove slot
  return { host with table }

/-- Registers an entry and makes a handle of its slot. A slot that no handle can name stays free, and
the table counts as full. -/
def insert (host : Host) (mode : Mode) (entry : Entry) : Except Fault (Handle × Host) := do
  host.checkMode mode
  let (slot, table) ← host.table.insert entry
  match Handle.ofSlot? mode slot with
  | some h => .ok (h, { host with table })
  | none => .error (.tableFull table.capacity)

def record (host : Host) (fault : Fault) : Host :=
  { host with
    counters.faults := host.counters.faults + 1
    faults := host.faults ++ [fault] }

def register (host : Host) (mode : Mode) (call : DestructorCall) :
    Except Fault Handle × Host :=
  match host.insert mode (.exported call) with
  | .ok (h, host) =>
      (.ok h, { host with counters.registered := host.counters.registered + 1 })
  | .error fault => (.error fault, host.record fault)

/-- Takes a guest object out of the table because its handle was given back. Its destructor is still
to be called. -/
def unregister (host : Host) (h : Handle) : Except Fault DestructorCall × Host :=
  let removal : Except Fault (DestructorCall × Host) := do
    let (slot, call) ← host.findExported dropOperation h
    return (call, ← host.vacate slot)
  match removal with
  | .ok (call, host) =>
      (.ok call, { host with counters.dropRequests := host.counters.dropRequests + 1 })
  | .error fault => (.error fault, host.record fault)

/-- The representation behind a handle. Asking is never recorded as a fault. -/
def rep (host : Host) (h : Handle) : Except Fault Rep := do
  let (_, call) ← host.findExported repOperation h
  return call.rep

/-- Hands a resource of the host to the guest. A refusal is not recorded. -/
def lend (host : Host) (mode : Mode) (name : String) : Except Fault (Handle × Host) := do
  let (h, host) ← host.insert mode (.imported name)
  return (h, { host with counters.importsCreated := host.counters.importsCreated + 1 })

def release (host : Host) (h : Handle) : Except Fault Unit × Host :=
  let removal : Except Fault Host := do
    let (slot, _) ← host.findImported dropOperation h
    host.vacate slot
  match removal with
  | .ok host =>
      (.ok (), { host with counters.importsReleased := host.counters.importsReleased + 1 })
  | .error fault => (.error fault, host.record fault)

/-- The faults recorded so far, which the host forgets. -/
def takeFaults (host : Host) : List Fault × Host :=
  (host.faults, { host with faults := [] })

end Host

end Custody
