import Custody.Session.World

/-!
# Registering and tearing down

An owner that goes away asks the host to drop its object. The host calls the destructor at once or
at the next flush, and the destructor may drop further owners. `Control` is what these scripts need
from the outside: a way to run a destructor, and a bound on the number of destructors that one flush
runs.
-/

set_option autoImplicit false

namespace Custody.Session

open Guest (Cell OwnedImport)
open Host (Continuation DestructorCall Fault)
open Script

structure Control where
  runDestructor : DestructorCall → Script Unit
  flushBound : Nat

def rejected (fault : Fault) : Script Unit := note (.rejected fault)

/-! ## Calls of the host that may run destructors -/

def runStarted (control : Control) : Option DestructorCall → Script Unit
  | some call => do
      control.runDestructor call
      let _ ← callMachine (·.finish)
  | none => pure ()

/-- Asks the host to drop a guest object, up to the start of its destructor. -/
def startDrop (h : Handle) : Script (Option DestructorCall) := do
  match ← callMachine (·.drop h) with
  | .rejected fault =>
      rejected fault
      return none
  | .queued => return none
  | .started call => return some call

def requestDrop (control : Control) (h : Handle) : Script Unit := do
  runStarted control (← startDrop h)

def flushOn (control : Control) : (bound : Nat) → Continuation → Script Nat
  | _, .flushed count => pure count
  | bound + 1, .started call => do
      control.runDestructor call
      flushOn control bound (← callMachine (·.finish))
  | 0, .started _ => throw .exhausted
  | _, .dropped | _, .idle => throw .misuse

def flush (control : Control) : Script Nat := do
  flushOn control control.flushBound (← callMachine (·.flush))

def lend (mode : Mode) (name : String) : Script (Except Fault Handle) :=
  callHost fun host =>
    match host.lend mode name with
    | .ok (h, host) => (.ok h, host)
    | .error fault => (.error fault, host)

def releaseImport (h : Handle) : Script Unit := do
  match ← callHost (·.release h) with
  | .ok () => pure ()
  | .error fault => rejected fault

/-! ## Owners -/

/-- Registers an object and returns its owner. The name of its type is for messages, and the host
knows the object under a name of its own. When the host refuses, an assertion fails and the object
stays on the heap for good. -/
def register (typeName entryName : String) (mode : Mode) (object : Resource) : Script Owner := do
  let id ← modifyGet fun world =>
    let (id, heap) := world.heap.add mode object
    (id, { world with heap })
  let call : DestructorCall :=
    { rep := .registration id, destructor := .reclaim, typeName := entryName }
  match ← callHost (·.register mode call) with
  | .ok h =>
      modifyHeap (·.attach id h)
      return { id, mode }
  | .error fault =>
      rejected fault
      throw (.panic ("host returned an invalid handle for a new " ++ typeName ++
        " registration"))

/-- The handle of an owner, as long as its object is there. -/
def ownerHandle (owner : Owner) : Script Handle := do
  match (← get).heap.get? owner.id with
  | some r => return r.handle
  | none => throw .misuse

def isAlive (owner : Owner) : Script Bool := do
  return ((← get).heap.get? owner.id).isSome

def takeHandle (owner : Owner) : Script Handle := do
  let world ← get
  match world.heap.takeHandle owner.id with
  | some (h, heap) =>
      set { world with heap }
      return h
  | none => throw .misuse

def reattach (h : Handle) (id : Option Nat) : Script Owner := do
  let world ← get
  let heap ← Script.ofExcept (world.heap.reattach h id)
  match id with
  | some id =>
      set { world with heap }
      return { id, mode := h.mode }
  | none => throw .misuse

/-- An owner goes away, up to the start of its object's destructor. The registration is detached
before the host is asked, so that whatever runs inside the request finds no owner. Without a valid
handle, or without an object, nothing is asked. -/
def releaseOwner (owner : Owner) : Script (Option DestructorCall) := do
  match (← get).heap.get? owner.id with
  | none => return none
  | some r =>
      let h ← takeHandle owner
      if h.isValid then
        match r.object with
        | .node _ => emit (.requested h)
        | .probe _ => pure ()
        startDrop h
      else return none

def dropOwner (control : Control) (owner : Owner) : Script Unit := do
  runStarted control (← releaseOwner owner)

/-- Uses an owner up for its handle. The owner goes away without it, up to the start of a
destructor. -/
def intoHandle (owner : Owner) : Script (Handle × Option DestructorCall) := do
  let h ← takeHandle owner
  return (h, ← releaseOwner owner)

def consumeOwner (control : Control) (owner : Owner) : Script Handle := do
  let (h, started) ← intoHandle owner
  runStarted control started
  return h

/-! ## Handles of the host -/

def dropCell (cell : Cell) : Script Unit := do
  match cell.lost? with
  | some h => note (.lost h)
  | none => pure ()

/-- An owned handle goes away: it is moved out and given back, and the cell left behind goes away
last. -/
def dropOwned (giveBack : Handle → Script Unit) (owned : OwnedImport) : Script Unit := do
  let (h, left) := owned.intoHandle
  if h.isValid then giveBack h
  dropCell left.cell

def dropImport : OwnedImport → Script Unit :=
  dropOwned fun h => do
    emit (.released h)
    releaseImport h

/-! ## Destructors -/

/-- Destroys a node that has left the heap: it takes its steps, then its children go away in order,
then its owned handles. -/
def destroyNode (control : Control) (act : Step → Script Answer) (node : Node) : Script Unit := do
  emit (.destroyed node.label)
  node.onDrop.forM fun step => do
    let answer ← act step
    emit (.stepped node.label answer)
  node.children.forM (dropOwner control)
  node.imports.forM dropImport

def reclaim (id : Nat) : Script Resource := do
  let world ← get
  match world.heap.remove id with
  | some (object, heap) =>
      set { world with heap }
      return object
  | none => throw .misuse

/-- What a destructor call does. Nodes take their steps through `act`. -/
def destroy (control : Control) (act : Step → Script Answer) (call : DestructorCall) :
    Script Unit := do
  match call.destructor, call.rep with
  | .note, .number value => emit (.noted value)
  | .reclaim, .registration id =>
      match ← reclaim id with
      | .node node => destroyNode control act node
      | .probe children => children.forM (dropOwner control)
  | _, _ => throw .misuse

end Custody.Session
