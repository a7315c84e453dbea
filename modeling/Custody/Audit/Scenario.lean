import Custody.Memory.Buffer
import Custody.Memory.ElementVector
import Custody.Session.Teardown

/-!
# Scenarios of the audit

Each scenario goes through one part of the life of a buffer, a vector, a registered object or a
handle of the host, and compares what it sees with what is promised. The first promise found broken
ends it; what it owned goes away first.
-/

set_option autoImplicit false

namespace Custody.Audit

open Guest (Cell OwnedImport)
open Memory (Buffer ElementVector)
open Session (Control Owner Script)
open Session.Script (andFinally attempt callHost callMemory onPanic)

abbrev Scenario := ExceptT String Script

/-- Breaks off with a detail unless a condition holds. -/
def ensure (condition : Bool) (detail : String) : Scenario Unit :=
  if condition then pure () else throw detail

/-- Runs a script at the end of a scenario, whatever becomes of it. -/
def holding {α : Type} (scenario : Scenario α) (cleanup : Script Unit) : Scenario α :=
  ExceptT.mk (andFinally scenario.run cleanup)

/-- Runs a script only when a scenario does not come to its end. -/
def keeping {α : Type} (scenario : Scenario α) (cleanup : Script Unit) : Scenario α :=
  ExceptT.mk do
    match ← onPanic scenario.run cleanup with
    | .ok value => return .ok value
    | .error detail =>
        cleanup
        return .error detail

/-! ## What a scenario looks at -/

def memoryCounters : Script Memory.Counters := do
  return (← get).workspace.memory.counters

def releasedSince (earlier : Memory.Counters) : Script Nat := do
  return ((← memoryCounters).since earlier).releases

def hostCounters : Script Host.Counters := do
  return (← Script.host).counters

def liveHandles : Script Nat := do
  return (← Script.host).live

def takeFaults : Script (List Host.Fault) := callHost Host.takeFaults

/-! ## Buffers and vectors -/

def bufferOf (bytes : List UInt8) : Script Buffer :=
  callMemory (Buffer.ofBytes · bytes)

def vectorOf (element : Layout) (elements : List Nat) : Script ElementVector :=
  callMemory (ElementVector.ofElements · element elements)

def bytesOf (b : Buffer) : Script (List UInt8) :=
  callMemory fun m => do return (← b.bytes m, m)

def elementsOf (v : ElementVector) : Script (List Nat) :=
  callMemory fun m => do return (← v.elements m, m)

def elementAt (v : ElementVector) (index : Nat) : Script Nat :=
  callMemory fun m => do return (← v.get m index, m)

def setElement (v : ElementVector) (index element : Nat) : Script Unit :=
  callMemory fun m => do return ((), ← v.set m index element)

def dropBuffer (b : Buffer) : Script Unit :=
  callMemory fun m => do return ((), ← b.drop m)

def dropVector (v : ElementVector) : Script Unit :=
  callMemory fun m => do return ((), ← v.drop m)

def releaseRaw (p : Pointer) : Script Unit :=
  callMemory fun m => do return ((), ← m.release p)

/-- A copy has the length and the bytes of the view, and every region obtained is given back. -/
def bufferCopy (payload : List UInt8) : Scenario Unit := do
  let before ← memoryCounters
  let buffer ← bufferOf payload
  let compare : Scenario Unit := do
    ensure (buffer.length == payload.length)
      ("length " ++ toString buffer.length ++ " for a " ++ toString payload.length ++
        "-byte view")
    ensure ((← bytesOf buffer) == payload) "contents differ from the view"
  holding compare (dropBuffer buffer)
  let delta := (← memoryCounters).since before
  ensure (delta.allocations == delta.releases)
    (toString delta.allocations ++ " allocations, " ++ toString delta.releases ++ " releases")

/-- A buffer that was moved from is empty and gives nothing back; its target gives the region back
once. -/
def bufferMove (payload : List UInt8) : Scenario Unit := do
  let buffer ← bufferOf payload
  let (target, source) := buffer.take
  let compare : Scenario Memory.Counters := do
    ensure (source.length == 0 && source.pointer.isNull) "moved-from buffer still owns a region"
    ensure ((← bytesOf target) == payload) "moved buffer lost its contents"
    memoryCounters
  let dropSource : Scenario Memory.Counters := do
    let before ← holding compare (dropBuffer source)
    let released ← releasedSince before
    ensure (released == 0) ("moved-from buffer released " ++ toString released ++ " regions")
    return before
  let before ← holding dropSource (dropBuffer target)
  let released ← releasedSince before
  let expected := if payload.isEmpty then 0 else 1
  ensure (released == expected)
    ("owner released " ++ toString released ++ " regions, expected " ++ toString expected)

/-- A leaked buffer gives nothing back until its receiver does. -/
def bufferLeak (payload : List UInt8) : Scenario Unit := do
  let buffer ← bufferOf payload
  let ((p, length), buffer) := buffer.leak
  let before ← memoryCounters
  dropBuffer buffer
  let releasedOnDrop ← releasedSince before
  releaseRaw p
  let released ← releasedSince before
  ensure (length == payload.length)
    ("leaked " ++ toString length ++ " bytes of " ++ toString payload.length)
  ensure (releasedOnDrop == 0) "dropping a leaked buffer released it"
  ensure (released == if 0 < length then 1 else 0)
    ("receiver released " ++ toString released ++ " regions")

/-- A vector reads and writes its elements, and it moves and leaks as a buffer does. -/
def vectorElements : Scenario Unit := do
  let vector ← vectorOf Memory.ElementType.u32.layout [1, 2, 3, 4, 5, 6, 7, 8]
  let access : Scenario Unit := do
    setElement vector 3 40
    let first ← elementAt vector 0
    let elements ← elementsOf vector
    let sum := elements.foldl (· + ·) 0
    ensure (vector.length == 8 && first == 1 && sum == 72)
      ("len " ++ toString vector.length ++ ", first " ++ toString first ++ ", sum " ++ toString sum)
  keeping access (dropVector vector)
  let before ← memoryCounters
  let (moved, vector) := vector.take
  dropVector vector
  keeping (do ensure ((← releasedSince before) == 0) "moved-from vector released its block")
    (dropVector moved)
  let ((p, length), moved) := moved.leak
  dropVector moved
  ensure ((← releasedSince before) == 0) "leaked vector released its block"
  releaseRaw p
  ensure (length == 8 && (← releasedSince before) == 1)
    ("leaked " ++ toString length ++ " elements, receiver release not counted")

/-! ## Registered objects -/

/-- The name of the type of the audit's objects, in messages. -/
def probeTypeName : Mode → String
  | .integer => "wit_guest_host::audit::Probe<i32>"
  | .pointer => "wit_guest_host::audit::Probe<*mut u8>"

/-- The name under which the host knows the audit's objects. -/
def probeEntryName : String := "probe"

def registerProbe (mode : Mode) (children : List Owner) : Script Owner :=
  Session.register (probeTypeName mode) probeEntryName mode (.probe children)

def isDestroyed (owner : Owner) : Script Bool := do
  return !(← Session.isAlive owner)

def repOf (h : Handle) : Scenario Host.Rep := do
  match (← Script.host).rep h with
  | .ok rep => return rep
  | .error fault => throw fault.message

/-- A newly registered object has a valid handle, behind which the host finds the object. -/
def registration (control : Control) (mode : Mode) : Scenario Unit := do
  let _ ← Session.flush control
  let owner ← registerProbe mode []
  let compare : Scenario Unit := do
    let h ← Session.ownerHandle owner
    ensure h.isValid ("registered with " ++ h.text)
    let rep ← repOf h
    ensure (rep == .registration owner.id) "host stores another representation"
  holding compare (Session.dropOwner control owner)

/-- Dropping an owner makes one drop request and runs one destructor. A second request for the
handle is refused as stale and runs none. -/
def dropOnce (control : Control) (mode : Mode) : Scenario Unit := do
  let _ ← Session.flush control
  let owner ← registerProbe mode []
  let h ← Session.ownerHandle owner
  let before ← hostCounters
  Session.dropOwner control owner
  let _ ← Session.flush control
  let after ← hostCounters
  let requests := after.dropRequests - before.dropRequests
  ensure (requests == 1) (toString requests ++ " drop requests for " ++ h.text)
  let destructors := after.destructorsRun - before.destructorsRun
  ensure (destructors == 1) (toString destructors ++ " destructor calls")
  ensure (← isDestroyed owner) "resource value was not dropped"
  Session.requestDrop control h
  let _ ← Session.flush control
  let faults ← takeFaults
  let isOneStale :=
    match faults with
    | [fault] => fault.isStale
    | _ => false
  ensure isOneStale
    ("second drop produced " ++ (Text.Shown.sequence (faults.map (·.shown))).inline)
  let destructors := (← hostCounters).destructorsRun - after.destructorsRun
  ensure (destructors == 0) "second drop ran the destructor again"

/-- Only the first transfer yields the handle. An owner detached so asks for nothing, and the object
lives until its handle is given back. -/
def intoHandleOnce (control : Control) (mode : Mode) : Scenario Unit := do
  let _ ← Session.flush control
  let owner ← registerProbe mode []
  let first ← Session.takeHandle owner
  let second ← Session.takeHandle owner
  let before ← hostCounters
  Session.dropOwner control owner
  let _ ← Session.flush control
  let requests := (← hostCounters).dropRequests - before.dropRequests
  let survived := !(← isDestroyed owner)
  Session.requestDrop control first
  let _ ← Session.flush control
  ensure first.isValid ("first transfer yielded " ++ first.text)
  ensure (second == .invalid mode) ("second transfer yielded " ++ second.text)
  ensure (requests == 0) "detached owner requested a drop"
  ensure survived "detached owner destroyed the value"
  ensure (← isDestroyed owner) "host release did not run the destructor"

def reattach (control : Control) (mode : Mode) : Scenario Unit := do
  let _ ← Session.flush control
  let owner ← registerProbe mode []
  let h ← Session.consumeOwner control owner
  ensure (!(← isDestroyed owner)) "transfer destroyed the value"
  match ← repOf h with
  | .number _ => throw "host stores another representation"
  | .registration id =>
      let owner ← Session.reattach h (some id)
      let compare : Scenario Unit := do
        let attached ← Session.ownerHandle owner
        ensure (attached == h) ("reattached with " ++ attached.text ++ ", expected " ++ h.text)
      holding compare (Session.dropOwner control owner)
      let _ ← Session.flush control
      ensure (← isDestroyed owner) "reattached owner did not release"

/-- Registers two objects of the audit. When the second one fails, the owner of the first goes
away. -/
def registerPair (control : Control) (mode : Mode) : Script (Owner × Owner) := do
  let left ← registerProbe mode []
  let right ← onPanic (registerProbe mode []) (Session.dropOwner control left)
  return (left, right)

def truth (b : Bool) : String := if b then "true" else "false"

def nestedTeardown (control : Control) (mode : Mode) : Scenario Unit := do
  let _ ← Session.flush control
  let baseline ← liveHandles
  let (left, right) ← registerPair control mode
  let parent ← registerProbe mode [left, right]
  let count : Scenario Unit := do
    let live := (← liveHandles) - baseline
    ensure (live == 3) (toString live ++ " registrations for a parent with two children")
  keeping count (Session.dropOwner control parent)
  let before ← hostCounters
  Session.dropOwner control parent
  let _ ← Session.flush control
  let destructors := (← hostCounters).destructorsRun - before.destructorsRun
  let parentGone ← isDestroyed parent
  let leftGone ← isDestroyed left
  let rightGone ← isDestroyed right
  ensure (parentGone && leftGone && rightGone)
    ("dropped: parent " ++ truth parentGone ++ ", left " ++ truth leftGone ++ ", right " ++
      truth rightGone)
  ensure (destructors == 3) (toString destructors ++ " destructor calls")
  let live ← liveHandles
  ensure (live == baseline) (toString (live - baseline) ++ " registrations left")

/-! ## Handles of the host -/

def borrowed (mode : Mode) (name : String) : Scenario Handle :=
  ExceptT.mk do
    match ← Session.lend mode name with
    | .ok h => return .ok h
    | .error fault => return .error fault.message

/-- An owned handle is given back once. -/
def importRelease (mode : Mode) (name : String) : Scenario Unit := do
  let before ← hostCounters
  let h ← borrowed mode name
  let owned := OwnedImport.ofHandle h
  holding (ensure (owned.handle == h) "wrapper changed the handle")
    (Session.dropOwned Session.releaseImport owned)
  let released := (← hostCounters).importsReleased - before.importsReleased
  ensure (released == 1) (toString released ++ " releases for " ++ h.text)

/-- Moving a handle clears where it was, and only the first transfer yields it. -/
def importTransfer (mode : Mode) (name : String) : Scenario Unit := do
  let h ← borrowed mode name
  let (target, source) := ({ handle := h } : Cell).take
  let cleared := !source.isValid
  let (first, target) := target.intoHandle
  let (second, target) := target.intoHandle
  let compare : Scenario Unit := do
    Session.releaseImport first
    ensure cleared "moved-from handle is still valid"
    ensure (first == h) ("first transfer yielded " ++ first.text)
    ensure (second == .invalid mode) ("second transfer yielded " ++ second.text)
  holding compare do
    Session.dropCell target
    Session.dropCell source

/-- Assigns one cell to another and then takes the handle out. Both cells go away: the assigned one
when the assignment ends, and the other one last. -/
def assignTo (target source : Cell) : Script Handle := do
  match target.assign source with
  | .ok (target, left) =>
      Session.dropCell left
      let (h, target) := target.intoHandle
      Session.dropCell target
      return h
  | .error stop =>
      Session.dropCell source
      Session.dropCell target
      throw stop

def panics {α : Type} (script : Script α) : Script Bool := do
  match ← attempt script with
  | .ok _ => return false
  | .error _ => return true

def assignOverLive (mode : Mode) : Scenario Unit := do
  let held ← borrowed mode "assign-target"
  let incoming ← borrowed mode "assign-source"
  let isRefused ← panics (assignTo { handle := held } { handle := incoming })
  Session.releaseImport held
  Session.releaseImport incoming
  ensure isRefused "assignment over a live handle was accepted"

end Custody.Audit
