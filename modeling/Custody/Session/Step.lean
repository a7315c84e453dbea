import Custody.Config.Basic
import Custody.Memory.Workspace

/-!
# Steps of a session

A session plays a guest against a host, step by step. Owners, imported handles and plain handle values
are kept in registers by name. What the guest registers are nodes: objects with a label, a value,
steps to take when they are destroyed, and owned parts that go down with them.
-/

set_option autoImplicit false

namespace Custody.Session

inductive HandleArg where
  | literal (h : Handle)
  | saved (name : String)
  /-- A text that is no handle; reading it fails with a message. -/
  | unreadable (message : String)

/-- What can be done in a session. Registers are given by name. -/
inductive Step where
  | memory (step : Memory.Step)
  | install (config : HostConfig)
  | info
  | flush
  | faults
  | counters
  | registerNumber (dst : String) (mode : Mode) (value : UInt64)
  | dropHandle (h : HandleArg)
  | releaseHandle (h : HandleArg)
  | rep (h : HandleArg)
  | lend (dst : String) (mode : Mode) (name : String)
  | audit (config : AuditConfig) (imports : List ImportEntry)
  | create (dst : String) (mode : Mode) (label : String) (value : Int) (onDrop : List Step)
      (children imports : List String)
  | chain (dst : String) (mode : Mode) (depth : Nat)
  | dropOwner (src : String)
  | inspectOwner (src : String)
  | setValue (src : String) (value : Int)
  | transfer (src dst : String)
  | detach (src dst : String)
  | reattach (dst : String) (h : HandleArg) (label : Option String)
  | borrow (h : HandleArg)
  | newCell (dst : String) (h : HandleArg)
  | emptyCell (dst : String) (mode : Mode)
  | inspectCell (src : String)
  | fillCell (src : String) (h : HandleArg)
  | emptyOut (src dst : String)
  | takeCell (src dst : String)
  | assignCell (src dst : String)
  | dropCell (src : String)
  | ownImport (dst : String) (h : HandleArg)
  | inspectImport (src : String)
  | transferImport (src dst : String)
  | dropImport (src : String)
  | unknown

instance : Inhabited Step := ⟨.unknown⟩

end Custody.Session
