import Custody.Handle

/-!
# Configuration

What a run of the audit is configured with: the host (its handles, its capacity and when it runs
destructors), the audit itself, and the host-owned resources that the audit imports.
-/

set_option autoImplicit false

namespace Custody

/-- When a host runs the destructor of a dropped resource: inside the drop request, or when the host
is flushed. -/
inductive Timing where
  | immediate
  | deferred
deriving DecidableEq, Inhabited

def Timing.name : Timing → String
  | .immediate => "immediate"
  | .deferred => "deferred"

def Timing.title : Timing → String
  | .immediate => "Immediate"
  | .deferred => "Deferred"

structure HostConfig where
  mode : Mode := .integer
  maxHandles : UInt64 := 1024
  timing : Timing := .immediate
deriving DecidableEq, Inhabited

structure AuditConfig where
  /-- How often each scenario is repeated; none counts as once. -/
  iterations : UInt32 := 4
  payload : String := "hello"
deriving DecidableEq, Inhabited

structure ImportEntry where
  name : String
deriving DecidableEq, Inhabited

structure Config where
  host : HostConfig := {}
  audit : AuditConfig := {}
  imports : List ImportEntry := []
deriving DecidableEq, Inhabited

end Custody
