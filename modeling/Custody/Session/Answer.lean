import Custody.Audit.Report
import Custody.Guest.Imported
import Custody.Session.Step

/-!
# Answers and events

What a step answers, and what else can be seen while it runs: calls between guest and host, objects
that are destroyed, and notices for whoever watches over the program.
-/

set_option autoImplicit false

namespace Custody.Session

open Guest (Cell OwnedImport)
open Text (Shown)

structure NodeView where
  handle : Handle
  label : String
  value : Int
  hits : Nat

def NodeView.shown (view : NodeView) : Shown :=
  .tuple "Owned"
    [ .record "ExportedResourceHandle"
        [ ("handle", view.handle.shown),
          ("resource", .text ("Node(" ++ view.label ++ ")")) ] ]

inductive Answer where
  | done
  | refused (reason : Refusal)
  | panicked (message : String)
  | fault (fault : Host.Fault)
  | memory (answer : Memory.Answer)
  | settings (mode : Mode) (timing : Timing)
  | count (n : Nat)
  | faults (faults : List Host.Fault)
  | counters (counters : Host.Counters)
  | handle (h : Handle)
  | label (label : String)
  | report (report : Audit.Report)
  | node (view : NodeView)
  | borrowed (view : NodeView)
  | cell (cell : Cell)
  | ownedImport (owned : OwnedImport)

/-- A record for whoever watches over the program. -/
inductive Notice where
  | lost (h : Handle)
  | rejected (fault : Host.Fault)
  | discarded (faults : Nat)
  | failed (check : String) (iteration : Nat) (detail : String)

def Notice.text : Notice → String
  | .lost h => "WARN imported resource handle dropped without release handle=" ++ h.text
  | .rejected fault => "ERROR host rejected resource operation fault=" ++ fault.message
  | .discarded faults =>
      "WARN discarding host faults recorded before the audit faults=" ++ toString faults
  | .failed check iteration detail =>
      "WARN audit check failed check=" ++ check ++ " iteration=" ++ toString iteration ++
        " detail=" ++ detail

inductive Event where
  | requested (h : Handle)
  | destroyed (label : String)
  | noted (value : UInt64)
  | released (h : Handle)
  | stepped (label : String) (answer : Answer)
  | notice (notice : Notice)

end Custody.Session
