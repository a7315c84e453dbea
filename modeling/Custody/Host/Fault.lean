import Custody.Handle

/-!
# Host faults

A host never fails on a guest's misuse: it refuses the operation and keeps the reason. `Fault` lists
the reasons, with one message and one diagnostic shape for each.
-/

set_option autoImplicit false

namespace Custody.Host

open Text (Shown)

/-- What a refused operation asked for: a guest's handle, or a slot of the table itself. -/
inductive Subject where
  | handle (value : Handle)
  | slot (number : Nat)
deriving DecidableEq

def Subject.text : Subject → String
  | .handle h => h.text
  | .slot n => toString n

inductive Fault where
  | invalidHandle (operation : String)
  /-- Nothing is registered there: never issued, or dropped before. -/
  | unknownHandle (subject : Subject)
  | kindMismatch (subject : Subject) (expected : String)
  | modeMismatch (expected found : Mode)
  | tableFull (capacity : Nat)
  | table (reason : String)
deriving DecidableEq

namespace Fault

def message : Fault → String
  | .invalidHandle operation => "Invalid handle sentinel passed to " ++ operation
  | .unknownHandle subject => "Unknown resource handle: " ++ subject.text
  | .kindMismatch subject expected =>
      "Handle " ++ subject.text ++ " is not an " ++ expected ++ " resource"
  | .modeMismatch expected found =>
      "Handle mode mismatch: host uses " ++ expected.name ++ ", guest passed " ++ found.name
  | .tableFull capacity => "Resource table full: " ++ toString capacity ++ " handles"
  | .table reason => "Resource table error: " ++ reason

def shown : Fault → Shown
  | .invalidHandle operation => .record "InvalidHandle" [("operation", .quoted operation)]
  | .unknownHandle subject => .record "UnknownHandle" [("handle", .quoted subject.text)]
  | .kindMismatch subject expected =>
      .record "KindMismatch" [("handle", .quoted subject.text), ("expected", .quoted expected)]
  | .modeMismatch expected found =>
      .record "ModeMismatch" [("expected", .text expected.title), ("found", .text found.title)]
  | .tableFull capacity => .record "TableFull" [("capacity", .number capacity)]
  | .table reason => .record "Table" [("reason", .quoted reason)]

/-- Whether the handle named no live registration. A second drop of one handle shows itself so. -/
def isStale : Fault → Bool
  | .unknownHandle _ | .invalidHandle _ => true
  | _ => false

def isCapacity : Fault → Bool
  | .tableFull _ => true
  | _ => false

end Fault

end Custody.Host
