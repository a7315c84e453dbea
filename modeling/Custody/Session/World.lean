import Custody.Guest.Heap
import Custody.Host.Machine
import Custody.Session.Answer

/-!
# The world of a session

A world is everything a session can see and change: the host with the destructors that run, the
guest's registrations, its memory, its registers and the events so far. A `Script` is a computation
in a world that may stop; the world it stops in is kept, because an assertion that fails can be
caught.
-/

set_option autoImplicit false

namespace Custody.Session

open Guest (Cell Heap OwnedImport)

structure Owner where
  id : Nat
  mode : Mode
deriving DecidableEq, Inhabited

structure Node where
  label : String
  value : Int
  hits : Nat
  onDrop : List Step
  children : List Owner
  imports : List OwnedImport

inductive Resource where
  | node (node : Node)
  /-- An object of the audit, which has only children. -/
  | probe (children : List Owner)

structure World where
  machine : Host.Machine
  heap : Heap Resource := {}
  workspace : Memory.Workspace := {}
  owners : Registers Owner := {}
  cells : Registers Cell := {}
  imports : Registers OwnedImport := {}
  saved : Registers Handle := {}
  log : List Event := []

abbrev Script := EStateM Stop World

namespace Script

variable {α : Type}

/-- Runs a script and catches a failed assertion. What was changed before stays changed. -/
def attempt (script : Script α) : Script (Except String α) := fun world =>
  match script world with
  | .ok value world => .ok (.ok value) world
  | .error (.panic message) world => .ok (.error message) world
  | .error stop world => .error stop world

/-- Runs a second script after the first one, also when an assertion of the first one fails. -/
def andFinally (script : Script α) (cleanup : Script Unit) : Script α := fun world =>
  match script world with
  | .ok value world =>
      match cleanup world with
      | .ok () world => .ok value world
      | .error stop world => .error stop world
  | .error (.panic message) world =>
      match cleanup world with
      | .ok () world => .error (.panic message) world
      | .error stop world => .error stop world
  | .error stop world => .error stop world

def onPanic (script : Script α) (cleanup : Script Unit) : Script α := fun world =>
  match script world with
  | .error (.panic message) world =>
      match cleanup world with
      | .ok () world => .error (.panic message) world
      | .error stop world => .error stop world
  | result => result

def ofExcept : Except Stop α → Script α
  | .ok value => pure value
  | .error stop => throw stop

def emit (event : Event) : Script Unit :=
  modify fun world => { world with log := event :: world.log }

def note (notice : Notice) : Script Unit := emit (.notice notice)

def callMachine (call : Host.Machine → α × Host.Machine) : Script α :=
  modifyGet fun world =>
    let (answer, machine) := call world.machine
    (answer, { world with machine })

def callHost (call : Host → α × Host) : Script α :=
  callMachine fun machine =>
    let (answer, host) := call machine.host
    (answer, { machine with host })

def host : Script Host := do return (← get).machine.host

def callMemory (call : Memory → Except Stop (α × Memory)) : Script α := do
  let world ← get
  let (answer, memory) ← ofExcept (call world.workspace.memory)
  set { world with workspace.memory := memory }
  return answer

def modifyHeap (change : Heap Resource → Heap Resource) : Script Unit :=
  modify fun world => { world with heap := change world.heap }

end Script

end Custody.Session
