import Custody.Session.Run
import Custody.Proofs.Session.Scripts

/-!
# The conduct of a guest

What goes on between a guest and its host since the host was installed, one script at a time. Guest
code runs at the top or inside a destructor; a destructor that the host has started takes its object
off the heap before anything else happens. `Permitted` is the discipline that is asked of guest code:
the contract of each operation, and no more.
-/

set_option autoImplicit false

namespace Custody.Session

open Host (DestructorCall)
open Script (attempt callHost callMachine)

/-- What happens next. All but `enter` and `finish` are operations of guest code. A handle moves out
of its registration with `consume`, which uses the owner up, or with `detach`, which does not. At
`enter` the destructor that was started takes its object off the heap, and at `finish` the innermost
one returns. -/
inductive Act where
  | create (typeName entryName : String) (mode : Mode) (object : Resource)
  | visit (owner : Owner) (change : Resource → Resource)
  | dropOwner (owner : Owner)
  | consume (owner : Owner)
  | detach (owner : Owner)
  | reattach (h : Handle) (id : Nat)
  | dropHandle (h : Handle) (id : Nat)
  | lend (mode : Mode) (name : String)
  | giveBack (h : Handle)
  | dropImport (h : Handle)
  | flush
  | takeFaults
  | enter
  | finish

/-- A guest and its host, with what guest code has in its hands: the owners wherever they are kept,
the handles that were moved out of registrations and since then neither dropped nor attached again,
and the handles that the host has lent. An object that the host refused to register stays behind. -/
structure Conduct where
  world : World
  owners : List Owner := []
  transferred : List (Handle × Nat) := []
  lent : List Handle := []
  entering : Option DestructorCall := none
  refused : List Nat := []
  /-- Why a script did not return, other than for a registration that was refused. -/
  stopped : Option Stop := none

def visit (owner : Owner) (change : Resource → Resource) : Script Unit := do
  let world ← get
  match world.heap.get? owner.id with
  | some r => set { world with heap := world.heap.put owner.id { r with object := change r.object } }
  | none => throw .misuse

namespace Conduct

def start (config : HostConfig) : Conduct := { world := .start config }

def host (c : Conduct) : Host := c.world.machine.host

def heap (c : Conduct) : Guest.Heap Resource := c.world.heap

def waiting (c : Conduct) : List DestructorCall :=
  c.entering.toList ++ c.world.machine.waiting

def HasOwner (c : Conduct) (id : Nat) : Prop := ∃ owner ∈ c.owners, owner.id = id

def running {α : Type} (c : Conduct) (script : Script α) (next : Conduct → α → Conduct) : Conduct :=
  match script c.world with
  | .ok value world => next { c with world } value
  | .error stop world => { c with world, stopped := some stop }

def receive (c : Conduct) (h : Handle) (id : Nat) : Conduct :=
  if h.isValid then { c with transferred := (h, id) :: c.transferred } else c

def perform (c : Conduct) : Act → Conduct
  | .create typeName entryName mode object =>
      c.running (attempt (register typeName entryName mode object)) fun after result =>
        match result with
        | .ok owner => { after with owners := owner :: c.owners }
        | .error _ => { after with refused := c.heap.next :: c.refused }
  | .visit owner change => c.running (visit owner change) fun after _ => after
  | .dropOwner owner =>
      { c with owners := c.owners.erase owner }.running (releaseOwner owner) fun after started =>
        { after with entering := started }
  | .consume owner =>
      { c with owners := c.owners.erase owner }.running (intoHandle owner)
        fun after (h, started) => { after with entering := started }.receive h owner.id
  | .detach owner => c.running (takeHandle owner) fun after h => after.receive h owner.id
  | .reattach h id =>
      { c with transferred := c.transferred.erase (h, id) }.running (reattach h (some id))
        fun after owner => { after with owners := owner :: c.owners }
  | .dropHandle h id =>
      { c with transferred := c.transferred.erase (h, id) }.running (startDrop h)
        fun after started => { after with entering := started }
  | .lend mode name =>
      c.running (lend mode name) fun after result =>
        match result with
        | .ok h => { after with lent := h :: c.lent }
        | .error _ => after
  | .giveBack h => { c with lent := c.lent.erase h }.running (releaseImport h) fun after _ => after
  | .dropImport h =>
      { c with lent := c.lent.erase h }.running (dropImport (.ofHandle h)) fun after _ => after
  | .flush =>
      c.running (callMachine (·.flush)) fun after continuation =>
        { after with entering := continuation.started? }
  | .takeFaults => c.running (callHost Host.takeFaults) fun after _ => after
  | .enter =>
      match c.entering with
      | some { rep := .registration id, destructor := .reclaim, .. } =>
          { c with entering := none }.running (reclaim id) fun after _ => after
      | _ => { c with stopped := some .misuse }
  | .finish =>
      c.running (callMachine (·.finish)) fun after continuation =>
        { after with entering := continuation.started? }

/-- The contract of an operation. The representation of handles is the host's. Owners and handles are
passed by those who have them, and a transferred handle is not used while an owner of its
registration is around. -/
def Lawful (c : Conduct) : Act → Prop
  | .create _ _ mode _ => mode = c.host.config.mode
  | .visit owner _ | .dropOwner owner | .consume owner | .detach owner => owner ∈ c.owners
  | .reattach h id =>
      c.host.rep h = .ok (.registration id) ∧
        (∃ r, c.heap.get? id = some r ∧ r.isAttached = false) ∧ ¬c.HasOwner id
  | .dropHandle h id => (h, id) ∈ c.transferred ∧ ¬c.HasOwner id
  | .giveBack h | .dropImport h => h ∈ c.lent
  | .finish => c.world.machine.active ≠ []
  | .lend _ _ | .flush | .takeFaults | .enter => True

/-- What may happen next. A destructor that was started takes its object before anything else. -/
def Permitted (c : Conduct) (act : Act) : Prop :=
  match c.entering with
  | some _ => act = .enter
  | none => act ≠ .enter ∧ c.Lawful act

/-- The states that a disciplined guest and its host come to. -/
inductive Reachable (config : HostConfig) : Conduct → Prop where
  | start : Reachable config (start config)
  | step {c : Conduct} {act : Act} :
      Reachable config c → c.Permitted act → Reachable config (c.perform act)

theorem running_ok {α : Type} {c : Conduct} {script : Script α} {value : α} {world : World}
    (next : Conduct → α → Conduct) (ran : script c.world = .ok value world) :
    c.running script next = next { c with world } value := by
  simp only [running, ran]

end Conduct

end Custody.Session
