import Custody.Session.Teardown
import Custody.Proofs.Guest.Places
import Custody.Proofs.Host.Operations
import Custody.Proofs.Host.Waiting

/-!
# What the scripts of a guest do

Equations for the scripts that register objects and let owners and handles go. Each says in which
world the script ends, with the events it leaves behind.
-/

set_option autoImplicit false

namespace Custody

open Host (DestructorCall DropOutcome Entry Fault)

def Host.DropOutcome.events : DropOutcome → List Session.Event
  | .rejected fault => [.notice (.rejected fault)]
  | .queued | .started _ => []

namespace Session

open Script

variable {α β : Type}

/-! ## Going on -/

theorem Script.bind_ok {script : Script α} {continuation : α → Script β} {world after : World}
    {value : α} (ran : script world = .ok value after) :
    (script >>= continuation) world = continuation value after := by
  simp only [bind, EStateM.bind, ran]

theorem Script.bind_error {script : Script α} {continuation : α → Script β} {world after : World}
    {stop : Stop} (stopped : script world = .error stop after) :
    (script >>= continuation) world = .error stop after := by
  simp only [bind, EStateM.bind, stopped]

theorem Script.get_bind (continuation : World → Script β) (world : World) :
    ((get : Script World) >>= continuation) world = continuation world world := rfl

theorem Script.modifyGet_bind (change : World → α × World) (continuation : α → Script β)
    (world : World) :
    ((modifyGet change : Script α) >>= continuation) world =
      continuation (change world).1 (change world).2 := rfl

theorem Script.modify_bind (change : World → World) (continuation : PUnit → Script β) (world : World) :
    ((modify change : Script PUnit) >>= continuation) world = continuation () (change world) := rfl

theorem Script.callMachine_bind (call : Host.Machine → α × Host.Machine)
    (continuation : α → Script β) (world : World) :
    (callMachine call >>= continuation) world =
      continuation (call world.machine).1 { world with machine := (call world.machine).2 } := rfl

theorem Script.callMachine_ok {call : Host.Machine → α × Host.Machine} {world : World} {answer : α}
    {machine : Host.Machine} (called : call world.machine = (answer, machine)) :
    callMachine call world = .ok answer { world with machine } := by
  change EStateM.Result.ok (call world.machine).1
    { world with machine := (call world.machine).2 } = _
  rw [called]

theorem Script.callHost_bind (call : Host → α × Host) (continuation : α → Script β)
    (world : World) :
    (callHost call >>= continuation) world =
      continuation (call world.machine.host).1
        { world with
          machine := { world.machine with host := (call world.machine.host).2 } } := rfl

theorem Script.attempt_ok {script : Script α} {world after : World} {value : α}
    (ran : script world = .ok value after) : attempt script world = .ok (.ok value) after := by
  simp only [attempt, ran]

theorem Script.attempt_panic {script : Script α} {world after : World} {message : String}
    (stopped : script world = .error (.panic message) after) :
    attempt script world = .ok (.error message) after := by
  simp only [attempt, stopped]

/-! ## Owners and their handles -/

theorem takeHandle_eq {world : World} {owner : Owner} {r : Guest.Registration Resource}
    (present : world.heap.get? owner.id = some r) :
    takeHandle owner world =
      .ok r.handle
        { world with heap := world.heap.put owner.id { r with handle := .invalid r.mode } } := by
  unfold takeHandle
  rw [get_bind, Guest.Heap.takeHandle_eq present]
  rfl

theorem takeHandle_absent {world : World} {owner : Owner}
    (absent : world.heap.get? owner.id = none) : takeHandle owner world = .error .misuse world := by
  unfold takeHandle
  rw [get_bind, Guest.Heap.takeHandle, absent]
  rfl

theorem reattach_eq {world : World} {id : Nat} {r : Guest.Registration Resource} {h : Handle}
    (present : world.heap.get? id = some r) (valid : h.isValid = true)
    (detached : r.isAttached = false) :
    reattach h (some id) world =
      .ok { id, mode := h.mode } { world with heap := world.heap.put id { r with handle := h } } := by
  unfold reattach
  rw [get_bind, Guest.Heap.reattach_eq present valid detached]
  rfl

theorem reclaim_eq {world : World} {id : Nat} {object : Resource} {heap : Guest.Heap Resource}
    (removed : world.heap.remove id = some (object, heap)) :
    reclaim id world = .ok object { world with heap } := by
  unfold reclaim
  rw [get_bind, removed]
  rfl

/-! ## Drop requests -/

theorem startDrop_eq (h : Handle) (world : World) :
    startDrop h world =
      .ok (world.machine.drop h).1.started?
        { world with
          machine := (world.machine.drop h).2
          log := (world.machine.drop h).1.events ++ world.log } := by
  unfold startDrop
  rw [callMachine_bind]
  cases (world.machine.drop h).1 <;> rfl

def Resource.requests (h : Handle) : Resource → List Event
  | .node _ => [.requested h]
  | .probe _ => []

theorem releaseOwner_attached {world : World} {owner : Owner} {r : Guest.Registration Resource}
    (present : world.heap.get? owner.id = some r) (valid : r.handle.isValid = true) :
    releaseOwner owner world =
      startDrop r.handle
        { world with
          heap := world.heap.put owner.id { r with handle := .invalid r.mode }
          log := r.object.requests r.handle ++ world.log } := by
  unfold releaseOwner
  rw [get_bind, present]
  dsimp only
  rw [bind_ok (takeHandle_eq present), if_pos valid]
  cases r.object <;> rfl

theorem releaseOwner_detached {world : World} {owner : Owner} {r : Guest.Registration Resource}
    (present : world.heap.get? owner.id = some r) (invalid : r.handle.isValid = false) :
    releaseOwner owner world =
      .ok none
        { world with heap := world.heap.put owner.id { r with handle := .invalid r.mode } } := by
  unfold releaseOwner
  rw [get_bind, present]
  dsimp only
  rw [bind_ok (takeHandle_eq present), if_neg (by simp [invalid])]
  rfl

/-- An owner that was used up for its handle asks for nothing. -/
theorem intoHandle_eq {world : World} {owner : Owner} {r : Guest.Registration Resource}
    (present : world.heap.get? owner.id = some r) :
    intoHandle owner world =
      .ok (r.handle, none)
        { world with heap := world.heap.put owner.id { r with handle := .invalid r.mode } } := by
  have emptied := (Guest.Heap.get?_put present { r with handle := .invalid r.mode } owner.id).trans
    (if_pos rfl)
  have mode_eq : ({ r with handle := .invalid r.mode } : Guest.Registration Resource).mode = r.mode :=
    Handle.mode_invalid r.mode
  unfold intoHandle
  rw [bind_ok (takeHandle_eq present),
    bind_ok (releaseOwner_detached emptied (Handle.isValid_invalid r.mode)), mode_eq,
    Guest.Heap.put_put]
  rfl

theorem consumeOwner_eq (control : Control) {world : World} {owner : Owner}
    {r : Guest.Registration Resource} (present : world.heap.get? owner.id = some r) :
    consumeOwner control owner world = takeHandle owner world := by
  unfold consumeOwner
  rw [bind_ok (intoHandle_eq present), takeHandle_eq present]
  rfl

theorem consumeOwner_absent (control : Control) {world : World} {owner : Owner}
    (absent : world.heap.get? owner.id = none) :
    consumeOwner control owner world = .error .misuse world := by
  have stopped : intoHandle owner world = .error .misuse world := bind_error (takeHandle_absent absent)
  exact bind_error stopped

/-! ## Resources of the host -/

theorem lend_ok {mode : Mode} {name : String} {world : World} {h : Handle} {host : Host}
    (lent : world.machine.host.lend mode name = .ok (h, host)) :
    lend mode name world = .ok (.ok h) { world with machine := { world.machine with host } } := by
  change EStateM.Result.ok _ _ = _
  rw [lent]

theorem lend_refused {mode : Mode} {name : String} {world : World} {fault : Fault}
    (refused : world.machine.host.lend mode name = .error fault) :
    lend mode name world = .ok (.error fault) world := by
  change EStateM.Result.ok _ _ = _
  rw [refused]

theorem releaseImport_ok {h : Handle} {world : World} {host : Host}
    (given : world.machine.host.release h = (.ok (), host)) :
    releaseImport h world = .ok () { world with machine := { world.machine with host } } := by
  unfold releaseImport
  rw [callHost_bind, given]
  rfl

@[simp]
theorem dropCell_empty (mode : Mode) : dropCell (.empty mode) = pure () := by
  rw [dropCell, Guest.Cell.lost?_empty]

/-- So what is left of an owner when its handle is given back does not matter. -/
theorem dropOwned_eq (giveBack : Handle → Script Unit) (owned : Guest.OwnedImport) :
    dropOwned giveBack owned =
      match owned.released? with
      | some h => giveBack h
      | none => pure () := by
  unfold dropOwned Guest.OwnedImport.released? Guest.Cell.lost?
  rw [owned.intoHandle_eq]
  dsimp only
  rw [dropCell_empty, show owned.handle.isValid = owned.cell.isValid from rfl]
  cases owned.cell.isValid with
  | true => exact bind_pure_unit
  | false => rfl

theorem dropOwned_ofHandle (giveBack : Handle → Script Unit) {h : Handle}
    (valid : h.isValid = true) : dropOwned giveBack (.ofHandle h) = giveBack h := by
  have released : (Guest.OwnedImport.ofHandle h).released? = some h := if_pos valid
  rw [dropOwned_eq, released]

@[simp]
theorem dropImport_empty (mode : Mode) : dropImport { cell := .empty mode } = pure () := by
  rw [dropImport, dropOwned_eq, Guest.OwnedImport.released?, Guest.Cell.lost?_empty]

theorem dropImport_ofHandle {h : Handle} (valid : h.isValid = true) (world : World) :
    dropImport (.ofHandle h) world =
      releaseImport h { world with log := .released h :: world.log } := by
  rw [dropImport, dropOwned_ofHandle _ valid]
  rfl

/-! ## Registration -/

/-- The destructor call that stands for a registration. -/
def reclaiming (typeName : String) (id : Nat) : DestructorCall :=
  { rep := .registration id, destructor := .reclaim, typeName }

theorem reclaiming_inj {left right : String} {first second : Nat}
    (same : some (Entry.exported (reclaiming left first)) =
      some (Entry.exported (reclaiming right second))) : first = second := by
  cases same
  rfl

theorem register_ok {entryName : String} {mode : Mode} {world : World} {h : Handle} {host : Host}
    (typeName : String) (object : Resource)
    (registered : world.machine.host.register mode (reclaiming entryName world.heap.next) =
      (.ok h, host)) :
    register typeName entryName mode object world =
      .ok { id := world.heap.next, mode }
        { world with
          machine := { world.machine with host }
          heap := ((world.heap.add mode object).2).attach world.heap.next h } := by
  unfold reclaiming at registered
  unfold register
  rw [modifyGet_bind]
  dsimp only
  rw [callHost_bind]
  dsimp only
  rw [Guest.Heap.add_fst, registered]
  rfl

/-- A new object stays on the heap without an owner when the host refuses it. -/
theorem register_refused {entryName : String} {mode : Mode} {world : World} {fault : Fault}
    {host : Host} (typeName : String) (object : Resource)
    (refused : world.machine.host.register mode (reclaiming entryName world.heap.next) =
      (.error fault, host)) :
    register typeName entryName mode object world =
      .error
        (.panic ("host returned an invalid handle for a new " ++ typeName ++ " registration"))
        { world with
          machine := { world.machine with host }
          heap := (world.heap.add mode object).2
          log := .notice (.rejected fault) :: world.log } := by
  unfold reclaiming at refused
  unfold register
  rw [modifyGet_bind]
  dsimp only
  rw [callHost_bind]
  dsimp only
  rw [Guest.Heap.add_fst, refused]
  rfl

end Session

end Custody
