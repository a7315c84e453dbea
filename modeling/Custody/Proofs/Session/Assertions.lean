import Custody.Proofs.Session.Conservation

/-!
# What a failed assertion leaves behind

Assertions fail when a host rejects a new object, when an owner is to be attached where it cannot be, and
when a handle that is still live would be overwritten. What was built up to then is left behind: a new
object stays on the heap with all that it owns, and a handle that was moved in goes away with a warning.
Everything else is as it was before.
-/

set_option autoImplicit false

namespace Custody

theorem Host.register_rejected {host after : Host} {mode : Mode} {call : Host.DestructorCall}
    {fault : Host.Fault} (rejected : host.register mode call = (.error fault, after)) :
    after = host.record fault := by
  unfold register at rejected
  split at rejected
  · cases rejected
  · cases rejected
    rfl

namespace Session

open Guest (Cell)
open Host (Fault)
open Script

def Resource.children : Resource → List Owner
  | .node n => n.children
  | .probe children => children

namespace World

/-- The registration at a place has its handle, and the host has the object there under it. -/
def IsAttached (world : World) (id : Nat) : Prop :=
  ∃ r slot typeName, world.heap.get? id = some r ∧
    world.machine.host.Names r.handle slot (.exported (reclaiming typeName id))

/-- The places of the owners inside an object, at any depth. -/
inductive Owns (world : World) : Resource → Nat → Prop where
  | part {object : Resource} {owner : Owner} (member : owner ∈ object.children) :
      Owns world object owner.id
  | deeper {object : Resource} {owner : Owner} {r : Guest.Registration Resource} {id : Nat}
      (member : owner ∈ object.children) (present : world.heap.get? owner.id = some r)
      (below : Owns world r.object id) : Owns world object id

/-- The host has recorded a fault and the new object stays on the heap. No destructor runs. -/
structure Leaks (world : World) (mode : Mode) (object : Resource) (fault : Fault) (after : World) :
    Prop where
  config_eq : after.machine.host.config = world.machine.host.config
  table_eq : after.machine.host.table = world.machine.host.table
  pending_eq : after.machine.host.pending = world.machine.host.pending
  counters_eq : after.machine.host.counters =
    { world.machine.host.counters with faults := world.machine.host.counters.faults + 1 }
  faults_eq : after.machine.host.faults = world.machine.host.faults ++ [fault]
  active_eq : after.machine.active = world.machine.active
  log_eq : after.log = .notice (.rejected fault) :: world.log
  /-- The object is there, without a handle. -/
  leaked : after.heap.get? world.heap.next = some { handle := .invalid mode, object }
  places : ∀ id, id ≠ world.heap.next → after.heap.get? id = world.heap.get? id
  registers : after.owners = world.owners ∧ after.cells = world.cells ∧
    after.imports = world.imports ∧ after.saved = world.saved
  workspace_eq : after.workspace = world.workspace
  /-- The object still has what it owned, attached as it was. -/
  owns : ∀ id, world.Owns object id → after.Owns object id
  attached : ∀ id, world.IsAttached id → after.IsAttached id

/-- Why nothing can be attached, with the message that says so. -/
inductive Unattachable (world : World) (h : Handle) : Option Nat → String → Prop where
  | invalid {id : Option Nat} (invalid : h.isValid = false) :
      Unattachable world h id "cannot reattach the invalid handle"
  | null (valid : h.isValid = true) :
      Unattachable world h none "cannot reattach a null representation"
  | attached {id : Nat} {r : Guest.Registration Resource} (valid : h.isValid = true)
      (present : world.heap.get? id = some r) (attached : r.isAttached = true) :
      Unattachable world h (some id) ("registration is still attached to " ++ r.handle.text)

/-- What a step would attach an owner to: nothing, or the node with a label if there is one. -/
def labelled? (world : World) (h : Handle) : Option String → Option (Option Nat)
  | none => some none
  | some label => (findNode? world label h.mode).map some

/-- A cell keeps its handle, and the cell that was to be moved over it goes away. -/
structure AssignsOver (world : World) (src dst message : String) (after : World) : Prop where
  kept : ∃ target, world.cells.get? dst = some target ∧ target.isValid = true ∧
    after.cells.get? dst = some target ∧
    message = "assigning over live imported handle " ++ target.handle.text
  /-- One warning is given, if the handle that was moved in is lost. -/
  warned : ∃ source, world.cells.get? src = some source ∧
    after.log = (if source.isValid then [.notice (.lost source.handle)] else []) ++ world.log
  rest : after = { world with cells := world.cells.erase src, log := after.log }

/-- Assertions that fail in a world leave everything else in it alone. -/
structure Withstands (world : World) : Prop where
  /-- An object is registered, or the host has rejected it. -/
  registering : ∀ typeName entryName mode object,
    (∃ owner after, register typeName entryName mode object world = .ok owner after) ∨
    ∃ fault after,
      (world.machine.host.register mode (reclaiming entryName world.heap.next)).1 = .error fault ∧
      register typeName entryName mode object world =
        .error
          (.panic ("host returned an invalid handle for a new " ++ typeName ++ " registration"))
          after ∧
      world.Leaks mode object fault after
  reattaching : ∀ h id message after, reattach h id world = .error (.panic message) after ↔
    world.Unattachable h id message ∧ after = world
  /-- A step that would attach an owner lets the owner in its register be. -/
  keeping : ∀ control nodeType dst arg label h id message, arg.value? world = some h →
    world.labelled? h label = some id → world.Unattachable h id message →
    perform control nodeType (.reattach dst arg label) world = .error (.panic message) world
  filling : ∀ control nodeType src arg h message after, arg.value? world = some h →
    perform control nodeType (.fillCell src arg) world = .error (.panic message) after →
    after = world ∧ ∃ cell, world.cells.get? src = some cell ∧ cell.isValid = true ∧
      message = "overwriting live imported handle " ++ cell.handle.text
  assigning : ∀ control nodeType src dst message after,
    perform control nodeType (.assignCell src dst) world = .error (.panic message) after →
    world.AssignsOver src dst message after

end World

variable {world : World}

/-! ## Objects that are rejected -/

theorem World.Owns.keep {after : World} {object : Resource} {id : Nat}
    (old : ∀ id r, world.heap.get? id = some r → after.heap.get? id = some r)
    (owns : world.Owns object id) : after.Owns object id := by
  induction owns with
  | part member => exact .part member
  | deeper member present _ ih => exact .deeper member (old _ _ present) ih

theorem leaks_of_rejected (world : World) (mode : Mode) (object : Resource) (fault : Fault) :
    world.Leaks mode object fault
      { world with
        machine := { world.machine with host := world.machine.host.record fault }
        heap := (world.heap.add mode object).2
        log := .notice (.rejected fault) :: world.log } := by
  have places := world.heap.get?_add mode object
  have old : ∀ id r, world.heap.get? id = some r →
      (world.heap.add mode object).2.get? id = some r := by
    intro id r present
    rw [places, if_neg (Nat.ne_of_lt (Guest.Heap.lt_next present)), present]
  constructor
  case config_eq | table_eq | pending_eq | counters_eq | faults_eq | active_eq => rfl
  case log_eq | workspace_eq => rfl
  case leaked => exact (places _).trans (if_pos rfl)
  case places => exact fun id different => (places id).trans (if_neg different)
  case registers => exact ⟨rfl, rfl, rfl, rfl⟩
  case owns => exact fun id owns => owns.keep old
  case attached =>
    rintro id ⟨r, slot, typeName, present, names⟩
    exact ⟨r, slot, typeName, old id r present, names.of_eq rfl rfl⟩

theorem register_withstands (world : World) (typeName entryName : String) (mode : Mode)
    (object : Resource) :
    (∃ owner after, register typeName entryName mode object world = .ok owner after) ∨
    ∃ fault after,
      (world.machine.host.register mode (reclaiming entryName world.heap.next)).1 = .error fault ∧
      register typeName entryName mode object world =
        .error
          (.panic ("host returned an invalid handle for a new " ++ typeName ++ " registration"))
          after ∧
      world.Leaks mode object fault after := by
  cases registered : world.machine.host.register mode (reclaiming entryName world.heap.next) with
  | mk result host =>
      cases result with
      | ok h => exact .inl ⟨_, _, register_ok typeName object registered⟩
      | error fault =>
          obtain rfl := Host.register_rejected registered
          exact .inr ⟨fault, _, rfl, register_refused typeName object registered,
            leaks_of_rejected world mode object fault⟩

/-! ## Owners that cannot be attached -/

theorem World.Unattachable.reattach_eq {h : Handle} {id : Option Nat} {message : String}
    (unattachable : world.Unattachable h id message) :
    world.heap.reattach h id = .error (.panic message) := by
  unfold Guest.Heap.reattach
  cases unattachable with
  | invalid invalid => simp [invalid]
  | null valid => simp [valid]
  | attached valid present attached => simp [valid, present, attached]

theorem World.unattachable_of_reattach {h : Handle} {id : Option Nat} {message : String}
    (failed : world.heap.reattach h id = .error (.panic message)) :
    world.Unattachable h id message := by
  unfold Guest.Heap.reattach at failed
  cases valid : h.isValid with
  | false =>
      rw [valid] at failed
      cases failed
      exact .invalid valid
  | true =>
      simp only [valid, Bool.not_true, Bool.false_eq_true, if_false] at failed
      split at failed
      · cases failed
        exact .null valid
      · split at failed
        · cases failed
        · rename_i r present
          split at failed
          · rename_i attached
            cases failed
            exact .attached valid present attached
          · cases failed

theorem reattach_panics_iff (world : World) (h : Handle) (id : Option Nat) (message : String)
    (after : World) : reattach h id world = .error (.panic message) after ↔
      world.Unattachable h id message ∧ after = world := by
  unfold reattach
  rw [get_bind]
  constructor
  · intro panicked
    cases failed : world.heap.reattach h id with
    | error stop =>
        rw [failed] at panicked
        cases panicked
        exact ⟨World.unattachable_of_reattach failed, rfl⟩
    | ok heap =>
        rw [failed] at panicked
        cases id <;> cases panicked
  · rintro ⟨unattachable, rfl⟩
    rw [unattachable.reattach_eq]
    rfl

variable {control : Control} {nodeType : Mode → String}

theorem perform_reattach_panics {dst message : String} {arg : HandleArg} {label : Option String}
    {h : Handle} {id : Option Nat} (given : arg.value? world = some h)
    (found : world.labelled? h label = some id) (unattachable : world.Unattachable h id message) :
    perform control nodeType (.reattach dst arg label) world = .error (.panic message) world := by
  have failed := (reattach_panics_iff world h id message world).2 ⟨unattachable, rfl⟩
  have start : perform control nodeType (.reattach dst arg label) world =
      reattachNode control dst h label world := withHandle_found _ given
  rw [start]
  unfold reattachNode
  cases label with
  | none =>
      cases found
      exact bind_error failed
  | some label =>
      obtain ⟨place, node?, rfl⟩ := Option.map_eq_some_iff.1 found
      simp only [get_bind, node?]
      exact bind_error failed

/-! ## Handles that would be overwritten -/

theorem fill_withstands {src message : String} {arg : HandleArg} {h : Handle} {after : World}
    (given : arg.value? world = some h)
    (panicked : perform control nodeType (.fillCell src arg) world = .error (.panic message) after) :
    after = world ∧ ∃ cell, world.cells.get? src = some cell ∧ cell.isValid = true ∧
      message = "overwriting live imported handle " ++ cell.handle.text := by
  cases found : world.cells.get? src with
  | none =>
      have start : perform control nodeType (.fillCell src arg) world = withCell src _ world :=
        withHandle_found _ given
      rw [start] at panicked
      simp only [withCell, get_bind, found] at panicked
      cases panicked
  | some cell =>
      rw [perform_fillCell given found] at panicked
      split at panicked
      · cases panicked
      · split at panicked
        · rename_i live
          cases panicked
          exact ⟨rfl, cell, rfl, live, rfl⟩
        · cases panicked

theorem lostEvents_some (cell : Cell) :
    lostEvents (some cell) = if cell.isValid then [.notice (.lost cell.handle)] else [] := by
  unfold lostEvents Cell.lost?
  cases valid : cell.isValid <;> simp [valid]

theorem assign_withstands {src dst message : String} {after : World}
    (panicked : perform control nodeType (.assignCell src dst) world =
      .error (.panic message) after) : world.AssignsOver src dst message after := by
  cases source? : world.cells.get? src with
  | none =>
      rw [perform_assignCell_without (.inl source?)] at panicked
      cases panicked
  | some source =>
      cases target? : world.cells.get? dst with
      | none =>
          rw [perform_assignCell_without (.inr target?)] at panicked
          cases panicked
      | some target =>
          rw [perform_assignCell source? target?] at panicked
          split at panicked
          · cases panicked
          · rename_i fit
            split at panicked
            · rename_i live
              cases panicked
              have apart : dst ≠ src := fun same => fit (.inl same.symm)
              constructor
              case kept =>
                exact ⟨target, target?, live, (world.cells.get?_erase_of_ne apart).trans target?, rfl⟩
              case warned => exact ⟨source, source?, by rw [lostEvents_some]⟩
              case rest => rfl
            · cases panicked

/-- Whatever the world is, a failed assertion changes nothing but what it says. -/
theorem World.withstands (world : World) : world.Withstands where
  registering := register_withstands world
  reattaching := reattach_panics_iff world
  keeping _ _ _ _ _ _ _ _ given found unattachable := perform_reattach_panics given found unattachable
  filling _ _ _ _ _ _ _ given panicked := fill_withstands given panicked
  assigning _ _ _ _ _ _ panicked := assign_withstands panicked

end Session

end Custody
