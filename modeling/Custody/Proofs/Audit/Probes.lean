import Custody.Proofs.Audit.Runs

/-!
# Objects of the audit

An object that the audit has registered is at a place of the heap, and its host knows it at a slot.
It stays there on every excursion, and a drop request with a flush after it destroys it together
with its children. Another request for its handle is refused as stale.
-/

set_option autoImplicit false

namespace Custody.Audit

open Session (Control Excursion Felled Owner Planted Resource Rooted Script Tree World)

/-- Destructors may be nested so deep, and one flush may run as many. -/
def Reaches (control : Control) (depth : Nat) : Prop :=
  ∃ nodeType flushBound nesting, control = Session.nestedControl nodeType flushBound nesting ∧
    depth ≤ flushBound ∧ depth ≤ nesting

theorem Reaches.less {control : Control} {depth less : Nat} (reaches : Reaches control depth)
    (fewer : less ≤ depth) : Reaches control less := by
  obtain ⟨nodeType, flushBound, nesting, same, long, deep⟩ := reaches
  exact ⟨nodeType, flushBound, nesting, same, Nat.le_trans fewer long, Nat.le_trans fewer deep⟩

theorem reaches_controlFor (nodeType : Mode → String) (registrations : Nat) :
    Reaches (Session.controlFor nodeType registrations) (registrations + 1) :=
  ⟨nodeType, _, _, rfl, Nat.le_refl _, Nat.le_refl _⟩

/-- An object of the audit has a place and a slot. -/
structure Registered (world : World) (entryName : String) (id : Nat) (h : Handle) (slot : Nat)
    (children : List Owner) : Prop where
  present : world.heap.get? id = some { handle := h, object := .probe children }
  names : world.machine.host.Names h slot (.exported (Session.reclaiming entryName id))

/-- What goes down with an object. -/
def probeTree (id : Nat) (h : Handle) (children : List Tree) : Tree :=
  .branch { id, handle := h, label := none } children

variable {control : Control} {world now after : World} {mode : Mode} {entryName : String}
  {id : Nat} {h : Handle} {slot : Nat} {children : List Owner} {ids slots : List Nat}
  {tally : Host.Counters}

theorem Registered.keep (registered : Registered world entryName id h slot children)
    (excursion : Excursion world now ids slots tally) : Registered now entryName id h slot children :=
  ⟨excursion.present registered.present, excursion.names registered.names⟩

theorem Registered.ne_of_fresh (registered : Registered world entryName id h slot children)
    {other : Nat} (fresh : world.heap.get? other = none) : id ≠ other := by
  rintro rfl
  rw [registered.present] at fresh
  cases fresh

theorem Registered.isValid (registered : Registered world entryName id h slot children) :
    h.isValid = true :=
  Handle.isValid_of_slot? registered.names.slot?_eq

theorem Registered.rep_eq (registered : Registered world entryName id h slot children) :
    world.machine.host.rep h = .ok (.registration id) :=
  (Host.rep_eq_ok_iff _ _ _).2 ⟨_, _, registered.names, rfl⟩

theorem Registered.rooted (registered : Registered world entryName id h slot children)
    {trees : List Tree} (owned : children.map Owner.id = trees.map (·.top.id)) :
    Rooted world (probeTree id h trees) :=
  ⟨⟨.probe children, ⟨rfl, owned⟩, registered.present⟩, slot, entryName, registered.names⟩

theorem Registered.planted (registered : Registered world entryName id h slot []) :
    Planted world [probeTree id h []] where
  rooted tree inside := by
    rw [List.mem_singleton.1 inside]
    exact registered.rooted rfl
  nodup := List.pairwise_singleton _ _

theorem registerProbe_ok (fits : world.machine.host.Fits) (room : world.machine.host.HasRoom 1)
    (own : mode = world.machine.host.config.mode) (children : List Owner) :
    ∃ owner after h slot, registerProbe mode children world = .ok owner after ∧
      Excursion world after [owner.id] [slot] { registered := 1 } ∧
      Registered after probeEntryName owner.id h slot children := by
  obtain ⟨owner, after, h, slot, registered, excursion, present, names⟩ :=
    Session.register_excursion fits room own (probeTypeName mode) probeEntryName (.probe children)
  exact ⟨owner, after, h, slot, registered, excursion, present, names⟩

/-! ## Owners without a handle -/

/-- An object of the audit whose handle was taken out of its owner. -/
def ownerless (mode : Mode) : Guest.Registration Resource :=
  { handle := .invalid mode, object := .probe [] }

theorem mode_ownerless (mode : Mode) : (ownerless mode).mode = mode := Handle.mode_invalid mode

theorem get?_put {r : Guest.Registration Resource} (present : world.heap.get? id = some r)
    (new : Guest.Registration Resource) : (world.put id new).heap.get? id = some new :=
  (Guest.Heap.get?_put present new id).trans (if_pos rfl)

theorem takeHandle_ok {owner : Owner}
    (present : world.heap.get? owner.id = some { handle := h, object := .probe [] }) :
    Session.takeHandle owner world = .ok h (world.put owner.id (ownerless h.mode)) :=
  Session.takeHandle_eq present

theorem consumeOwner_ok (control : Control) {owner : Owner}
    (present : world.heap.get? owner.id = some { handle := h, object := .probe [] }) :
    Session.consumeOwner control owner world = .ok h (world.put owner.id (ownerless h.mode)) :=
  (Session.consumeOwner_eq control present).trans (takeHandle_ok present)

theorem takeHandle_ownerless {owner : Owner}
    (present : world.heap.get? owner.id = some (ownerless mode)) :
    Session.takeHandle owner world = .ok (.invalid mode) (world.put owner.id (ownerless mode)) := by
  rw [Session.takeHandle_eq present, mode_ownerless]
  rfl

theorem reattach_ok (present : world.heap.get? id = some (ownerless h.mode))
    (valid : h.isValid = true) :
    Session.reattach h (some id) world =
      .ok { id, mode := h.mode } (world.put id { handle := h, object := .probe [] }) :=
  Session.reattach_eq present valid (Handle.isValid_invalid h.mode)

theorem dropOwner_ownerless (control : Control) {owner : Owner}
    (present : world.heap.get? owner.id = some (ownerless mode)) :
    Session.dropOwner control owner world = .ok () (world.put owner.id (ownerless mode)) := by
  unfold Session.dropOwner
  rw [Script.bind_ok (Session.releaseOwner_detached present (Handle.isValid_invalid mode)),
    mode_ownerless]
  rfl

/-! ## Destruction -/

theorem dropOwner_felled {tree : Tree} (reaches : Reaches control (Tree.size [tree]))
    (planted : Planted world [tree]) (fits : world.machine.host.Fits)
    (idle : world.machine.host.pending = []) (owner : Owner) (same : owner.id = tree.top.id) :
    ∃ asked after order,
      Felled control (Session.dropOwner control owner) world tree asked after order := by
  obtain ⟨nodeType, flushBound, nesting, rfl, long, deep⟩ := reaches
  exact Session.dropOwner_felled deep long idle fits.compact.sound planted same

theorem requestDrop_felled (reaches : Reaches control 1) (fits : world.machine.host.Fits)
    (idle : world.machine.host.pending = [])
    (present : world.heap.get? id = some (ownerless h.mode))
    (names : world.machine.host.Names h slot (.exported (Session.reclaiming entryName id))) :
    ∃ asked after order,
      Felled control (Session.requestDrop control h) world (probeTree id h []) asked after order := by
  obtain ⟨nodeType, flushBound, nesting, rfl, long, deep⟩ := reaches
  have describes : (probeTree id h []).Describes (.probe []) := ⟨rfl, rfl⟩
  refine @Session.requestDrop_felled nodeType flushBound nesting world (probeTree id h []) deep long
    idle fits.compact.sound slot entryName _ names describes present ?_ rfl
  rw [Guest.Registration.detached, mode_ownerless]
  rfl

/-! ## Stale handles -/

/-- A request for a handle whose slot is vacant is refused as stale. -/
theorem requestDrop_stale (control : Control) (mode_eq : h.mode = world.machine.host.config.mode)
    (named : h.slot? = some slot) (vacant : world.machine.host.table.get? slot = none) :
    ∃ fault log, fault.isStale = true ∧
      Session.requestDrop control h world = .ok () (world.rejecting fault log) := by
  have unregistered : world.machine.host.unregister h =
      (.error (.unknownHandle (.handle h)),
        world.machine.host.record (.unknownHandle (.handle h))) := by
    have found : world.machine.host.find Host.dropOperation h =
        .error (.unknownHandle (.handle h)) := by
      have checked := (Host.checkMode_eq_ok_iff world.machine.host h.mode).2 mode_eq
      unfold Host.find Host.slotOf
      simp [bind, Except.bind, checked, Handle.isValid_of_slot? named, named, vacant]
    unfold Host.unregister Host.findExported
    rw [found]
    rfl
  refine ⟨.unknownHandle (.handle h),
    .notice (.rejected (.unknownHandle (.handle h))) :: world.log, rfl, ?_⟩
  unfold Session.requestDrop
  rw [Script.bind_ok (Session.startDrop_eq h world), Host.Machine.drop, unregistered]
  rfl

end Custody.Audit
