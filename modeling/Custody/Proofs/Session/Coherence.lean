import Custody.Proofs.Session.Conduct
import Custody.Proofs.Session.Standing

/-!
# A disciplined guest and its host agree

Whatever a disciplined guest does, its heap, its owners and the table of its host agree on where each
registration stands. So an attached owner is found by the host under its own handle, an object is
taken off the heap once and not looked at afterwards, and the host has nothing to complain about but
a lack of room.
-/

set_option autoImplicit false

namespace Custody.Session

open Guest (Heap Registration)
open Host (DestructorCall Table)

namespace Conduct

/-- Guest and host agree on where the registrations stand. -/
structure Accords (config : HostConfig) (c : Conduct) (standing : Nat → Standing) : Prop where
  config_eq : c.host.config = config
  capacity_eq : c.host.table.capacity = config.maxHandles.toNat
  housed : Housed c.heap standing
  lodged : Lodged c.host standing
  owning : Owning c.owners standing
  transferring : Transferring c.transferred standing
  awaiting : Awaiting c.waiting standing
  refusing : Refusing c.refused standing
  lending : Lending c.lent c.host
  exhausted : ∀ fault ∈ c.host.faults, fault.IsExhaustion config.maxHandles.toNat
  faults_eq : c.host.counters.faults = c.refused.length
  returned : c.stopped = none

theorem accords_start (config : HostConfig) : (start config).Accords config fun _ => .absent where
  config_eq := rfl
  capacity_eq := rfl
  housed id := rfl
  lodged :=
    { sound := Table.sound_empty _
      named := nofun
      held := by simp [start, host, World.start, Host.Machine.start, Host.install] }
  owning := { nodup := List.nodup_nil, named := nofun, attached := nofun }
  transferring := { nodup := List.nodup_nil, mem_iff := by simp [start] }
  awaiting := { nodup := List.nodup_nil, reclaims := nofun, present := nofun }
  refusing id := by simp [start]
  lending := { nodup := List.nodup_nil, named := nofun }
  exhausted := nofun
  faults_eq := rfl
  returned := rfl

variable {config : HostConfig} {c : Conduct} {standing : Nat → Standing}

/-! ## Handles -/

private theorem Accords.exists_named (accords : c.Accords config standing) {slot : Nat}
    {call : DestructorCall} (present : c.host.table.get? slot = some (.exported call)) :
    ∃ id h typeName, (standing id).handle? = some h ∧ call = reclaiming typeName id ∧
      c.host.Names h slot (.exported call) := by
  obtain ⟨id, h, named, slot?⟩ := accords.lodged.held slot call present
  obtain ⟨place, typeName, names⟩ := accords.lodged.named id h named
  have here : place = slot := Option.some.inj (names.slot?_eq.symm.trans slot?)
  subst here
  have entry := names.get?_eq.symm.trans present
  cases entry
  exact ⟨id, h, typeName, named, rfl, names⟩

private theorem Accords.rep_eq (accords : c.Accords config standing) {id : Nat} {h : Handle}
    (named : (standing id).handle? = some h) : c.host.rep h = .ok (.registration id) := by
  obtain ⟨slot, typeName, names⟩ := accords.lodged.named id h named
  exact (Host.rep_eq_ok_iff c.host h _).2 ⟨slot, _, names, rfl⟩

private theorem Accords.named_injective (accords : c.Accords config standing) {left right : Nat}
    {h : Handle} (first : (standing left).handle? = some h)
    (second : (standing right).handle? = some h) : left = right := by
  have same := (accords.rep_eq first).symm.trans (accords.rep_eq second)
  cases same
  rfl

/-! ## Registration -/

private theorem Accords.absent_next (accords : c.Accords config standing) :
    standing c.heap.next = .absent := by
  have cell := accords.housed c.heap.next
  rw [Heap.get?_next] at cell
  cases place : standing c.heap.next with
  | absent => rfl
  | stranded | waiting | transferred h =>
      rw [place] at cell
      obtain ⟨r, present, _⟩ := cell
      cases present
  | attached h =>
      rw [place] at cell
      obtain ⟨object, present⟩ := cell
      cases present

private theorem Accords.unowned_next (accords : c.Accords config standing) :
    ∀ owner ∈ c.owners, owner.id ≠ c.heap.next := by
  intro owner member same
  obtain ⟨h, named⟩ := accords.owning.named owner member
  rw [same, accords.absent_next] at named
  cases named

private theorem Accords.create (accords : c.Accords config standing)
    (typeName entryName : String) (object : Resource) :
    ∃ after,
      (c.perform (.create typeName entryName c.host.config.mode object)).Accords config after := by
  have absent := accords.absent_next
  have transferring : ∀ h, standing c.heap.next ≠ .transferred h := by simp [absent]
  obtain ⟨fault, refused⟩ | ⟨h, slot, table, registered, inserted, -, names⟩ :=
    Host.register_cases c.host c.host.config.mode (reclaiming entryName c.heap.next)
      accords.lodged.sound
  · -- the object is on the heap before the host is asked, and stays there
    have stopped := register_refused typeName object refused
    have exhausted := Host.exhausted_of_register accords.lodged.sound refused
    rw [accords.capacity_eq] at exhausted
    refine ⟨Function.update standing c.heap.next .stranded, ?_⟩
    rw [perform, running_ok _ (Script.attempt_panic stopped)]
    exact
      { accords with
        housed := accords.housed.update
          (fun other apart => (Heap.get?_add ..).trans (if_neg apart))
          ⟨_, (Heap.get?_add ..).trans (if_pos rfl), Handle.isValid_invalid _⟩
        lodged := (accords.lodged.congr (by rw [absent]; rfl)).of_eq rfl rfl
        owning := accords.owning.update (fun _ => accords.unowned_next) nofun
        transferring := accords.transferring.update transferring nofun
        awaiting := accords.awaiting.update (by simp [absent]) nofun
        refusing := accords.refusing.cons _
        lending := accords.lending.of_eq rfl rfl
        exhausted := fun reason member => by
          rcases List.mem_append.1 member with before | new
          · exact accords.exhausted reason before
          · rw [List.mem_singleton.1 new]
            exact exhausted
        faults_eq := congrArg (· + 1) accords.faults_eq }
  · have ran := register_ok typeName object registered
    refine ⟨Function.update standing c.heap.next (.attached h), ?_⟩
    rw [perform, running_ok _ (Script.attempt_ok ran)]
    exact
      { accords with
        capacity_eq := inserted.capacity_eq.trans accords.capacity_eq
        housed := accords.housed.update
          (fun other apart => (Heap.get?_attach_add ..).trans (if_neg apart))
          ⟨object, (Heap.get?_attach_add ..).trans (if_pos rfl)⟩
        lodged := (accords.lodged.register (by rw [absent]; rfl) inserted names).of_eq rfl rfl
        owning := accords.owning.cons _ accords.unowned_next
        transferring := accords.transferring.update transferring nofun
        awaiting := accords.awaiting.update (by simp [absent]) nofun
        refusing := accords.refusing.update (by simp [absent]) nofun
        lending := (accords.lending.insert inserted).of_eq rfl rfl }

/-! ## Owners -/

theorem Accords.owner_cases (accords : c.Accords config standing) {owner : Owner}
    (member : owner ∈ c.owners) :
    (∃ h object, standing owner.id = .attached h ∧ h.isValid = true ∧
      c.heap.get? owner.id = some { handle := h, object }) ∨
    ∃ h r, standing owner.id = .transferred h ∧ c.heap.get? owner.id = some r ∧
      r.isAttached = false := by
  obtain ⟨h, named⟩ := accords.owning.named owner member
  obtain ⟨slot, typeName, names⟩ := accords.lodged.named owner.id h named
  have valid := Handle.isValid_of_slot? names.slot?_eq
  have cell := accords.housed owner.id
  cases place : standing owner.id with
  | absent | stranded | waiting => rw [place] at named; cases named
  | attached held =>
      rw [place] at named cell
      cases named
      obtain ⟨object, present⟩ := cell
      exact .inl ⟨h, object, rfl, valid, present⟩
  | transferred held =>
      rw [place] at named cell
      cases named
      obtain ⟨r, present, detached⟩ := cell
      exact .inr ⟨h, r, rfl, present, detached⟩

private theorem Accords.put (accords : c.Accords config standing) {id : Nat}
    {old r : Registration Resource} (present : c.heap.get? id = some old)
    (cell : (standing id).Cell (some r)) : Housed (c.heap.put id r) standing := by
  have housed := accords.housed.put present cell
  rwa [Function.update_eq_self] at housed

private theorem Accords.visit (accords : c.Accords config standing) {owner : Owner}
    (member : owner ∈ c.owners) (change : Resource → Resource) :
    (c.perform (.visit owner change)).Accords config standing := by
  have ran : ∀ r, c.heap.get? owner.id = some r → Session.visit owner change c.world =
      .ok () { c.world with
        heap := c.heap.put owner.id { r with object := change r.object } } := by
    intro r present
    unfold Session.visit
    rw [Script.get_bind, show c.world.heap.get? owner.id = some r from present]
    rfl
  obtain ⟨h, object, place, -, present⟩ | ⟨h, r, place, present, detached⟩ :=
    accords.owner_cases member
  · rw [perform, running_ok _ (ran _ present)]
    have cell : (standing owner.id).Cell (some { handle := h, object := change object }) := by
      rw [place]
      exact ⟨change object, rfl⟩
    exact { accords with housed := accords.put present cell }
  · rw [perform, running_ok _ (ran _ present)]
    have cell : (standing owner.id).Cell (some { r with object := change r.object }) := by
      rw [place]
      exact ⟨_, rfl, detached⟩
    exact { accords with housed := accords.put present cell }

private theorem Accords.move (accords : c.Accords config standing) {owner : Owner} {h : Handle}
    {object : Resource} (place : standing owner.id = .attached h)
    (present : c.heap.get? owner.id = some { handle := h, object }) {owners : List Owner}
    (owning : Owning owners (Function.update standing owner.id (.transferred h))) :
    ({ c with
      world := { c.world with
        heap := c.heap.put owner.id { handle := .invalid h.mode, object } }
      owners
      transferred := (h, owner.id) :: c.transferred } : Conduct).Accords config
      (Function.update standing owner.id (.transferred h)) :=
  { accords with
    housed := accords.housed.put present ⟨_, rfl, Handle.isValid_invalid _⟩
    lodged := accords.lodged.congr (by rw [place]; rfl)
    owning
    transferring := accords.transferring.cons (by simp [place])
    awaiting := accords.awaiting.update (by simp [place]) nofun
    refusing := accords.refusing.update (by simp [place]) nofun }

private theorem Accords.detached (accords : c.Accords config standing) {owner : Owner} {h : Handle}
    {r : Registration Resource} (place : standing owner.id = .transferred h)
    (present : c.heap.get? owner.id = some r) {owners : List Owner}
    (owning : Owning owners standing) :
    ({ c with
      world := { c.world with
        heap := c.heap.put owner.id { r with handle := .invalid r.mode } }
      owners } : Conduct).Accords config standing := by
  have cell : (standing owner.id).Cell (some { r with handle := .invalid r.mode }) := by
    rw [place]
    exact ⟨_, rfl, Handle.isValid_invalid _⟩
  exact { accords with housed := accords.put present cell, owning }

private theorem Accords.owning_erase (accords : c.Accords config standing) {owner : Owner} {h : Handle}
    (member : owner ∈ c.owners) (place : standing owner.id = .transferred h) :
    Owning (c.owners.erase owner) standing := by
  have owning := accords.owning.erase member
    (show ∀ h, standing owner.id ≠ .attached h by simp [place])
  rwa [Function.update_eq_self] at owning

private theorem Accords.consume (accords : c.Accords config standing) (free : c.entering = none)
    {owner : Owner} (member : owner ∈ c.owners) :
    ∃ after, (c.perform (.consume owner)).Accords config after := by
  obtain ⟨h, object, place, valid, present⟩ | ⟨h, r, place, present, detached⟩ :=
    accords.owner_cases member
  · rw [perform, running_ok (c := { c with owners := c.owners.erase owner }) _
      (intoHandle_eq present)]
    dsimp only
    rw [receive, if_pos valid, ← free]
    exact ⟨_, accords.move place present (accords.owning.erase member nofun)⟩
  · have invalid : ¬r.handle.isValid = true := Bool.eq_false_iff.1 detached
    rw [perform, running_ok (c := { c with owners := c.owners.erase owner }) _
      (intoHandle_eq present)]
    dsimp only
    rw [receive, if_neg invalid, ← free]
    exact ⟨_, accords.detached place present (accords.owning_erase member place)⟩

private theorem Accords.detach (accords : c.Accords config standing) {owner : Owner}
    (member : owner ∈ c.owners) :
    ∃ after, (c.perform (.detach owner)).Accords config after := by
  obtain ⟨h, object, place, valid, present⟩ | ⟨h, r, place, present, detached⟩ :=
    accords.owner_cases member
  · rw [perform, running_ok _ (takeHandle_eq present), receive, if_pos valid]
    exact ⟨_, accords.move place present (accords.owning.update nofun nofun)⟩
  · have invalid : ¬r.handle.isValid = true := Bool.eq_false_iff.1 detached
    rw [perform, running_ok _ (takeHandle_eq present), receive, if_neg invalid]
    exact ⟨_, accords.detached place present accords.owning⟩

/-! ## Drop requests -/

/-- A drop request for a registration that a handle names. Whoever had the handle has it no more, and
the destructor waits or was started. -/
private theorem Accords.drop (accords : c.Accords config standing) {id : Nat} {h : Handle}
    (named : (standing id).handle? = some h) (free : c.entering = none) (log : List Event)
    {heap : Heap Resource} {owners : List Owner} {transferred : List (Handle × Nat)}
    (housed : Housed heap (Function.update standing id .waiting))
    (owning : Owning owners (Function.update standing id .waiting))
    (transferring : Transferring transferred (Function.update standing id .waiting)) :
    (running { c with world := { c.world with heap, log }, owners, transferred } (startDrop h)
      fun after started => { after with entering := started }).Accords config
      (Function.update standing id .waiting) := by
  obtain ⟨slot, typeName, names⟩ := accords.lodged.named id h named
  obtain ⟨table, pending, active, removed, dropped, waits⟩ :=
    names.drop_frame (m := c.world.machine) accords.lodged.sound
  have moved : standing id ≠ .waiting ∧ standing id ≠ .stranded := by
    constructor <;> intro place <;> rw [place] at named <;> cases named
  have awaiting : Awaiting c.world.machine.waiting standing := by
    have awaiting := accords.awaiting
    rwa [waiting, free] at awaiting
  have asked := startDrop_eq h { c.world with heap, log }
  rw [dropped] at asked waits
  rw [running_ok _ asked]
  exact
    { accords with
      capacity_eq := removed.capacity_eq.trans accords.capacity_eq
      housed
      lodged := (accords.lodged.unregister named names removed).of_eq rfl rfl
      owning
      transferring
      awaiting := (awaiting.cons typeName moved.1).perm waits
      refusing := accords.refusing.update moved.2 nofun
      lending := (accords.lending.unregister removed).of_eq rfl rfl }

private theorem Accords.dropOwner (accords : c.Accords config standing) (free : c.entering = none)
    {owner : Owner} (member : owner ∈ c.owners) :
    ∃ after, (c.perform (.dropOwner owner)).Accords config after := by
  obtain ⟨h, object, place, valid, present⟩ | ⟨h, r, place, present, detached⟩ :=
    accords.owner_cases member
  · -- the registration loses its handle first, so the host is asked in the new standing
    have released : releaseOwner owner c.world = _ := releaseOwner_attached present valid
    refine ⟨Function.update standing owner.id .waiting, ?_⟩
    have dropped := accords.drop (by rw [place]; rfl) free (object.requests h ++ c.world.log)
      (accords.housed.put present ⟨{ handle := .invalid h.mode, object }, rfl, Handle.isValid_invalid _⟩)
      (accords.owning.erase member nofun) (accords.transferring.update (by simp [place]) nofun)
    rw [running] at dropped
    rw [perform, running, released]
    exact dropped
  · have released : releaseOwner owner c.world = _ := releaseOwner_detached present detached
    rw [perform, running_ok (c := { c with owners := c.owners.erase owner }) _ released]
    have unused := accords.detached place present (accords.owning_erase member place)
    exact ⟨standing, { unused with awaiting := by simpa [waiting, free] using accords.awaiting }⟩

private theorem Accords.dropHandle (accords : c.Accords config standing) (free : c.entering = none)
    {h : Handle} {id : Nat} (member : (h, id) ∈ c.transferred) (unowned : ¬c.HasOwner id) :
    ∃ after, (c.perform (.dropHandle h id)).Accords config after := by
  have place := (accords.transferring.mem_iff h id).1 member
  have named : (standing id).handle? = some h := by rw [place]; rfl
  have cell := accords.housed id
  rw [place] at cell
  have housed : Housed c.heap (Function.update standing id .waiting) :=
    accords.housed.update (fun _ _ => rfl) cell
  have owning : Owning c.owners (Function.update standing id .waiting) :=
    accords.owning.update (fun _ owner present same => unowned ⟨owner, present, same⟩) nofun
  exact ⟨_, accords.drop named free c.world.log housed owning (accords.transferring.erase place nofun)⟩

private theorem Accords.reattach (accords : c.Accords config standing) {h : Handle} {id : Nat}
    (lawful : c.Lawful (.reattach h id)) :
    ∃ after, (c.perform (.reattach h id)).Accords config after := by
  obtain ⟨found, ⟨r, present, detached⟩, unowned⟩ := lawful
  obtain ⟨slot, call, names, same⟩ := (Host.rep_eq_ok_iff c.host h _).1 found
  obtain ⟨other, handle, typeName, named, rfl, before⟩ := accords.exists_named names.get?_eq
  cases same
  cases names.handle_unique before
  -- without an owner the registration that the host has for the handle is not attached
  have transferred : standing id = .transferred h := by
    cases place : standing id with
    | absent | stranded | waiting => rw [place] at named; cases named
    | attached held => exact absurd (accords.owning.attached id held place) unowned
    | transferred held => rw [place] at named; cases named; rfl
  have valid := Handle.isValid_of_slot? names.slot?_eq
  refine ⟨Function.update standing id (.attached h), ?_⟩
  rw [perform, running_ok (c := { c with transferred := c.transferred.erase (h, id) }) _
    (reattach_eq present valid detached)]
  exact
    { accords with
      housed := accords.housed.put present ⟨r.object, rfl⟩
      lodged := accords.lodged.congr (by rw [transferred]; rfl)
      owning := accords.owning.cons { id, mode := h.mode }
        fun owner member same => unowned ⟨owner, member, same⟩
      transferring := accords.transferring.erase transferred nofun
      awaiting := accords.awaiting.update (by simp [transferred]) nofun
      refusing := accords.refusing.update (by simp [transferred]) nofun }

/-! ## Resources of the host -/

private theorem Accords.lend (accords : c.Accords config standing) (mode : Mode) (name : String) :
    (c.perform (.lend mode name)).Accords config standing := by
  obtain ⟨fault, refused⟩ | ⟨h, slot, table, lent, inserted, names⟩ :=
    Host.lend_cases c.host mode name accords.lodged.sound
  · rw [perform, running_ok _ (lend_refused refused)]
    exact { accords with }
  · rw [perform, running_ok _ (lend_ok lent)]
    exact
      { accords with
        capacity_eq := inserted.capacity_eq.trans accords.capacity_eq
        lodged := (accords.lodged.lend inserted).of_eq rfl rfl
        lending := (accords.lending.lend inserted names).of_eq rfl rfl }

private theorem Accords.release (accords : c.Accords config standing) {h : Handle}
    (member : h ∈ c.lent) (log : List Event) :
    (running { c with world := { c.world with log }, lent := c.lent.erase h } (releaseImport h)
      fun after _ => after).Accords config standing := by
  obtain ⟨slot, name, names⟩ := accords.lending.named h member
  obtain ⟨table, removed, given⟩ := names.release accords.lodged.sound
  have returned : releaseImport h { c.world with log } = _ := releaseImport_ok given
  rw [running_ok _ returned]
  exact
    { accords with
      capacity_eq := removed.capacity_eq.trans accords.capacity_eq
      lodged := (accords.lodged.release removed).of_eq rfl rfl
      lending := (accords.lending.release names removed).of_eq rfl rfl }

private theorem Accords.dropImport (accords : c.Accords config standing) {h : Handle}
    (member : h ∈ c.lent) : (c.perform (.dropImport h)).Accords config standing := by
  obtain ⟨slot, name, names⟩ := accords.lending.named h member
  have valid := Handle.isValid_of_slot? names.slot?_eq
  have released := accords.release member (.released h :: c.world.log)
  rw [running] at released
  rw [perform, running, dropImport_ofHandle valid]
  exact released

/-! ## Destructors -/

private theorem Accords.resume (accords : c.Accords config standing) {host : Host}
    {active : List Host.Activation} {entering : Option DestructorCall}
    (config_eq : host.config = c.host.config) (table_eq : host.table = c.host.table)
    (faults_eq : host.faults = c.host.faults ∧ host.counters.faults = c.host.counters.faults)
    (waits : (entering.toList ++ ({ host, active } : Host.Machine).waiting).Perm c.waiting) :
    ({ c with world := { c.world with machine := { host, active } }, entering } : Conduct).Accords
      config standing :=
  { accords with
    config_eq := config_eq.trans accords.config_eq
    capacity_eq := (congrArg Table.capacity table_eq).trans accords.capacity_eq
    lodged := accords.lodged.of_eq config_eq table_eq
    lending := accords.lending.of_eq config_eq table_eq
    awaiting := accords.awaiting.perm waits
    exhausted := fun fault member => accords.exhausted fault (faults_eq.1 ▸ member)
    faults_eq := faults_eq.2.trans accords.faults_eq }

private theorem Accords.flush (accords : c.Accords config standing) (free : c.entering = none) :
    (c.perform .flush).Accords config standing := by
  obtain ⟨pending, active, flushed⟩ := c.world.machine.flush_frame
  have waits := c.world.machine.flush_waiting
  have ran : Script.callMachine (·.flush) c.world =
      .ok c.world.machine.flush.1 { c.world with machine := c.world.machine.flush.2 } := rfl
  rw [flushed] at ran waits
  rw [perform, running_ok _ ran]
  exact accords.resume rfl rfl ⟨rfl, rfl⟩ (by simpa [waiting, free] using waits)

private theorem Accords.finish (accords : c.Accords config standing) (free : c.entering = none)
    (running : c.world.machine.active ≠ []) : (c.perform .finish).Accords config standing := by
  obtain ⟨pending, active, finished⟩ := c.world.machine.finish_frame running
  have waits := c.world.machine.finish_waiting
  have ran : Script.callMachine (·.finish) c.world =
      .ok c.world.machine.finish.1 { c.world with machine := c.world.machine.finish.2 } := rfl
  rw [finished] at ran waits
  rw [perform, running_ok _ ran]
  exact accords.resume rfl rfl ⟨rfl, rfl⟩ (by simpa [waiting, free] using waits)

private theorem Accords.takeFaults (accords : c.Accords config standing) :
    (c.perform .takeFaults).Accords config standing := by
  have ran : Script.callHost Host.takeFaults c.world =
      .ok c.host.faults { c.world with
        machine := { c.world.machine with host := { c.host with faults := [] } } } := rfl
  rw [perform, running_ok _ ran]
  exact
    { accords with
      lodged := accords.lodged.of_eq rfl rfl
      lending := accords.lending.of_eq rfl rfl
      exhausted := nofun }

private theorem Accords.enter (accords : c.Accords config standing) {call : DestructorCall}
    (started : c.entering = some call) :
    ∃ after, (c.perform .enter).Accords config after := by
  have awaiting := accords.awaiting
  rw [waiting, started] at awaiting
  obtain ⟨typeName, id, rfl, waits⟩ := awaiting.reclaims call List.mem_cons_self
  have cell := accords.housed id
  rw [waits] at cell
  obtain ⟨r, present, _⟩ := cell
  obtain ⟨heap, removed, others⟩ := Heap.remove_of_get? present
  have performed : c.perform .enter =
      { c with world := { c.world with heap }, entering := none } := by
    rw [perform, started]
    exact running_ok (c := { c with entering := none }) _ (reclaim_eq removed)
  refine ⟨Function.update standing id .absent, ?_⟩
  rw [performed]
  exact
    { accords with
      housed := accords.housed.update (fun other apart => (others other).trans (if_neg apart))
        ((others id).trans (if_pos rfl))
      lodged := accords.lodged.congr (by rw [waits]; rfl)
      owning := accords.owning.update
        (fun _ owner member same => by
          obtain ⟨h, named⟩ := accords.owning.named owner member
          rw [same, waits] at named
          cases named)
        nofun
      transferring := accords.transferring.update (by simp [waits]) nofun
      awaiting := awaiting.tail
      refusing := accords.refusing.update (by simp [waits]) nofun }

/-! ## Runs -/

private theorem Accords.perform (accords : c.Accords config standing) {act : Act}
    (permitted : c.Permitted act) : ∃ after, (c.perform act).Accords config after := by
  unfold Permitted at permitted
  cases entering : c.entering with
  | some call =>
      rw [entering] at permitted
      cases permitted
      exact accords.enter entering
  | none =>
      rw [entering] at permitted
      obtain ⟨other, lawful⟩ := permitted
      cases act with
      | create typeName entryName mode object =>
          cases lawful
          exact accords.create typeName entryName object
      | visit owner change => exact ⟨_, accords.visit lawful change⟩
      | dropOwner owner => exact accords.dropOwner entering lawful
      | consume owner => exact accords.consume entering lawful
      | detach owner => exact accords.detach lawful
      | reattach h id => exact accords.reattach lawful
      | dropHandle h id => exact accords.dropHandle entering lawful.1 lawful.2
      | lend mode name => exact ⟨_, accords.lend mode name⟩
      | giveBack h => exact ⟨_, accords.release lawful c.world.log⟩
      | dropImport h => exact ⟨_, accords.dropImport lawful⟩
      | flush => exact ⟨_, accords.flush entering⟩
      | takeFaults => exact ⟨_, accords.takeFaults⟩
      | enter => exact absurd rfl other
      | finish => exact ⟨_, accords.finish entering lawful⟩

/-- Guest and host agree in every state of a disciplined guest. -/
theorem Reachable.accords (reachable : Reachable config c) :
    ∃ standing, c.Accords config standing := by
  induction reachable with
  | start => exact ⟨_, accords_start config⟩
  | step _ permitted ih =>
      obtain ⟨standing, accords⟩ := ih
      exact accords.perform permitted

/-! ## Coherence -/

/-- The state of a disciplined guest and its host. -/
structure Coherent (config : HostConfig) (c : Conduct) : Prop where
  /-- An owner whose handle was not moved out has a valid handle, which the host resolves to it. -/
  attached : ∀ owner ∈ c.owners, (∀ h, (h, owner.id) ∉ c.transferred) →
    ∃ r, c.heap.get? owner.id = some r ∧ r.handle.isValid = true ∧
      c.host.rep r.handle = .ok (.registration owner.id)
  /-- An owner whose handle was moved out has a registration without a handle. -/
  detached : ∀ owner ∈ c.owners, ∀ h, (h, owner.id) ∈ c.transferred →
    ∃ r, c.heap.get? owner.id = some r ∧ r.handle.isValid = false
  /-- No two owners have one valid handle. -/
  distinct : c.owners.Pairwise fun left right => ∀ first second,
    c.heap.get? left.id = some first → c.heap.get? right.id = some second →
      first.handle.isValid = true → first.handle ≠ second.handle
  /-- No registration has two owners. -/
  unshared : (c.owners.map Owner.id).Nodup
  /-- A handle that was moved out still names its registration, which is on the heap. -/
  transferred : ∀ h id, (h, id) ∈ c.transferred →
    c.host.rep h = .ok (.registration id) ∧ ∃ r, c.heap.get? id = some r
  /-- A live entry of the guest names a registration that is on the heap. -/
  live : ∀ slot call, c.host.table.get? slot = some (.exported call) →
    ∃ typeName id r, call = reclaiming typeName id ∧ c.heap.get? id = some r
  /-- A destructor that waits names a registration that is on the heap and that nobody else reaches:
  no owner, no handle and no entry of the table. -/
  waits : ∀ call ∈ c.waiting, ∃ typeName id r, call = reclaiming typeName id ∧
    c.heap.get? id = some r ∧ ¬c.HasOwner id ∧ (∀ h, (h, id) ∉ c.transferred) ∧
    ∀ slot live, c.host.table.get? slot = some (.exported live) → live.rep ≠ .registration id
  /-- No two destructors wait for one registration. -/
  once : (c.waiting.map DestructorCall.rep).Nodup
  /-- Whatever is on the heap was refused, has an owner or a handle, or waits for its destructor. -/
  kept : ∀ id r, c.heap.get? id = some r → id ∈ c.refused ∨ c.HasOwner id ∨
    (∃ h, (h, id) ∈ c.transferred) ∨ ∃ call ∈ c.waiting, call.rep = .registration id
  /-- Only a lack of room is recorded as a fault. -/
  exhausted : ∀ fault ∈ c.host.faults, fault.IsExhaustion config.maxHandles.toNat
  /-- One fault is recorded for each registration that was refused, and none besides. -/
  faults_eq : c.host.counters.faults = c.refused.length
  /-- No script has looked for an object that was off the heap, or failed an assertion other than for
  a registration that was refused. -/
  returned : c.stopped = none

/-- A disciplined guest and its host are coherent in every state that they come to, with destructors
that run in drop requests or in flushes and do in turn whatever a disciplined guest may do. -/
theorem Reachable.coherent (reachable : Reachable config c) : c.Coherent config := by
  obtain ⟨standing, accords⟩ := reachable.accords
  refine
    { attached := fun owner member kept => ?_
      detached := fun owner member h moved => ?_
      distinct := ?_
      unshared := accords.owning.nodup
      transferred := fun h id moved => ?_
      live := fun slot call present => ?_
      waits := fun call member => ?_
      once := accords.awaiting.nodup
      kept := fun id r present => ?_
      exhausted := accords.exhausted
      faults_eq := accords.faults_eq
      returned := accords.returned }
  · obtain ⟨h, object, place, valid, present⟩ | ⟨h, r, place, present, detached⟩ :=
      accords.owner_cases member
    · exact ⟨_, present, valid, accords.rep_eq (by rw [place]; rfl)⟩
    · exact absurd ((accords.transferring.mem_iff h owner.id).2 place) (kept h)
  · have place := (accords.transferring.mem_iff h owner.id).1 moved
    have cell := accords.housed owner.id
    rw [place] at cell
    exact cell
  · have unshared : c.owners.Pairwise fun left right => left.id ≠ right.id :=
      List.pairwise_map.1 accords.owning.nodup
    refine unshared.imp_of_mem fun {left right} atLeft atRight apart first second => ?_
    intro firstPresent secondPresent valid same
    obtain ⟨h, object, place, -, present⟩ | ⟨h, r, place, present, detached⟩ :=
      accords.owner_cases atLeft
    · cases firstPresent.symm.trans present
      obtain ⟨k, other, elsewhere, -, present⟩ | ⟨k, r, elsewhere, present, detached⟩ :=
        accords.owner_cases atRight
      · cases secondPresent.symm.trans present
        cases same
        exact apart (accords.named_injective (by rw [place]; rfl) (by rw [elsewhere]; rfl))
      · cases secondPresent.symm.trans present
        rw [same] at valid
        exact Bool.eq_false_iff.1 detached valid
    · cases firstPresent.symm.trans present
      exact Bool.eq_false_iff.1 detached valid
  · have place := (accords.transferring.mem_iff h id).1 moved
    have named : (standing id).handle? = some h := by rw [place]; rfl
    exact ⟨accords.rep_eq named, accords.housed.present named⟩
  · obtain ⟨id, h, typeName, named, rfl, -⟩ := accords.exists_named present
    obtain ⟨r, allocated⟩ := accords.housed.present named
    exact ⟨typeName, id, r, rfl, allocated⟩
  · obtain ⟨typeName, id, rfl, place⟩ := accords.awaiting.reclaims call member
    have cell := accords.housed id
    rw [place] at cell
    obtain ⟨r, present, -⟩ := cell
    refine ⟨typeName, id, r, rfl, present, ?_, ?_, ?_⟩
    · rintro ⟨owner, member, same⟩
      obtain ⟨h, named⟩ := accords.owning.named owner member
      rw [same, place] at named
      cases named
    · intro h moved
      rw [accords.transferring.mem_iff, place] at moved
      cases moved
    · intro slot live occupied same
      obtain ⟨other, h, name, named, rfl, -⟩ := accords.exists_named occupied
      cases same
      rw [place] at named
      cases named
  · have cell := accords.housed id
    cases place : standing id with
    | absent =>
        rw [place] at cell
        cases present.symm.trans cell
    | stranded => exact .inl ((accords.refusing id).2 place)
    | attached h => exact .inr (.inl (accords.owning.attached id h place))
    | transferred h => exact .inr (.inr (.inl ⟨h, (accords.transferring.mem_iff h id).2 place⟩))
    | waiting =>
        obtain ⟨typeName, member⟩ := accords.awaiting.present id place
        exact .inr (.inr (.inr ⟨_, member, rfl⟩))

/-- An owner is adopted again and dropped, and its destructor registers an object at the same slot. -/
theorem coherent_of_readopted :
    (((((((start {}).perform (.create "File" "file" .integer (.probe []))).perform
      (.consume { id := 0, mode := .integer })).perform (.reattach (.integer 0) 0)).perform
      (.dropOwner { id := 0, mode := .integer })).perform .enter).perform
      (.create "File" "file" .integer (.probe []))).perform .finish |>.Coherent {} := by
  refine Reachable.coherent (.step (.step (.step (.step (.step (.step (.step .start
    ?_) ?_) ?_) ?_) ?_) ?_) ?_)
  · exact And.intro nofun rfl
  · exact And.intro nofun (.head _)
  · exact And.intro nofun (And.intro rfl (And.intro ⟨_, rfl, rfl⟩ nofun))
  · exact And.intro nofun (.head _)
  · exact rfl
  · exact And.intro nofun rfl
  · exact And.intro nofun nofun

end Conduct

end Custody.Session
