import Mathlib.Data.List.Perm.Subperm
import Custody.Proofs.Session.Coherence

/-!
# Owners that outlive their host

A host can be replaced while owners are around that were registered with it. Their handles are slots of
a table that is gone, and the table that took its place starts with the same slots. A drop request
through such a handle finds nothing while the slot is empty. Once an object of the new host is
registered there, the request takes that object out, although its own owner is still around. Until this
happens for the first time every owner takes out its own object or none.
-/

set_option autoImplicit false

namespace Custody

open Host (DestructorCall Entry Fault Table)

namespace Host

/-- A handle whose slot is empty is unknown, and the request only leaves a record. -/
theorem unregister_vacant {host : Host} {h : Handle} {slot : Nat} (mode : h.mode = host.config.mode)
    (named : h.slot? = some slot) (vacant : host.table.get? slot = none) :
    host.unregister h =
      (.error (.unknownHandle (.handle h)), host.record (.unknownHandle (.handle h))) := by
  have valid := Handle.isValid_of_slot? named
  have checked := (checkMode_eq_ok_iff host h.mode).2 mode
  simp [unregister, findExported, find, slotOf, bind, Except.bind, checked, valid, named, vacant]

theorem Machine.drop_vacant {m : Machine} {h : Handle} {slot : Nat}
    (mode : h.mode = m.host.config.mode) (named : h.slot? = some slot)
    (vacant : m.host.table.get? slot = none) :
    m.drop h =
      (.rejected (.unknownHandle (.handle h)),
        { m with host := m.host.record (.unknownHandle (.handle h)) }) := by
  simp only [Machine.drop, unregister_vacant mode named vacant]

end Host

namespace Session

open Guest (Heap Registration)

/-- What happens next while hosts come and go. Guest code registers objects, lets owners go, flushes and
replaces the host, at the top or inside a destructor. At `enter` the destructor that was started takes
its object off the heap, and at `finish` the innermost one returns. -/
inductive Move where
  | install (config : HostConfig)
  | create (typeName entryName : String) (object : Resource)
  | dropOwner (owner : Owner)
  | flush
  | enter
  | finish

/-- A guest and the hosts that follow one another. -/
structure Succession where
  conduct : Conduct
  /-- The registrations that the host that is there was asked for. -/
  own : List Nat := []
  /-- Whether an owner has asked for the slot of another registration. -/
  collided : Bool := false

def Conduct.install (c : Conduct) (config : HostConfig) : Conduct :=
  { c with world := { c.world with machine := c.world.machine.install config } }

namespace Succession

def start (config : HostConfig) : Succession := { conduct := .start config }

def host (s : Succession) : Host := s.conduct.host

def heap (s : Succession) : Heap Resource := s.conduct.heap

def owners (s : Succession) : List Owner := s.conduct.owners

/-- Whether the handle of an owner is one of a host that was replaced, and its slot is taken again. -/
def collides (s : Succession) (owner : Owner) : Bool :=
  !s.own.contains owner.id &&
    match s.heap.get? owner.id with
    | some r => (r.handle.slot?.bind s.host.table.get?).isSome
    | none => false

def perform (s : Succession) : Move → Succession
  | .install config => { s with conduct := s.conduct.install config, own := [] }
  | .create typeName entryName object =>
      { s with
        conduct := s.conduct.perform (.create typeName entryName s.host.config.mode object)
        own := s.heap.next :: s.own }
  | .dropOwner owner =>
      { s with
        conduct := s.conduct.perform (.dropOwner owner)
        collided := s.collided || s.collides owner }
  | .flush => { s with conduct := s.conduct.perform .flush }
  | .enter => { s with conduct := s.conduct.perform .enter }
  | .finish => { s with conduct := s.conduct.perform .finish }

/-- What guest code may do: the representation of handles is one and the same for all hosts, and owners
are let go by those who have them. -/
def Lawful (s : Succession) : Move → Prop
  | .install config => config.mode = s.host.config.mode
  | .dropOwner owner => owner ∈ s.owners
  | .finish => s.conduct.world.machine.active ≠ []
  | .create _ _ _ | .flush | .enter => True

/-- What may happen next. A destructor that was started takes its object before anything else. -/
def Permitted (s : Succession) (move : Move) : Prop :=
  match s.conduct.entering with
  | some _ => move = .enter
  | none => move ≠ .enter ∧ s.Lawful move

inductive Reachable (config : HostConfig) : Succession → Prop where
  | start : Reachable config (start config)
  | step {s : Succession} {move : Move} :
      Reachable config s → s.Permitted move → Reachable config (s.perform move)

/-! ## What an owner that goes away brings about -/

/-- An owner that goes away takes one registration out of the table, whose destructor starts or
waits. -/
def Removes (s : Succession) (owner : Owner) (id : Nat) : Prop :=
  ∃ slot typeName table started world,
    s.host.table.Removed slot (.exported (reclaiming typeName id)) table ∧
    releaseOwner owner s.conduct.world = .ok started world ∧
    world.machine.host.table = table ∧ world.machine.host.faults = s.host.faults ∧
    (started.toList ++ world.machine.waiting).Perm
      (reclaiming typeName id :: s.conduct.world.machine.waiting)

/-- An owner that goes away only leaves a record that its handle is unknown. -/
def Misses (s : Succession) (owner : Owner) : Prop :=
  ∃ r world, s.heap.get? owner.id = some r ∧
    releaseOwner owner s.conduct.world = .ok none world ∧
    world.machine =
      { s.conduct.world.machine with
        host := s.host.record (.unknownHandle (.handle r.handle)) }

variable {s : Succession} {config : HostConfig}

theorem removes_of_names {owner : Owner} {r : Registration Resource} {slot id : Nat}
    {typeName : String} (present : s.heap.get? owner.id = some r) (sound : s.host.table.Sound)
    (names : s.host.Names r.handle slot (.exported (reclaiming typeName id))) :
    s.Removes owner id := by
  have valid := Handle.isValid_of_slot? names.slot?_eq
  obtain ⟨table, pending, active, removed, dropped, waiting⟩ :=
    names.drop_frame (m := s.conduct.world.machine) sound
  have asked : releaseOwner owner s.conduct.world = _ := releaseOwner_attached present valid
  rw [startDrop_eq] at asked
  refine ⟨slot, typeName, table, _, _, removed, asked, ?_, ?_, waiting⟩
  · have after := congrArg (fun m : Host.Machine => m.host.table) dropped
    exact after
  · have after := congrArg (fun m : Host.Machine => m.host.faults) dropped
    exact after

theorem misses_of_vacant {owner : Owner} {r : Registration Resource} {slot : Nat}
    (present : s.heap.get? owner.id = some r) (mode : r.handle.mode = s.host.config.mode)
    (named : r.handle.slot? = some slot) (vacant : s.host.table.get? slot = none) :
    s.Misses owner := by
  have valid := Handle.isValid_of_slot? named
  have asked : releaseOwner owner s.conduct.world = _ := releaseOwner_attached present valid
  have dropped : s.conduct.world.machine.drop r.handle = _ :=
    Host.Machine.drop_vacant mode named vacant
  rw [startDrop_eq, dropped] at asked
  exact ⟨r, _, present, asked, rfl⟩

/-! ## Until the first collision -/

/-- An owner of the host that is there is attached to its own entry, every entry has such an owner, and
a destructor that waits has an object without an owner. The owners of hosts that were replaced have
handles that name a slot. -/
structure Settled (s : Succession) : Prop where
  sound : s.host.table.Sound
  unshared : (s.owners.map Owner.id).Nodup
  attached : ∀ owner ∈ s.owners, ∃ r slot, s.heap.get? owner.id = some r ∧
    r.handle.mode = s.host.config.mode ∧ r.handle.slot? = some slot
  named : ∀ owner ∈ s.owners, owner.id ∈ s.own → ∃ r slot typeName,
    s.heap.get? owner.id = some r ∧
    s.host.Names r.handle slot (.exported (reclaiming typeName owner.id))
  owned : ∀ slot entry, s.host.table.get? slot = some entry → ∃ owner ∈ s.owners,
    owner.id ∈ s.own ∧ ∃ r, s.heap.get? owner.id = some r ∧ r.handle.slot? = some slot
  once : (s.conduct.waiting.map DestructorCall.rep).Nodup
  unowned : ∀ call ∈ s.conduct.waiting, ∃ typeName id r, call = reclaiming typeName id ∧
    s.heap.get? id = some r ∧ ∀ owner ∈ s.owners, owner.id ≠ id
  returned : s.conduct.stopped = none

theorem settled_start (config : HostConfig) : (start config).Settled where
  sound := Table.sound_empty _
  unshared := List.nodup_nil
  attached := nofun
  named := nofun
  owned slot entry present := by
    have empty : (start config).host.table.get? slot = none := Table.get?_empty _ slot
    rw [empty] at present
    cases present
  once := List.nodup_nil
  unowned := nofun
  returned := rfl

theorem Settled.owner_ne_next (settled : s.Settled) :
    ∀ owner ∈ s.owners, owner.id ≠ s.heap.next := by
  intro owner member same
  obtain ⟨r, slot, present, -, -⟩ := settled.attached owner member
  rw [same, Heap.get?_next] at present
  cases present

/-- A change that leaves alone the table, the owners of its entries and every object that an owner or a
waiting destructor names. -/
structure Keeps (s after : Succession) : Prop where
  config_eq : after.host.config = s.host.config
  table_eq : after.host.table = s.host.table
  owners : after.owners.Sublist s.owners
  own_iff : ∀ owner ∈ s.owners, owner.id ∈ after.own ↔ owner.id ∈ s.own
  stay : ∀ owner ∈ s.owners, owner.id ∈ s.own → owner ∈ after.owners
  waiting : after.conduct.waiting.Subperm s.conduct.waiting
  objects : ∀ owner ∈ after.owners, after.heap.get? owner.id = s.heap.get? owner.id
  buried : ∀ typeName id, reclaiming typeName id ∈ after.conduct.waiting →
    after.heap.get? id = s.heap.get? id
  stopped_eq : after.conduct.stopped = s.conduct.stopped

theorem Settled.keep (settled : s.Settled) {after : Succession} (keeps : s.Keeps after) :
    after.Settled where
  sound := keeps.table_eq ▸ settled.sound
  unshared := settled.unshared.sublist (keeps.owners.map _)
  attached owner member := by
    obtain ⟨r, slot, present, mode, named⟩ := settled.attached owner (keeps.owners.subset member)
    rw [keeps.config_eq, keeps.objects owner member]
    exact ⟨r, slot, present, mode, named⟩
  named owner member own := by
    have before := keeps.owners.subset member
    have own := (keeps.own_iff owner before).1 own
    obtain ⟨r, slot, typeName, present, names⟩ := settled.named owner before own
    rw [keeps.objects owner member]
    exact ⟨r, slot, typeName, present, names.of_eq keeps.config_eq keeps.table_eq⟩
  owned slot entry occupied := by
    rw [keeps.table_eq] at occupied
    obtain ⟨owner, before, own, r, present, named⟩ := settled.owned slot entry occupied
    have member := keeps.stay owner before own
    refine ⟨owner, member, (keeps.own_iff owner before).2 own, r, ?_, named⟩
    rw [keeps.objects owner member]
    exact present
  once := by
    obtain ⟨calls, same, fewer⟩ := keeps.waiting
    exact (same.map _).nodup_iff.1 (settled.once.sublist (fewer.map _))
  unowned call member := by
    obtain ⟨typeName, id, r, rfl, present, nobody⟩ :=
      settled.unowned call (keeps.waiting.subset member)
    refine ⟨typeName, id, r, rfl, ?_, fun owner kept => nobody owner (keeps.owners.subset kept)⟩
    rw [keeps.buried typeName id member]
    exact present
  returned := keeps.stopped_eq.trans settled.returned

theorem Settled.buried_ne_next (settled : s.Settled) {typeName : String} {id : Nat}
    (member : reclaiming typeName id ∈ s.conduct.waiting) : id ≠ s.heap.next := by
  obtain ⟨_, _, r, same, present, -⟩ := settled.unowned _ member
  cases same
  exact Nat.ne_of_lt (Heap.lt_next present)

theorem Settled.buried_ne_owner (settled : s.Settled) {typeName : String} {id : Nat}
    (member : reclaiming typeName id ∈ s.conduct.waiting) :
    ∀ owner ∈ s.owners, owner.id ≠ id := by
  obtain ⟨_, _, _, same, -, nobody⟩ := settled.unowned _ member
  cases same
  exact nobody

theorem Settled.install (settled : s.Settled) {config : HostConfig}
    (same : config.mode = s.host.config.mode) : (s.perform (.install config)).Settled := by
  have fewer : (s.conduct.install config).waiting.Sublist s.conduct.waiting :=
    List.Sublist.append_left (List.sublist_append_right _ _) _
  refine
    { sound := Table.sound_empty _
      unshared := settled.unshared
      attached := ?_
      named := nofun
      owned := ?_
      once := settled.once.sublist (fewer.map _)
      unowned := fun call member => settled.unowned call (fewer.subset member)
      returned := settled.returned }
  · intro owner member
    obtain ⟨r, slot, present, mode, named⟩ := settled.attached owner member
    exact ⟨r, slot, present, mode.trans same.symm, named⟩
  · intro slot entry present
    have empty : (s.perform (.install config)).host.table.get? slot = none :=
      Table.get?_empty _ slot
    rw [empty] at present
    cases present

theorem Settled.create_refused (settled : s.Settled) {entryName : String} (typeName : String)
    (object : Resource) {fault : Fault}
    (refused : s.host.register s.host.config.mode (reclaiming entryName s.heap.next) =
      (.error fault, s.host.record fault)) :
    (s.perform (.create typeName entryName object)).Settled := by
  have stopped : register typeName entryName s.host.config.mode object s.conduct.world = _ :=
    register_refused typeName object refused
  have added : ∀ id, id ≠ s.heap.next →
      (s.heap.add s.host.config.mode object).2.get? id = s.heap.get? id :=
    fun id apart => (Heap.get?_add ..).trans (if_neg apart)
  simp only [perform, Conduct.perform]
  rw [Conduct.running_ok _ (Script.attempt_panic stopped)]
  exact settled.keep
    { config_eq := rfl
      table_eq := rfl
      owners := List.Sublist.refl _
      own_iff := fun owner member => by
        rw [List.mem_cons, or_iff_right (settled.owner_ne_next owner member)]
      stay := fun _ member _ => member
      waiting := List.Subperm.refl _
      objects := fun owner member => added owner.id (settled.owner_ne_next owner member)
      buried := fun _ id member => added id (settled.buried_ne_next member)
      stopped_eq := rfl }

theorem Settled.create_registered (settled : s.Settled) {entryName : String} (typeName : String)
    (object : Resource) {h : Handle} {slot : Nat} {table : Table Entry}
    (registered : s.host.register s.host.config.mode (reclaiming entryName s.heap.next) =
      (.ok h, { s.host with table, counters.registered := s.host.counters.registered + 1 }))
    (inserted : s.host.table.Inserted (.exported (reclaiming entryName s.heap.next)) slot table)
    (names : ({ s.host with table } : Host).Names h slot
      (.exported (reclaiming entryName s.heap.next))) :
    (s.perform (.create typeName entryName object)).Settled := by
  have fresh := settled.owner_ne_next
  have ran : register typeName entryName s.host.config.mode object s.conduct.world = _ :=
    register_ok typeName object registered
  have placed : ∀ id, id ≠ s.heap.next →
      ((s.heap.add s.host.config.mode object).2.attach s.heap.next h).get? id = s.heap.get? id :=
    fun id apart => (Heap.get?_attach_add ..).trans (if_neg apart)
  have new : ((s.heap.add s.host.config.mode object).2.attach s.heap.next h).get? s.heap.next =
      some { handle := h, object } := (Heap.get?_attach_add ..).trans (if_pos rfl)
  simp only [perform, Conduct.perform]
  rw [Conduct.running_ok _ (Script.attempt_ok ran)]
  refine
    { sound := inserted.sound
      unshared := ?_
      attached := ?_
      named := ?_
      owned := ?_
      once := settled.once
      unowned := ?_
      returned := settled.returned }
  · refine List.nodup_cons.2 ⟨fun member => ?_, settled.unshared⟩
    obtain ⟨owner, member, same⟩ := List.mem_map.1 member
    exact fresh owner member same
  · intro owner member
    rcases List.mem_cons.1 member with rfl | member
    · exact ⟨_, slot, new, names.mode_eq, names.slot?_eq⟩
    · obtain ⟨r, slot, present, mode, named⟩ := settled.attached owner member
      exact ⟨r, slot, (placed owner.id (fresh owner member)).trans present, mode, named⟩
  · intro owner member listed
    rcases List.mem_cons.1 member with rfl | member
    · exact ⟨_, slot, entryName, new, names.of_eq rfl rfl⟩
    · have listed : owner.id ∈ s.own := List.mem_of_ne_of_mem (fresh owner member) listed
      obtain ⟨r, place, name, present, names⟩ := settled.named owner member listed
      exact ⟨r, place, name, (placed owner.id (fresh owner member)).trans present,
        (names.inserted inserted).of_eq rfl rfl⟩
  · intro place entry present
    have present : table.get? place = some entry := present
    rw [inserted.get?_eq] at present
    by_cases here : place = slot
    · subst here
      exact ⟨_, List.mem_cons_self, List.mem_cons_self, _, new, names.slot?_eq⟩
    · rw [if_neg here] at present
      obtain ⟨owner, member, listed, r, present, named⟩ := settled.owned place entry present
      exact ⟨owner, List.mem_cons_of_mem _ member, List.mem_cons_of_mem _ listed, r,
        (placed owner.id (fresh owner member)).trans present, named⟩
  · intro call member
    obtain ⟨name, id, r, rfl, present, unowned⟩ := settled.unowned call member
    have apart := settled.buried_ne_next member
    refine ⟨name, id, r, rfl, (placed id apart).trans present, fun owner member => ?_⟩
    rcases List.mem_cons.1 member with rfl | member
    · exact apart.symm
    · exact unowned owner member

theorem Settled.create (settled : s.Settled) (typeName entryName : String) (object : Resource) :
    (s.perform (.create typeName entryName object)).Settled := by
  obtain ⟨fault, refused⟩ | ⟨h, slot, table, registered, inserted, -, names⟩ :=
    Host.register_cases s.host s.host.config.mode (reclaiming entryName s.heap.next) settled.sound
  · exact settled.create_refused typeName object refused
  · exact settled.create_registered typeName object registered inserted names

theorem vacant_of_apart {owner : Owner} {r : Registration Resource} {slot : Nat}
    (apart : s.collides owner = false) (foreign : owner.id ∉ s.own)
    (present : s.heap.get? owner.id = some r) (named : r.handle.slot? = some slot) :
    s.host.table.get? slot = none := by
  simpa [collides, foreign, present, named] using apart

theorem waiting_of_free (free : s.conduct.entering = none) :
    s.conduct.waiting = s.conduct.world.machine.waiting := by
  rw [Conduct.waiting, free, Option.toList_none, List.nil_append]

theorem perform_dropOwner {owner : Owner} {r : Registration Resource}
    (present : s.heap.get? owner.id = some r) (valid : r.handle.isValid = true) :
    s.perform (.dropOwner owner) =
      { s with
        conduct :=
          { s.conduct with
            world :=
              { s.conduct.world with
                machine := (s.conduct.world.machine.drop r.handle).2
                heap := s.heap.put owner.id { r with handle := .invalid r.mode }
                log := (s.conduct.world.machine.drop r.handle).1.events ++
                  (r.object.requests r.handle ++ s.conduct.world.log) }
            owners := s.owners.erase owner
            entering := (s.conduct.world.machine.drop r.handle).1.started? }
        collided := s.collided || s.collides owner } := by
  have asked : releaseOwner owner s.conduct.world = _ := releaseOwner_attached present valid
  rw [startDrop_eq] at asked
  simp only [perform, Conduct.perform]
  rw [Conduct.running_ok (c := { s.conduct with owners := s.conduct.owners.erase owner }) _ asked]
  rfl

/-- Asking for a slot whose entry is gone lets an owner go and leaves the others as they are. -/
theorem Settled.dropOwner_foreign (settled : s.Settled) (free : s.conduct.entering = none)
    {owner : Owner} (member : owner ∈ s.owners) (foreign : owner.id ∉ s.own)
    (apart : s.collides owner = false) : (s.perform (.dropOwner owner)).Settled := by
  have left := mem_erase_iff_of_unshared settled.unshared member
  obtain ⟨r, slot, present, mode, named⟩ := settled.attached owner member
  have vacant := vacant_of_apart apart foreign present named
  have dropped : s.conduct.world.machine.drop r.handle = _ :=
    Host.Machine.drop_vacant mode named vacant
  have others : ∀ id, id ≠ owner.id →
      (s.heap.put owner.id { r with handle := .invalid r.mode }).get? id = s.heap.get? id :=
    fun id other => (Heap.get?_put present _ _).trans (if_neg other)
  have waiting := waiting_of_free free
  rw [perform_dropOwner present (Handle.isValid_of_slot? named), dropped]
  exact settled.keep
    { config_eq := rfl
      table_eq := rfl
      owners := List.erase_sublist
      own_iff := fun _ _ => Iff.rfl
      stay := fun other kept listed =>
        (left other).2 ⟨kept, fun same => foreign (same ▸ listed)⟩
      waiting := by
        rw [waiting]
        exact List.Subperm.refl _
      objects := fun other kept => others other.id ((left other).1 kept).2
      buried := fun typeName id queued => by
        have queued : reclaiming typeName id ∈ s.conduct.waiting := by
          rw [waiting]
          exact queued
        exact others id (settled.buried_ne_owner queued owner member).symm
      stopped_eq := rfl }

/-- An owner of the host that is there leaves no entry behind, and its object is nobody's from there
on. -/
theorem Settled.dropOwner_own (settled : s.Settled) (free : s.conduct.entering = none)
    {owner : Owner} (member : owner ∈ s.owners) (own : owner.id ∈ s.own) :
    (s.perform (.dropOwner owner)).Settled := by
  have left := mem_erase_iff_of_unshared settled.unshared member
  have once := settled.once
  have unowned := settled.unowned
  rw [waiting_of_free free] at once unowned
  obtain ⟨r, slot, typeName, present, names⟩ := settled.named owner member own
  have others : ∀ id, id ≠ owner.id →
      (s.heap.put owner.id { r with handle := .invalid r.mode }).get? id = s.heap.get? id :=
    fun id other => (Heap.get?_put present _ _).trans (if_neg other)
  have detached : (s.heap.put owner.id { r with handle := .invalid r.mode }).get? owner.id = some _ :=
    (Heap.get?_put present _ _).trans (if_pos rfl)
  obtain ⟨table, pending, active, removed, dropped, moved⟩ :=
    names.drop_frame (m := s.conduct.world.machine) settled.sound
  rw [dropped] at moved
  rw [perform_dropOwner present (Handle.isValid_of_slot? names.slot?_eq), dropped]
  refine
    { sound := removed.sound
      unshared := settled.unshared.sublist (List.erase_sublist.map _)
      attached := ?_
      named := ?_
      owned := ?_
      once := ?_
      unowned := ?_
      returned := settled.returned }
  · intro other kept
    obtain ⟨kept, apart⟩ := (left other).1 kept
    obtain ⟨r', slot', present', mode', named'⟩ := settled.attached other kept
    exact ⟨r', slot', (others other.id apart).trans present', mode', named'⟩
  · intro other kept listed
    obtain ⟨kept, apart⟩ := (left other).1 kept
    obtain ⟨r', slot', typeName', present', names'⟩ := settled.named other kept listed
    have there : slot' ≠ slot := by
      rintro rfl
      exact apart (reclaiming_inj (names'.get?_eq.symm.trans names.get?_eq))
    exact ⟨r', slot', typeName', (others other.id apart).trans present',
      (names'.removed removed there).of_eq rfl rfl⟩
  · intro place entry occupied
    have occupied : table.get? place = some entry := occupied
    rw [removed.get?_eq] at occupied
    split at occupied
    · cases occupied
    · rename_i there
      obtain ⟨other, kept, listed, r', present', named'⟩ := settled.owned place entry occupied
      have apart : other.id ≠ owner.id := by
        intro same
        rw [same] at present'
        cases present.symm.trans present'
        exact there (Option.some.inj (named'.symm.trans names.slot?_eq))
      exact ⟨other, (left other).2 ⟨kept, apart⟩, listed, r',
        (others other.id apart).trans present', named'⟩
  · refine (moved.map DestructorCall.rep).nodup_iff.2 ?_
    refine List.nodup_cons.2 ⟨fun queued => ?_, once⟩
    obtain ⟨call, queued, same⟩ := List.mem_map.1 queued
    obtain ⟨_, id, _, rfl, _, nobody⟩ := unowned call queued
    cases same
    exact nobody owner member rfl
  · intro call queued
    rcases List.mem_cons.1 (moved.mem_iff.1 queued) with rfl | queued
    · exact ⟨typeName, owner.id, _, rfl, detached, fun other kept => ((left other).1 kept).2⟩
    · obtain ⟨name, id, r', rfl, present', nobody⟩ := unowned call queued
      exact ⟨name, id, r', rfl, (others id (nobody owner member).symm).trans present',
        fun other kept => nobody other ((left other).1 kept).1⟩

theorem Settled.dropOwner (settled : s.Settled) (free : s.conduct.entering = none) {owner : Owner}
    (member : owner ∈ s.owners) (apart : s.collides owner = false) :
    (s.perform (.dropOwner owner)).Settled := by
  by_cases own : owner.id ∈ s.own
  · exact settled.dropOwner_own free member own
  · exact settled.dropOwner_foreign free member own apart

theorem Settled.resume (settled : s.Settled) (machine : Host.Machine)
    (entering : Option DestructorCall) (config : machine.host.config = s.host.config)
    (table : machine.host.table = s.host.table)
    (waits : (entering.toList ++ machine.waiting).Perm s.conduct.waiting) :
    ({ s with conduct :=
      { s.conduct with world := { s.conduct.world with machine }, entering } } :
        Succession).Settled :=
  settled.keep
    { config_eq := config
      table_eq := table
      owners := List.Sublist.refl _
      own_iff := fun _ _ => Iff.rfl
      stay := fun _ member _ => member
      waiting := waits.subperm
      objects := fun _ _ => rfl
      buried := fun _ _ _ => rfl
      stopped_eq := rfl }

theorem Settled.flush (settled : s.Settled) (free : s.conduct.entering = none) :
    (s.perform .flush).Settled := by
  obtain ⟨pending, active, flushed⟩ := s.conduct.world.machine.flush_frame
  have waits := s.conduct.world.machine.flush_waiting
  rw [← waiting_of_free free] at waits
  apply settled.resume s.conduct.world.machine.flush.2 s.conduct.world.machine.flush.1.started?
  · rw [flushed]
    rfl
  · rw [flushed]
    rfl
  · exact waits

theorem Settled.finish (settled : s.Settled) (free : s.conduct.entering = none)
    (running : s.conduct.world.machine.active ≠ []) : (s.perform .finish).Settled := by
  obtain ⟨pending, active, finished⟩ := s.conduct.world.machine.finish_frame running
  have waits := s.conduct.world.machine.finish_waiting
  rw [← waiting_of_free free] at waits
  apply settled.resume s.conduct.world.machine.finish.2 s.conduct.world.machine.finish.1.started?
  · rw [finished]
    rfl
  · rw [finished]
    rfl
  · exact waits

theorem Settled.enter (settled : s.Settled) {call : DestructorCall}
    (started : s.conduct.entering = some call) : (s.perform .enter).Settled := by
  have waiting : s.conduct.waiting = call :: s.conduct.world.machine.waiting := by
    rw [Conduct.waiting, started]
    rfl
  have once := settled.once
  rw [waiting] at once
  obtain ⟨first, -⟩ := List.nodup_cons.1 once
  obtain ⟨typeName, id, r, rfl, present, nobody⟩ :=
    settled.unowned call (waiting ▸ List.mem_cons_self)
  obtain ⟨heap, removed, others⟩ := Heap.remove_of_get? present
  have performed : s.conduct.perform .enter =
      { s.conduct with world := { s.conduct.world with heap }, entering := none } := by
    rw [Conduct.perform, started]
    exact Conduct.running_ok (c := { s.conduct with entering := none }) _ (reclaim_eq removed)
  simp only [perform]
  rw [performed]
  exact settled.keep
    { config_eq := rfl
      table_eq := rfl
      owners := List.Sublist.refl _
      own_iff := fun _ _ => Iff.rfl
      stay := fun _ member _ => member
      waiting := waiting ▸ (List.sublist_cons_self _ _).subperm
      objects := fun owner member => (others owner.id).trans (if_neg (nobody owner member))
      buried := fun _ other member =>
        (others other).trans (if_neg fun same =>
          first (List.mem_map.2 ⟨_, member, congrArg Host.Rep.registration same⟩))
      stopped_eq := rfl }

theorem Settled.perform (settled : s.Settled) {move : Move} (permitted : s.Permitted move)
    (apart : (s.perform move).collided = false) : (s.perform move).Settled := by
  unfold Permitted at permitted
  cases entering : s.conduct.entering with
  | some call =>
      rw [entering] at permitted
      cases permitted
      exact settled.enter entering
  | none =>
      rw [entering] at permitted
      obtain ⟨other, lawful⟩ := permitted
      cases move with
      | install config => exact settled.install lawful
      | create typeName entryName object => exact settled.create typeName entryName object
      | dropOwner owner => exact settled.dropOwner entering lawful (Bool.or_eq_false_iff.1 apart).2
      | flush => exact settled.flush entering
      | enter => exact absurd rfl other
      | finish => exact settled.finish entering lawful

theorem collided_perform {move : Move} (apart : (s.perform move).collided = false) :
    s.collided = false := by
  cases move with
  | dropOwner owner => exact (Bool.or_eq_false_iff.1 apart).1
  | install config => exact apart
  | create typeName entryName object => exact apart
  | flush => exact apart
  | enter => exact apart
  | finish => exact apart

/-- By induction on the moves; a collision never comes undone, so there was none before. -/
theorem Reachable.settled (reachable : Reachable config s) (apart : s.collided = false) :
    s.Settled := by
  induction reachable with
  | start => exact settled_start config
  | step _ permitted ih => exact (ih (collided_perform apart)).perform permitted apart

/-! ## Whom an owner hits -/

/-- What the owners of a guest bring about when they go away. -/
structure Assigned (s : Succession) : Prop where
  /-- An owner of the host that is there takes out its own entry. -/
  own : ∀ owner ∈ s.owners, owner.id ∈ s.own → s.Removes owner owner.id
  /-- An owner of a host that was replaced finds nothing while its slot is empty. -/
  vacant : ∀ owner ∈ s.owners, owner.id ∉ s.own → s.collides owner = false → s.Misses owner
  /-- Once its slot is taken again, it takes out what is there, which belongs to another owner. -/
  collision : ∀ owner ∈ s.owners, s.collides owner = true →
    ∃ other ∈ s.owners, other.id ≠ owner.id ∧ other.id ∈ s.own ∧ s.Removes owner other.id
  /-- A destructor that starts or waits destroys an object that has no owner. -/
  unowned : ∀ call ∈ s.conduct.waiting, ∃ typeName id, call = reclaiming typeName id ∧
    ∀ owner ∈ s.owners, owner.id ≠ id
  returned : s.conduct.stopped = none

/-- Until an owner asks for the slot of another registration, owners take out their own objects or
nothing, and no object is destroyed under its owner. -/
theorem Reachable.assigned (reachable : Reachable config s) (apart : s.collided = false) :
    s.Assigned := by
  have settled := reachable.settled apart
  refine
    { own := ?_
      vacant := ?_
      collision := ?_
      unowned := ?_
      returned := settled.returned }
  · intro owner member own
    obtain ⟨r, slot, typeName, present, names⟩ := settled.named owner member own
    exact removes_of_names present settled.sound names
  · intro owner member foreign apart
    obtain ⟨r, slot, present, mode, named⟩ := settled.attached owner member
    exact misses_of_vacant present mode named (vacant_of_apart apart foreign present named)
  · intro owner member collision
    obtain ⟨r, slot, present, mode, named⟩ := settled.attached owner member
    obtain ⟨foreign, occupied⟩ : owner.id ∉ s.own ∧ (s.host.table.get? slot).isSome = true := by
      simpa [collides, present, named] using collision
    obtain ⟨entry, occupied⟩ := Option.isSome_iff_exists.1 occupied
    obtain ⟨other, kept, own, r', present', named'⟩ := settled.owned slot entry occupied
    obtain ⟨found, place, typeName, same, names⟩ := settled.named other kept own
    cases present'.symm.trans same
    cases named'.symm.trans names.slot?_eq
    have shared : s.host.Names r.handle slot (.exported (reclaiming typeName other.id)) :=
      ⟨mode, named, names.get?_eq⟩
    exact ⟨other, kept, fun same => foreign (same ▸ own), own,
      removes_of_names present settled.sound shared⟩
  · intro call member
    obtain ⟨typeName, id, _, same, _, nobody⟩ := settled.unowned call member
    exact ⟨typeName, id, same, nobody⟩

/-- The first object outlives its host, and a second one is registered with the next host and gone
again before the first owner goes away. -/
def relieved : Succession :=
  ((((start {}).perform (.create "File" "file" (.probe []))).perform (.install {})).perform
    (.create "File" "file" (.probe []))).perform (.dropOwner { id := 1, mode := .integer })

theorem relieved_assigned : relieved.Assigned := by
  have reachable : Reachable {} relieved := by
    refine .step (.step (.step (.step .start ?_) ?_) ?_) ?_
    · exact And.intro nofun trivial
    · exact And.intro nofun rfl
    · exact And.intro nofun trivial
    · exact And.intro nofun (.head _)
  exact reachable.assigned rfl

/-- The first object outlives its host, and a second one is registered with the next host. -/
def contested : Succession :=
  (((start {}).perform (.create "File" "file" (.probe []))).perform (.install {})).perform
    (.create "File" "file" (.probe []))

/-- The first owner takes the second object out of the table, and its destructor starts although its
owner is still there. -/
theorem not_always_own_nor_unowned :
    (¬∀ (config : HostConfig) (s : Succession), Reachable config s → ∀ owner ∈ s.owners,
        s.Removes owner owner.id ∨ owner.id ∉ s.own ∧ s.Misses owner) ∧
    ¬∀ (config : HostConfig) (s : Succession), Reachable config s →
        ∀ call ∈ s.conduct.waiting, ∀ owner ∈ s.owners, call.rep ≠ .registration owner.id := by
  have reachable : Reachable {} contested := by
    refine .step (.step (.step .start ?_) ?_) ?_
    · exact And.intro nofun trivial
    · exact And.intro nofun rfl
    · exact And.intro nofun trivial
  have member : { id := 0, mode := .integer } ∈ contested.owners := .tail _ (.head _)
  constructor
  · intro always
    rcases always {} contested reachable _ member with removes | ⟨-, misses⟩
    · obtain ⟨slot, typeName, table, started, world, -, released, -, -, waiting⟩ := removes
      cases released
      have same := waiting.subset List.mem_cons_self
      cases List.mem_singleton.1 same
    · obtain ⟨r, world, -, released, -⟩ := misses
      cases released
  · intro always
    have hit : Reachable {} (contested.perform (.dropOwner { id := 0, mode := .integer })) :=
      .step reachable (And.intro nofun member)
    exact always {} _ hit (reclaiming "file" 1) (.head _) { id := 1, mode := .integer } (.head _) rfl

end Succession

end Session

end Custody
