import Custody.Proofs.Host.Room
import Custody.Proofs.Memory.Blocks
import Custody.Proofs.Teardown.Request

/-!
# Excursions

On an excursion from a world only what belongs to the excursion differs: objects at places of the
heap where nothing was, and entries at slots of the table that were vacant. Each operation of the
audit goes some way further, or it takes back what an earlier one did. An excursion without places
and slots has come home, and the world is as before but for the counters and the events.
-/

set_option autoImplicit false

namespace Custody

open Host (Entry Table)

/-! ## What is counted -/

namespace Host.Counters

def plus (c d : Counters) : Counters where
  registered := c.registered + d.registered
  dropRequests := c.dropRequests + d.dropRequests
  destructorsRun := c.destructorsRun + d.destructorsRun
  importsCreated := c.importsCreated + d.importsCreated
  importsReleased := c.importsReleased + d.importsReleased
  faults := c.faults + d.faults

def times (n : Nat) (c : Counters) : Counters where
  registered := n * c.registered
  dropRequests := n * c.dropRequests
  destructorsRun := n * c.destructorsRun
  importsCreated := n * c.importsCreated
  importsReleased := n * c.importsReleased
  faults := n * c.faults

theorem plus_plus (c d e : Counters) : (c.plus d).plus e = c.plus (d.plus e) := by
  simp only [plus, Nat.add_assoc]

@[simp]
theorem times_zero (c : Counters) : times 0 c = {} := by
  simp only [times, Nat.zero_mul]

theorem times_succ (n : Nat) (c : Counters) : times (n + 1) c = c.plus (times n c) := by
  simp only [times, plus, Nat.succ_mul, Nat.add_comm]

end Host.Counters

namespace Memory

/-- Every region obtained in between was given back, and the other regions are as they were. -/
structure Restored (m after : Memory) : Prop where
  block?_eq : ∀ id, after.block? id = m.block? id
  counters_eq : ∃ regions, after.counters =
    { allocations := m.counters.allocations + regions
      releases := m.counters.releases + regions }

theorem Restored.refl (m : Memory) : m.Restored m := ⟨fun _ => rfl, 0, rfl⟩

theorem Restored.trans {m middle after : Memory} (first : m.Restored middle)
    (second : middle.Restored after) : m.Restored after where
  block?_eq id := (second.block?_eq id).trans (first.block?_eq id)
  counters_eq := by
    obtain ⟨regions, counted⟩ := first.counters_eq
    obtain ⟨more, countedMore⟩ := second.counters_eq
    refine ⟨regions + more, ?_⟩
    rw [countedMore, counted]
    simp only [Nat.add_assoc]

end Memory

namespace Session

def World.setMemory (world : World) (memory : Memory) : World :=
  { world with workspace := { world.workspace with memory } }

@[simp]
theorem World.memory_setMemory (world : World) (memory : Memory) :
    (world.setMemory memory).workspace.memory = memory := rfl

def World.put (world : World) (id : Nat) (r : Guest.Registration Resource) : World :=
  { world with heap := world.heap.put id r }

def World.rejecting (world : World) (fault : Host.Fault) (log : List Event) : World :=
  { world with
    machine := { world.machine with host := world.machine.host.record fault }
    log }

def World.forgiven (world : World) : World :=
  { world with
    machine := { world.machine with host := { world.machine.host with faults := [] } } }

theorem World.forgiven_of_clean {world : World} (clean : world.machine.host.faults = []) :
    world.forgiven = world := by
  unfold World.forgiven
  rw [← clean]

/-- Only the places and the slots of an excursion differ between two worlds, besides what was counted
and written to the log. -/
structure Excursion (world now : World) (ids slots : List Nat) (tally : Host.Counters) : Prop where
  fits : world.machine.host.Fits → now.machine.host.Fits
  config_eq : now.machine.host.config = world.machine.host.config
  capacity_eq : now.machine.host.table.capacity = world.machine.host.table.capacity
  live : now.machine.host.live = world.machine.host.live + slots.length
  table : ∀ slot, slot ∉ slots →
    now.machine.host.table.get? slot = world.machine.host.table.get? slot
  vacant : ∀ slot ∈ slots, world.machine.host.table.get? slot = none
  pending_eq : now.machine.host.pending = world.machine.host.pending
  active_eq : now.machine.active = world.machine.active
  faults_eq : now.machine.host.faults = world.machine.host.faults
  counters_eq : now.machine.host.counters = world.machine.host.counters.plus tally
  heap : ∀ id, id ∉ ids → now.heap.get? id = world.heap.get? id
  fresh : ∀ id ∈ ids, world.heap.get? id = none
  memory : world.workspace.memory.Restored now.workspace.memory
  frame : ∃ machine heap memory log,
    now = { world with machine, heap, workspace := { world.workspace with memory }, log }

variable {world now after : World} {ids slots : List Nat} {tally : Host.Counters}

namespace Excursion

theorem refl (world : World) : Excursion world world [] [] {} where
  fits := id
  config_eq := rfl
  capacity_eq := rfl
  live := rfl
  table _ _ := rfl
  vacant := nofun
  pending_eq := rfl
  active_eq := rfl
  faults_eq := rfl
  counters_eq := rfl
  heap _ _ := rfl
  fresh := nofun
  memory := .refl _
  frame := ⟨_, _, _, _, rfl⟩

theorem trans {ids' slots' : List Nat} {tally' : Host.Counters}
    (first : Excursion world now ids slots tally) (second : Excursion now after ids' slots' tally') :
    Excursion world after (ids ++ ids') (slots ++ slots') (tally.plus tally') where
  fits fits := second.fits (first.fits fits)
  config_eq := second.config_eq.trans first.config_eq
  capacity_eq := second.capacity_eq.trans first.capacity_eq
  live := by rw [second.live, first.live, List.length_append, Nat.add_assoc]
  table slot outside := by
    rw [List.mem_append, not_or] at outside
    exact (second.table slot outside.2).trans (first.table slot outside.1)
  vacant slot inside := by
    by_cases early : slot ∈ slots
    · exact first.vacant slot early
    · have late := (List.mem_append.1 inside).resolve_left early
      exact (first.table slot early).symm.trans (second.vacant slot late)
  pending_eq := second.pending_eq.trans first.pending_eq
  active_eq := second.active_eq.trans first.active_eq
  faults_eq := second.faults_eq.trans first.faults_eq
  counters_eq := by rw [second.counters_eq, first.counters_eq, Host.Counters.plus_plus]
  heap id outside := by
    rw [List.mem_append, not_or] at outside
    exact (second.heap id outside.2).trans (first.heap id outside.1)
  fresh id inside := by
    by_cases early : id ∈ ids
    · exact first.fresh id early
    · have late := (List.mem_append.1 inside).resolve_left early
      exact (first.heap id early).symm.trans (second.fresh id late)
  memory := first.memory.trans second.memory
  frame := by
    obtain ⟨machine, heap, memory, log, rfl⟩ := second.frame
    obtain ⟨_, _, _, _, rfl⟩ := first.frame
    exact ⟨machine, heap, memory, log, rfl⟩

theorem mode_eq_iff (excursion : Excursion world now ids slots tally) (mode : Mode) :
    mode = now.machine.host.config.mode ↔ mode = world.machine.host.config.mode := by
  rw [excursion.config_eq]

theorem hasRoom {count : Nat} (excursion : Excursion world now ids slots tally)
    (room : world.machine.host.HasRoom (slots.length + count)) : now.machine.host.HasRoom count where
  capacity := by
    rw [excursion.live, excursion.capacity_eq, Nat.add_assoc]
    exact room.capacity
  nameable := by
    rw [excursion.live, Nat.add_assoc]
    exact room.nameable

theorem names {h : Handle} {slot : Nat} {entry : Entry}
    (excursion : Excursion world now ids slots tally)
    (names : world.machine.host.Names h slot entry) : now.machine.host.Names h slot entry := by
  refine ⟨(excursion.mode_eq_iff _).2 names.mode_eq, names.slot?_eq, ?_⟩
  have outside : slot ∉ slots := fun inside => by
    have empty := excursion.vacant slot inside
    rw [names.get?_eq] at empty
    cases empty
  exact (excursion.table slot outside).trans names.get?_eq

theorem present {id : Nat} {r : Guest.Registration Resource}
    (excursion : Excursion world now ids slots tally) (present : world.heap.get? id = some r) :
    now.heap.get? id = some r := by
  have outside : id ∉ ids := fun inside => by
    have empty := excursion.fresh id inside
    rw [present] at empty
    cases empty
  exact (excursion.heap id outside).trans present

/-- What belonged to an excursion is gone when it has come home. -/
theorem gone {start : World} {id : Nat} {tally' : Host.Counters}
    (home : Excursion start after [] [] tally) (excursion : Excursion start now ids slots tally')
    (own : id ∈ ids) : after.heap.get? id = none :=
  (home.heap id List.not_mem_nil).trans (excursion.fresh id own)

/-! ## Ways that change one part -/

theorem of_memory {memory : Memory} (restored : world.workspace.memory.Restored memory) :
    Excursion world (world.setMemory memory) [] [] {} :=
  { refl world with memory := restored, frame := ⟨_, _, _, _, rfl⟩ }

theorem written (excursion : Excursion world now ids slots tally) (log : List Event) :
    Excursion world { now with log } ids slots tally :=
  { excursion with
    frame := by
      obtain ⟨_, _, _, _, rfl⟩ := excursion.frame
      exact ⟨_, _, _, _, rfl⟩ }

/-- An excursion may do with its own objects what it likes. -/
theorem put {id : Nat} {old : Guest.Registration Resource}
    (excursion : Excursion world now ids slots tally) (own : id ∈ ids)
    (present : now.heap.get? id = some old) (r : Guest.Registration Resource) :
    Excursion world (now.put id r) ids slots tally :=
  { excursion with
    heap := fun other outside => by
      rw [World.put, Guest.Heap.get?_put present, if_neg fun same : other = id => outside (same ▸ own)]
      exact excursion.heap other outside
    frame := by
      obtain ⟨_, _, _, _, rfl⟩ := excursion.frame
      exact ⟨_, _, _, _, rfl⟩ }

/-- A fault that is taken at once has only been counted. -/
theorem complained (excursion : Excursion world now ids slots tally) (fault : Host.Fault)
    (log : List Event) (clean : now.machine.host.faults = []) :
    Excursion world (now.rejecting fault log).forgiven ids slots (tally.plus { faults := 1 }) :=
  { excursion with
    fits := fun before => (excursion.fits before).operated (.of_eq rfl rfl)
    faults_eq := clean.symm.trans excursion.faults_eq
    counters_eq := by
      rw [← Host.Counters.plus_plus, ← excursion.counters_eq]
      rfl
    frame := by
      obtain ⟨_, _, _, _, rfl⟩ := excursion.frame
      exact ⟨_, _, _, _, rfl⟩ }

end Excursion

/-! ## Entries that are made -/

private theorem excursion_inserted {host : Host} {heap : Guest.Heap Resource} {entry : Entry}
    {slot : Nat} {table : Table Entry}
    (fits : world.machine.host.Fits → host.Fits) (table_eq : host.table = table)
    (inserted : world.machine.host.table.Inserted entry slot table)
    (config : host.config = world.machine.host.config)
    (pending : host.pending = world.machine.host.pending)
    (faults : host.faults = world.machine.host.faults)
    (counters : host.counters = world.machine.host.counters.plus tally)
    (places : ∀ id, id ∉ ids → heap.get? id = world.heap.get? id)
    (fresh : ∀ id ∈ ids, world.heap.get? id = none) :
    Excursion world { world with machine := { world.machine with host }, heap } ids [slot] tally where
  fits := fits
  config_eq := config
  capacity_eq := by
    rw [table_eq]
    exact inserted.capacity_eq
  live := by
    rw [Host.live, table_eq]
    exact inserted.live_eq
  table other outside := by
    rw [table_eq]
    exact (inserted.get?_eq other).trans (if_neg fun same => outside (by simp [same]))
  vacant other inside := by
    rw [List.mem_singleton.1 inside]
    exact inserted.absent
  pending_eq := pending
  active_eq := rfl
  faults_eq := faults
  counters_eq := counters
  heap := places
  fresh := fresh
  memory := .refl _
  frame := ⟨_, _, _, _, rfl⟩

/-- With room an object is registered: it is at a new place, and the host knows it at a new slot. -/
theorem register_excursion (fits : world.machine.host.Fits) (room : world.machine.host.HasRoom 1)
    {mode : Mode} (own : mode = world.machine.host.config.mode)
    (typeName entryName : String) (object : Resource) :
    ∃ owner after h slot, register typeName entryName mode object world = .ok owner after ∧
      Excursion world after [owner.id] [slot] { registered := 1 } ∧
      after.heap.get? owner.id = some { handle := h, object } ∧
      after.machine.host.Names h slot (.exported (reclaiming entryName owner.id)) := by
  subst own
  have sound := fits.compact.sound
  obtain ⟨h, filled, success⟩ :=
    fits.insert_ok room (.exported (reclaiming entryName world.heap.next))
  obtain ⟨slot, table, rfl, inserted, _, names⟩ := Host.names_of_insert sound success
  have registered : world.machine.host.register world.machine.host.config.mode
      (reclaiming entryName world.heap.next) = (.ok h,
        { world.machine.host with
          table
          counters.registered := world.machine.host.counters.registered + 1 }) := by
    rw [Host.register, success]
  have operated := Host.Operated.register world.machine.host world.machine.host.config.mode
    (reclaiming entryName world.heap.next)
  rw [registered] at operated
  have added := world.heap.get?_add world.machine.host.config.mode object
  have attached := Guest.Heap.attach_eq ((added world.heap.next).trans (if_pos rfl)) h
  have placed := Guest.Heap.get?_put ((added world.heap.next).trans (if_pos rfl))
    { handle := h, object }
  refine ⟨_, _, h, slot, register_ok typeName object registered, ?_, ?_, ?_⟩
  · refine excursion_inserted (fun fits => fits.operated operated) rfl inserted rfl rfl rfl rfl
      (fun id outside => ?_) (fun id inside => ?_)
    · have other : id ≠ world.heap.next := fun same => outside (by simp [same])
      rw [attached, placed, if_neg other, added, if_neg other]
    · rw [List.mem_singleton.1 inside]
      exact world.heap.get?_next
  · dsimp only
    rw [attached, placed, if_pos rfl]
  · exact names.of_eq rfl rfl

theorem lend_excursion (fits : world.machine.host.Fits) (room : world.machine.host.HasRoom 1)
    {mode : Mode} (own : mode = world.machine.host.config.mode) (name : String) :
    ∃ h after slot, lend mode name world = .ok (.ok h) after ∧
      Excursion world after [] [slot] { importsCreated := 1 } ∧
      after.machine.host.Names h slot (.imported name) := by
  subst own
  obtain ⟨h, filled, success⟩ := fits.insert_ok room (.imported name)
  obtain ⟨slot, table, rfl, inserted, _, names⟩ :=
    Host.names_of_insert fits.compact.sound success
  have lent : world.machine.host.lend world.machine.host.config.mode name = .ok (h,
      { world.machine.host with
        table
        counters.importsCreated := world.machine.host.counters.importsCreated + 1 }) := by
    rw [Host.lend, success]
    rfl
  have operated := Host.Operated.lend lent
  exact ⟨h, _, slot, lend_ok lent,
    excursion_inserted (fun fits => fits.operated operated) rfl inserted rfl rfl rfl rfl
      (fun _ _ => rfl) nofun,
    names.of_eq rfl rfl⟩

/-! ## Entries that are taken back -/

theorem Excursion.release {h : Handle} {slot : Nat} {name : String} {rest : List Nat}
    (excursion : Excursion world now ids slots tally) (fits : now.machine.host.Fits)
    (names : now.machine.host.Names h slot (.imported name)) (own : slots.Perm (slot :: rest)) :
    ∃ after, releaseImport h now = .ok () after ∧
      Excursion world after ids rest (tally.plus { importsReleased := 1 }) ∧
      ∀ other place entry, place ≠ slot → now.machine.host.Names other place entry →
        after.machine.host.Names other place entry := by
  obtain ⟨table, removed, released⟩ := names.release fits.compact.sound
  have operated := Host.Operated.release now.machine.host h
  rw [released] at operated
  refine ⟨_, releaseImport_ok released, ?_, fun other place entry apart kept =>
    (kept.removed removed apart).of_eq rfl rfl⟩
  exact
    { excursion with
      fits := fun before => (excursion.fits before).operated operated
      capacity_eq := removed.capacity_eq.trans excursion.capacity_eq
      live := by
        have fewer := removed.live_eq
        have before := excursion.live
        rw [own.length_eq, List.length_cons] at before
        simp only [Host.live, Table.size] at before ⊢
        omega
      table := fun other outside => by
        refine (removed.get?_eq other).trans ?_
        split
        · rename_i here
          exact (excursion.vacant other (own.mem_iff.2 (by simp [here]))).symm
        · rename_i elsewhere
          refine excursion.table other fun inside => ?_
          exact (List.mem_cons.1 (own.mem_iff.1 inside)).elim elsewhere outside
      vacant := fun other inside =>
        excursion.vacant other (own.mem_iff.2 (List.mem_cons_of_mem _ inside))
      counters_eq := by
        dsimp only
        rw [excursion.counters_eq]
        rfl
      frame := by
        obtain ⟨_, _, _, _, rfl⟩ := excursion.frame
        exact ⟨_, _, _, _, rfl⟩ }

/-- A teardown makes no slots. -/
theorem Progress.fits {released reclaimed : List Member} {returned : Nat}
    (progress : Progress world after released reclaimed returned)
    (fits : world.machine.host.Fits) : after.machine.host.Fits := by
  refine ⟨⟨progress.sound fits.compact.sound, ?_⟩, ?_⟩
  · rw [progress.size_eq, progress.capacity_eq]
    exact fits.compact.size_le
  · rw [progress.size_eq, progress.config_eq]
    exact fits.nameable

theorem Excursion.felled {control : Control} {script : Script Unit} {tree : Tree} {asked : World}
    {order : List Member} (excursion : Excursion world now ids slots tally)
    (felled : Felled control script now tree asked after order)
    (idle : now.machine.host.pending = [])
    (places : ((Tree.preorder [tree]).map Member.id).Perm ids)
    (handles : ((Tree.preorder [tree]).map (·.handle.slot?)).Perm (slots.map some)) :
    Excursion world after [] []
      (tally.plus { dropRequests := slots.length, destructorsRun := slots.length }) := by
  have progress := felled.progress
  have places := (felled.order_perm.map Member.id).trans places
  have handles := (felled.order_perm.map (·.handle.slot?)).trans handles
  have length : order.length = slots.length := by simpa using handles.length_eq
  have held (slot : Nat) : (∃ m ∈ order, m.handle.slot? = some slot) ↔ slot ∈ slots := by
    have same := handles.mem_iff (a := some slot)
    simpa using same
  refine
    { excursion with
      fits := fun before => progress.fits (excursion.fits before)
      config_eq := progress.config_eq.trans excursion.config_eq
      capacity_eq := progress.capacity_eq.trans excursion.capacity_eq
      live := ?_
      table := fun slot _ => ?_
      vacant := nofun
      pending_eq := felled.idle.trans (idle.symm.trans excursion.pending_eq)
      active_eq := felled.active_eq.trans excursion.active_eq
      faults_eq := progress.faults_eq.trans excursion.faults_eq
      counters_eq := ?_
      heap := fun id _ => ?_
      fresh := nofun
      memory := ?_
      frame := ?_ }
  · have before := excursion.live
    have fewer := progress.live
    rw [List.length_nil]
    omega
  · rw [progress.table]
    simp only [held]
    split
    · rename_i inside
      exact (excursion.vacant slot inside).symm
    · rename_i outside
      exact excursion.table slot outside
  · rw [progress.counters_eq, excursion.counters_eq, length]
    simp only [Host.Counters.plus, Nat.add_assoc, Nat.add_zero]
  · rw [progress.heap]
    simp only [places.mem_iff]
    by_cases inside : id ∈ ids
    · rw [if_pos inside, excursion.fresh id inside]
    · simp [inside, excursion.heap id inside]
  · obtain ⟨_, _, _, rfl⟩ := progress.frame
    exact excursion.memory
  · obtain ⟨_, _, _, rfl⟩ := progress.frame
    obtain ⟨_, _, _, _, rfl⟩ := excursion.frame
    exact ⟨_, _, _, _, rfl⟩

end Session

end Custody
