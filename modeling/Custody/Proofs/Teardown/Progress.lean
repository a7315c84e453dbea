import Custody.Session.Run
import Custody.Proofs.Session.Scripts
import Custody.Proofs.Teardown.Forest

/-!
# The progress of a teardown

A registration that goes down is released first: its owner is detached and the host takes its entry
out of the table. Then its destructor takes the object off the heap, and at last the destructor
returns. `Progress` says which registrations went how far between two worlds, and that nothing else
has changed but the queue and the calls under way.
-/

set_option autoImplicit false

namespace Custody

open Host (DestructorCall Entry Table)

def Guest.Registration.detached {ρ : Type} (r : Guest.Registration ρ) : Guest.Registration ρ :=
  { r with handle := .invalid r.mode }

theorem Guest.Registration.detached_detached {ρ : Type} (r : Guest.Registration ρ) :
    r.detached.detached = r.detached := by
  simp [detached, mode]

namespace Session

def Event.destroyed? : Event → Option String
  | .destroyed label => some label
  | _ => none

/-- The labels of the nodes that were destroyed so far, the first one in front. -/
def World.destroyed (world : World) : List String :=
  world.log.reverse.filterMap Event.destroyed?

def World.reschedule (world : World) (pending : List DestructorCall)
    (active : List Host.Activation) : World :=
  { world with machine := { host := { world.machine.host with pending }, active } }

/-- Between two worlds some registrations were released, some taken off the heap, and some destructors
have returned. -/
structure Progress (world after : World) (released reclaimed : List Member) (returned : Nat) :
    Prop where
  /-- Each released registration had an entry of its own. -/
  named : ∀ m ∈ released, ∃ slot typeName,
    world.machine.host.Names m.handle slot (.exported (reclaiming typeName m.id))
  heap : ∀ id, after.heap.get? id =
    if id ∈ reclaimed.map Member.id then none
    else (world.heap.get? id).map fun r => if id ∈ released.map Member.id then r.detached else r
  table : ∀ slot, after.machine.host.table.get? slot =
    if ∃ m ∈ released, m.handle.slot? = some slot then none
    else world.machine.host.table.get? slot
  sound : world.machine.host.table.Sound → after.machine.host.table.Sound
  live : world.machine.host.live = after.machine.host.live + released.length
  capacity_eq : after.machine.host.table.capacity = world.machine.host.table.capacity
  size_eq : after.machine.host.table.slots.size = world.machine.host.table.slots.size
  config_eq : after.machine.host.config = world.machine.host.config
  faults_eq : after.machine.host.faults = world.machine.host.faults
  counters_eq : after.machine.host.counters =
    { world.machine.host.counters with
      dropRequests := world.machine.host.counters.dropRequests + released.length
      destructorsRun := world.machine.host.counters.destructorsRun + returned }
  destroyed_eq : after.destroyed = world.destroyed ++ reclaimed.filterMap Member.label
  frame : ∃ machine heap log, after = { world with machine, heap, log }

theorem Progress.refl (world : World) : Progress world world [] [] 0 where
  named := nofun
  heap id := by simp
  table slot := by simp
  sound := id
  live := rfl
  capacity_eq := rfl
  size_eq := rfl
  config_eq := rfl
  faults_eq := rfl
  counters_eq := rfl
  destroyed_eq := by simp
  frame := ⟨_, _, _, rfl⟩

variable {world middle after : World} {released reclaimed : List Member} {returned : Nat}

theorem Progress.trans {released' reclaimed' : List Member} {returned' : Nat}
    (first : Progress world middle released reclaimed returned)
    (second : Progress middle after released' reclaimed' returned') :
    Progress world after (released ++ released') (reclaimed ++ reclaimed')
      (returned + returned') where
  named := by
    intro m member
    rcases List.mem_append.1 member with early | late
    · exact first.named m early
    · -- an entry that is left after the first part was there before it
      obtain ⟨slot, typeName, names⟩ := second.named m late
      have present := names.get?_eq
      rw [first.table slot] at present
      split at present
      · cases present
      · exact ⟨slot, typeName, names.mode_eq.trans (by rw [first.config_eq]), names.slot?_eq,
          present⟩
  heap id := by
    rw [second.heap, first.heap]
    rw [List.map_append, List.map_append]
    simp only [List.mem_append]
    by_cases late : id ∈ reclaimed'.map Member.id
    · rw [if_pos late, if_pos (.inr late)]
    · rw [if_neg late]
      by_cases early : id ∈ reclaimed.map Member.id
      · rw [if_pos early, if_pos (.inl early), Option.map_none]
      · rw [if_neg early, if_neg (not_or.2 ⟨early, late⟩), Option.map_map]
        refine congrArg (Option.map · _) (funext fun r => ?_)
        by_cases before : id ∈ released.map Member.id <;>
          by_cases now : id ∈ released'.map Member.id <;>
            simp [before, now, Guest.Registration.detached_detached]
  table slot := by
    rw [second.table, first.table]
    simp only [List.mem_append, or_and_right, exists_or]
    by_cases late : ∃ m ∈ released', m.handle.slot? = some slot
    · rw [if_pos late, if_pos (.inr late)]
    · by_cases early : ∃ m ∈ released, m.handle.slot? = some slot
      · rw [if_neg late, if_pos early, if_pos (.inl early)]
      · rw [if_neg late, if_neg early, if_neg (not_or.2 ⟨early, late⟩)]
  sound := fun sound => second.sound (first.sound sound)
  live := by
    rw [first.live, second.live, List.length_append]
    omega
  capacity_eq := second.capacity_eq.trans first.capacity_eq
  size_eq := second.size_eq.trans first.size_eq
  config_eq := second.config_eq.trans first.config_eq
  faults_eq := second.faults_eq.trans first.faults_eq
  counters_eq := by
    rw [second.counters_eq, first.counters_eq, List.length_append]
    simp only [Nat.add_assoc]
  destroyed_eq := by
    rw [second.destroyed_eq, first.destroyed_eq, List.filterMap_append, List.append_assoc]
  frame := by
    obtain ⟨machine, heap, log, rfl⟩ := second.frame
    obtain ⟨_, _, _, rfl⟩ := first.frame
    exact ⟨machine, heap, log, rfl⟩

theorem Progress.perm {released' : List Member}
    (progress : Progress world after released reclaimed returned)
    (same : released'.Perm released) : Progress world after released' reclaimed returned :=
  { progress with
    named := fun m member => progress.named m (same.mem_iff.1 member)
    heap := fun id => by
      rw [progress.heap]
      simp only [(same.map Member.id).mem_iff]
    table := fun slot => by
      rw [progress.table]
      simp only [same.mem_iff]
    live := by rw [progress.live, same.length_eq]
    counters_eq := by rw [progress.counters_eq, same.length_eq] }

theorem Progress.reschedule (progress : Progress world after released reclaimed returned)
    (pending : List DestructorCall) (active : List Host.Activation) :
    Progress world (after.reschedule pending active) released reclaimed returned :=
  { progress with
    frame := by
      obtain ⟨_, _, _, rfl⟩ := progress.frame
      exact ⟨_, _, _, rfl⟩ }

/-! ## Registrations that can go down -/

/-- The object owns what the tree says, and does nothing else when it is destroyed. -/
def Tree.Describes (tree : Tree) : Resource → Prop
  | .node node =>
      tree.top.label = some node.label ∧ node.onDrop = [] ∧ node.imports = [] ∧
        node.children.map Owner.id = tree.children.map (·.top.id)
  | .probe children =>
      tree.top.label = none ∧ children.map Owner.id = tree.children.map (·.top.id)

/-- The root of a tree is attached under its handle, and the host knows it. -/
structure Rooted (world : World) (tree : Tree) : Prop where
  present : ∃ object, tree.Describes object ∧
    world.heap.get? tree.top.id = some { handle := tree.top.handle, object }
  named : ∃ slot typeName,
    world.machine.host.Names tree.top.handle slot (.exported (reclaiming typeName tree.top.id))

/-- The destructor of the root of a tree waits. -/
structure Waits (world : World) (call : DestructorCall) (tree : Tree) : Prop where
  call_eq : ∃ typeName, call = reclaiming typeName tree.top.id
  present : ∃ r, tree.Describes r.object ∧ world.heap.get? tree.top.id = some r

theorem Rooted.keep {tree : Tree} (rooted : Rooted world tree)
    (progress : Progress world after released reclaimed returned)
    (unreleased : tree.top.id ∉ released.map Member.id)
    (unreclaimed : tree.top.id ∉ reclaimed.map Member.id) : Rooted after tree := by
  obtain ⟨object, describes, present⟩ := rooted.present
  obtain ⟨slot, typeName, names⟩ := rooted.named
  have elsewhere : ¬∃ m ∈ released, m.handle.slot? = some slot := by
    rintro ⟨m, member, slot?⟩
    obtain ⟨place, name, other⟩ := progress.named m member
    have here : place = slot := Option.some.inj (other.slot?_eq.symm.trans slot?)
    have entry := other.get?_eq
    rw [here, names.get?_eq] at entry
    exact unreleased (List.mem_map.2 ⟨m, member, (reclaiming_inj entry).symm⟩)
  refine ⟨⟨object, describes, ?_⟩, slot, typeName, ?_, names.slot?_eq, ?_⟩
  · rw [progress.heap, if_neg unreclaimed, present, Option.map_some, if_neg unreleased]
  · rw [progress.config_eq, names.mode_eq]
  · rw [progress.table, if_neg elsewhere, names.get?_eq]

theorem Waits.keep {call : DestructorCall} {tree : Tree} (waits : Waits world call tree)
    (progress : Progress world after released reclaimed returned)
    (unreclaimed : tree.top.id ∉ reclaimed.map Member.id) : Waits after call tree := by
  obtain ⟨r, describes, present⟩ := waits.present
  refine ⟨waits.call_eq, ?_⟩
  rw [progress.heap, if_neg unreclaimed, present, Option.map_some]
  by_cases gone : tree.top.id ∈ released.map Member.id
  · exact ⟨r.detached, describes, by rw [if_pos gone]⟩
  · exact ⟨r, describes, by rw [if_neg gone]⟩

/-- What scripts need when destructors may be nested up to a depth. -/
def nestedControl (nodeType : Mode → String) (flushBound depth : Nat) : Control :=
  { runDestructor := runDestructor nodeType flushBound depth, flushBound }

/-! ## Single steps -/

private theorem settle_events (m : Host.Machine) (call : DestructorCall) :
    (m.settle call).1.events = [] := by
  unfold Host.Machine.settle
  cases m.host.config.timing <;> rfl

private theorem destroyed_requests (object : Resource) (h : Handle) (log : List Event) :
    (object.requests h ++ log).reverse.filterMap Event.destroyed? =
      log.reverse.filterMap Event.destroyed? := by
  cases object <;> simp [Resource.requests, Event.destroyed?]

def World.unregistered (world : World) (table : Table Entry) : World :=
  { world with
    machine.host.table := table
    machine.host.counters.dropRequests := world.machine.host.counters.dropRequests + 1 }

private theorem progress_released {m : Member} {slot : Nat} {typeName : String} {table : Table Entry}
    {heap : Guest.Heap Resource} {log : List Event}
    (names : world.machine.host.Names m.handle slot (.exported (reclaiming typeName m.id)))
    (removed : world.machine.host.table.Removed slot (.exported (reclaiming typeName m.id)) table)
    (places : ∀ id, heap.get? id =
      (world.heap.get? id).map fun r => if id = m.id then r.detached else r)
    (shown : log.reverse.filterMap Event.destroyed? = world.destroyed) :
    Progress world { world.unregistered table with heap, log } [m] [] 0 where
  named other member := by
    rw [List.mem_singleton.1 member]
    exact ⟨slot, typeName, names⟩
  heap id := by simpa using places id
  table place := by
    refine (removed.get?_eq place).trans ?_
    by_cases here : place = slot
    · simp [here, names.slot?_eq]
    · simp [here, names.slot?_eq, Ne.symm here]
  sound _ := removed.sound
  live := removed.live_eq
  capacity_eq := removed.capacity_eq
  size_eq := removed.size_eq
  config_eq := rfl
  faults_eq := rfl
  counters_eq := rfl
  destroyed_eq := shown.trans (List.append_nil _).symm
  frame := ⟨_, _, _, rfl⟩

theorem release_ok {tree : Tree} (rooted : Rooted world tree)
    (sound : world.machine.host.table.Sound) {owner : Owner} (same : owner.id = tree.top.id) :
    ∃ after call, Progress world after [tree.top] [] 0 ∧ Waits after call tree ∧
      after.machine.active = world.machine.active ∧
      after.machine.host.pending = world.machine.host.pending ∧
      releaseOwner owner world =
        .ok (after.machine.settle call).1.started?
          { after with machine := (after.machine.settle call).2 } := by
  obtain ⟨object, describes, present⟩ := rooted.present
  obtain ⟨slot, typeName, names⟩ := rooted.named
  obtain ⟨table, removed, dropped⟩ := names.drop sound
  have valid := Handle.isValid_of_slot? names.slot?_eq
  have put := Guest.Heap.get?_put present
    (Guest.Registration.detached { handle := tree.top.handle, object })
  refine ⟨{ world.unregistered table with
      heap := world.heap.put tree.top.id
        (Guest.Registration.detached { handle := tree.top.handle, object })
      log := object.requests tree.top.handle ++ world.log },
    reclaiming typeName tree.top.id, ?_, ?_, rfl, rfl, ?_⟩
  · refine progress_released names removed (fun id => ?_) (destroyed_requests object _ world.log)
    rw [put]
    by_cases here : id = tree.top.id
    · subst here
      simp [present]
    · simp [here]
  · exact ⟨⟨typeName, rfl⟩, _, describes, (put _).trans (if_pos rfl)⟩
  · rw [releaseOwner_attached (same ▸ present) valid, startDrop_eq, same, dropped, settle_events]
    rfl

theorem request_ok {tree : Tree} {slot : Nat} {typeName : String} {r : Guest.Registration Resource}
    (names : world.machine.host.Names tree.top.handle slot
      (.exported (reclaiming typeName tree.top.id)))
    (sound : world.machine.host.table.Sound) (describes : tree.Describes r.object)
    (present : world.heap.get? tree.top.id = some r) (detached : r.detached = r) :
    ∃ after call, Progress world after [tree.top] [] 0 ∧ Waits after call tree ∧
      after.machine.active = world.machine.active ∧
      after.machine.host.pending = world.machine.host.pending ∧
      startDrop tree.top.handle world =
        .ok (after.machine.settle call).1.started?
          { after with machine := (after.machine.settle call).2 } := by
  obtain ⟨table, removed, dropped⟩ := names.drop sound
  refine ⟨world.unregistered table, reclaiming typeName tree.top.id, ?_,
    ⟨⟨typeName, rfl⟩, r, describes, present⟩, rfl, rfl, ?_⟩
  · refine progress_released names removed (fun id => ?_) rfl
    by_cases here : id = tree.top.id
    · subst here
      simp [present, detached]
    · simp [here]
  · rw [startDrop_eq, dropped, settle_events]
    rfl

private theorem progress_reclaim {tree : Tree} {heap : Guest.Heap Resource} {log : List Event}
    (others : ∀ id, heap.get? id = if id = tree.top.id then none else world.heap.get? id)
    (shown : log.reverse.filterMap Event.destroyed? = world.destroyed ++ tree.top.label.toList) :
    Progress world { world with heap, log } [] [tree.top] 0 where
  named := nofun
  heap id := by simp [others]
  table slot := by simp
  sound := id
  live := rfl
  capacity_eq := rfl
  size_eq := rfl
  config_eq := rfl
  faults_eq := rfl
  counters_eq := rfl
  destroyed_eq := by
    refine shown.trans ?_
    cases label : tree.top.label <;> simp [label]
  frame := ⟨_, _, _, rfl⟩

private theorem destroyNode_ok {control : Control} {act : Step → Script Answer} {node : Node}
    (onDrop : node.onDrop = []) (imports : node.imports = [])
    (ran : node.children.forM (dropOwner control)
      { world with log := .destroyed node.label :: world.log } = .ok () after) :
    destroyNode control act node world = .ok () after := by
  unfold destroyNode
  rw [onDrop, imports]
  exact Script.bind_ok ran

theorem destroy_ok {call : DestructorCall} {tree : Tree} (waits : Waits world call tree)
    (control : Control) (act : Step → Script Answer) :
    ∃ (after : World) (owners : List Owner),
      Progress world after [] [tree.top] 0 ∧ after.machine = world.machine ∧
      owners.map Owner.id = tree.children.map (·.top.id) ∧
      ∀ final, owners.forM (dropOwner control) after = .ok () final →
        destroy control act call world = .ok () final := by
  obtain ⟨typeName, rfl⟩ := waits.call_eq
  obtain ⟨⟨h, object⟩, describes, present⟩ := waits.present
  obtain ⟨heap, removed, others⟩ := Guest.Heap.remove_of_get? present
  have reclaimed := reclaim_eq removed
  cases object with
  | node node =>
      obtain ⟨label, onDrop, imports, children⟩ := describes
      refine ⟨{ world with heap, log := .destroyed node.label :: world.log }, node.children, ?_,
        rfl, children, fun final ran => ?_⟩
      · refine progress_reclaim others ?_
        rw [label, List.reverse_cons, List.filterMap_append]
        rfl
      · unfold destroy
        dsimp only [reclaiming]
        rw [Script.bind_ok reclaimed]
        exact destroyNode_ok onDrop imports ran
  | probe owners =>
      obtain ⟨label, children⟩ := describes
      refine ⟨{ world with heap }, owners, ?_, rfl, children, fun final ran => ?_⟩
      · refine progress_reclaim others ?_
        rw [label]
        exact (List.append_nil _).symm
      · unfold destroy
        dsimp only [reclaiming]
        rw [Script.bind_ok reclaimed]
        exact ran

def World.countReturn (world : World) : World :=
  { world with
    machine.host.counters.destructorsRun := world.machine.host.counters.destructorsRun + 1 }

theorem progress_returned (world : World) : Progress world world.countReturn [] [] 1 where
  named := nofun
  heap id := by simp [World.countReturn]
  table slot := by simp [World.countReturn]
  sound := id
  live := rfl
  capacity_eq := rfl
  size_eq := rfl
  config_eq := rfl
  faults_eq := rfl
  counters_eq := rfl
  destroyed_eq := (List.append_nil _).symm
  frame := ⟨_, _, _, rfl⟩

/-! ## Forests that can go down -/

/-- Every registration of a forest can go down, and none occurs twice. -/
structure Planted (world : World) (forest : List Tree) : Prop where
  rooted : ∀ tree ∈ Tree.within forest, Rooted world tree
  nodup : ((Tree.preorder forest).map Member.id).Nodup

theorem Planted.keep {forest : List Tree} (planted : Planted world forest)
    (progress : Progress world after released reclaimed returned)
    (apart : ∀ tree ∈ Tree.within forest,
      tree.top.id ∉ released.map Member.id ∧ tree.top.id ∉ reclaimed.map Member.id) :
    Planted after forest :=
  ⟨fun tree member =>
    (planted.rooted tree member).keep progress (apart tree member).1 (apart tree member).2,
    planted.nodup⟩

theorem Planted.root {tree : Tree} {rest : List Tree} (planted : Planted world (tree :: rest)) :
    Rooted world tree :=
  planted.rooted tree (Tree.mem_within List.mem_cons_self)

theorem Planted.top_fresh {tree : Tree} {rest : List Tree} (planted : Planted world (tree :: rest)) :
    tree.top.id ∉ (Tree.preorder tree.children).map Member.id := by
  have nodup := planted.nodup
  rw [Tree.preorder_cons, List.map_cons, List.map_append] at nodup
  exact fun inside => (List.nodup_cons.1 nodup).1 (List.mem_append_left _ inside)

theorem Planted.children {tree : Tree} {rest : List Tree} (planted : Planted world (tree :: rest))
    (progress : Progress world after released reclaimed returned)
    (gone : ∀ id, id ∈ released.map Member.id ∨ id ∈ reclaimed.map Member.id → id = tree.top.id) :
    Planted after tree.children := by
  have nodup := planted.nodup
  rw [Tree.preorder_cons, List.map_cons, List.map_append] at nodup
  obtain ⟨fresh, nodup⟩ := List.nodup_cons.1 nodup
  have kept : Planted world tree.children :=
    ⟨fun below member => planted.rooted below (by
        rw [Tree.within_cons]
        exact List.mem_cons_of_mem _ (List.mem_append_left _ member)),
      (List.nodup_append.1 nodup).1⟩
  refine kept.keep progress fun below member => ?_
  have inside := List.mem_map_of_mem (f := Member.id) (Tree.mem_preorder member)
  refine ⟨fun out => fresh ?_, fun out => fresh ?_⟩
  · rw [← gone _ (.inl out)]
    exact List.mem_append_left _ inside
  · rw [← gone _ (.inr out)]
    exact List.mem_append_left _ inside

theorem Planted.left {front back : List Tree} (planted : Planted world (front ++ back)) :
    Planted world front := by
  have nodup := planted.nodup
  rw [Tree.preorder_append, List.map_append] at nodup
  refine ⟨fun tree member => planted.rooted tree ?_, (List.nodup_append.1 nodup).1⟩
  rw [Tree.within_append]
  exact List.mem_append_left _ member

theorem Planted.right {front back : List Tree} (planted : Planted world (front ++ back))
    (progress : Progress world after released reclaimed returned)
    (gone : ∀ id, id ∈ released.map Member.id ∨ id ∈ reclaimed.map Member.id →
      id ∈ (Tree.preorder front).map Member.id) : Planted after back := by
  have nodup := planted.nodup
  rw [Tree.preorder_append, List.map_append] at nodup
  obtain ⟨-, nodup, apart⟩ := List.nodup_append.1 nodup
  have kept : Planted world back :=
    ⟨fun later member => planted.rooted later (by
        rw [Tree.within_append]
        exact List.mem_append_right _ member),
      nodup⟩
  refine kept.keep progress fun later member => ?_
  have outside := List.mem_map_of_mem (f := Member.id) (Tree.mem_preorder member)
  exact ⟨fun out => apart _ (gone _ (.inl out)) _ outside rfl,
    fun out => apart _ (gone _ (.inr out)) _ outside rfl⟩

end Session

end Custody
