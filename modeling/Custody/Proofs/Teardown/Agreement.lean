import Custody.Proofs.Session.Coherence
import Custody.Proofs.Teardown.Deferred
import Custody.Proofs.Teardown.Immediate

/-!
# Timing does not change the outcome of a teardown

A forest of owners may be dropped in any order, with destructors that run inside the drop requests or
in flushes at any time between them and at the end. Either way the forest is gone afterwards and
nothing else is. What differs is the order in which the objects are destroyed.
-/

set_option autoImplicit false

namespace Custody.Session

open Custody.Session.Tree (levelOrder preorder within)

def World.withTiming (world : World) (timing : Timing) : World :=
  { world with machine.host.config.timing := timing }

def Tree.owner (tree : Tree) : Owner := { id := tree.top.id, mode := tree.top.handle.mode }

/-- A forest can be dropped: its registrations are attached, the host knows them, and no destructor
waits. -/
structure Droppable (world : World) (forest : List Tree) : Prop where
  sound : world.machine.host.table.Sound
  idle : world.machine.host.pending = []
  planted : Planted world forest

/-- Some registrations are gone, having been destroyed in an order, and nothing else has changed. -/
structure Razed (world after : World) (order : List Member) : Prop where
  /-- The live entries are the same ones at the same slots, without those of the registrations. -/
  entries : ∀ slot, after.machine.host.table.get? slot =
    if ∃ m ∈ order, m.handle.slot? = some slot then none
    else world.machine.host.table.get? slot
  live : world.machine.host.live = after.machine.host.live + order.length
  heap : ∀ id, after.heap.get? id =
    if id ∈ order.map Member.id then none else world.heap.get? id
  idle : after.machine.host.pending = []
  active : after.machine.active = world.machine.active
  faults : after.machine.host.faults = world.machine.host.faults
  counters : after.machine.host.counters =
    { world.machine.host.counters with
      dropRequests := world.machine.host.counters.dropRequests + order.length
      destructorsRun := world.machine.host.counters.destructorsRun + order.length }
  destroyed : after.destroyed = world.destroyed ++ order.filterMap Member.label

/-- A forest is dropped at once, in one order of its roots, and by flushes, each after a batch of the
roots. Both come to an end and destroy each object once, after the one that owns it. -/
def TearsDownAlike (nodeType : Mode → String) (bound : Nat) (world : World) (forest drops : List Tree)
    (schedule : List (List Tree)) : Prop :=
  ∃ atOnce later,
    (drops.map Tree.owner).forM (dropOwner (controlFor nodeType bound))
      (world.withTiming .immediate) = .ok () atOnce ∧
    dropInBatches (controlFor nodeType bound) (schedule.map (·.map Tree.owner))
      (world.withTiming .deferred) = .ok (schedule.map Tree.size) later ∧
    Razed world atOnce (preorder drops) ∧
    Razed world later (schedule.flatMap levelOrder) ∧
    (preorder drops).Perm (preorder forest) ∧
    (schedule.flatMap levelOrder).Perm (preorder forest) ∧
    (∀ tree ∈ within forest, ∀ child ∈ tree.children,
      [tree.top, child.top].Sublist (preorder drops) ∧
        [tree.top, child.top].Sublist (schedule.flatMap levelOrder)) ∧
    (∀ slot, atOnce.machine.host.table.get? slot = later.machine.host.table.get? slot) ∧
    atOnce.machine.host.counters = later.machine.host.counters

/-- What a disciplined guest has attached and never attached twice can go down. -/
theorem Conduct.Reachable.planted {config : HostConfig} {c : Conduct} {forest : List Tree}
    (reachable : c.Reachable config)
    (present : ∀ tree ∈ within forest, tree.top.handle.isValid = true ∧
      ∃ object, tree.Describes object ∧
        c.heap.get? tree.top.id = some { handle := tree.top.handle, object })
    (nodup : ((preorder forest).map Member.id).Nodup) : Planted c.world forest := by
  obtain ⟨standing, accords⟩ := reachable.accords
  refine ⟨fun tree member => ?_, nodup⟩
  obtain ⟨valid, object, describes, allocated⟩ := present tree member
  refine ⟨⟨object, describes, allocated⟩, accords.lodged.named tree.top.id _ ?_⟩
  -- only a registration that stands attached has a valid handle
  have cell := accords.housed tree.top.id
  rw [allocated] at cell
  cases place : standing tree.top.id with
  | attached h =>
      rw [place] at cell
      obtain ⟨other, same⟩ := cell
      cases same
      rfl
  | absent =>
      rw [place] at cell
      cases cell
  | stranded | waiting | transferred h =>
      rw [place] at cell
      obtain ⟨r, same, invalid⟩ := cell
      cases same
      exact absurd valid (Bool.eq_false_iff.1 invalid)

/-- A disciplined guest may drop any forest of its own while no destructor waits. -/
theorem Conduct.Reachable.droppable {config : HostConfig} {c : Conduct} {forest : List Tree}
    (reachable : c.Reachable config) (idle : c.host.pending = [])
    (present : ∀ tree ∈ within forest, tree.top.handle.isValid = true ∧
      ∃ object, tree.Describes object ∧
        c.heap.get? tree.top.id = some { handle := tree.top.handle, object })
    (nodup : ((preorder forest).map Member.id).Nodup) : Droppable c.world forest := by
  obtain ⟨standing, accords⟩ := reachable.accords
  exact ⟨accords.lodged.sound, idle, reachable.planted present nodup⟩

variable {world after : World} {forest : List Tree}

theorem Droppable.withTiming (droppable : Droppable world forest) (timing : Timing) :
    Droppable (world.withTiming timing) forest := by
  refine ⟨droppable.sound, droppable.idle, fun tree member => ?_, droppable.planted.nodup⟩
  obtain ⟨present, slot, typeName, names⟩ := droppable.planted.rooted tree member
  exact ⟨present, slot, typeName, names.mode_eq, names.slot?_eq, names.get?_eq⟩

theorem Planted.of_perm {forest' : List Tree} (planted : Planted world forest)
    (same : forest'.Perm forest) : Planted world forest' := by
  have within := Tree.within_perm_of_perm same
  exact ⟨fun tree member => planted.rooted tree (within.mem_iff.1 member),
    ((within.map Tree.top).map Member.id).nodup_iff.2 planted.nodup⟩

theorem Droppable.of_perm {forest' : List Tree} (droppable : Droppable world forest)
    (same : forest'.Perm forest) : Droppable world forest' :=
  ⟨droppable.sound, droppable.idle, droppable.planted.of_perm same⟩

private theorem Progress.razed {timing : Timing} {order : List Member}
    (progress : Progress (world.withTiming timing) after order order order.length)
    (idle : after.machine.host.pending = [])
    (active : after.machine.active = world.machine.active) : Razed world after order where
  entries := progress.table
  live := progress.live
  heap id := by
    rw [progress.heap]
    by_cases gone : id ∈ order.map Member.id
    · rw [if_pos gone, if_pos gone]
    · simp only [gone, if_false, Option.map_id']
      rfl
  idle := idle
  active := active
  faults := progress.faults_eq
  counters := progress.counters_eq
  destroyed := progress.destroyed_eq

private theorem levelOrder_perm (schedule : List (List Tree)) :
    (schedule.flatMap levelOrder).Perm (preorder schedule.flatten) := by
  induction schedule with
  | nil => exact .refl _
  | cons segment schedule ih =>
      rw [List.flatMap_cons, List.flatten_cons, Tree.preorder_append]
      exact ((Tree.levels_perm segment).map Tree.top).append ih

private theorem sublist_levelOrder (schedule : List (List Tree)) {tree child : Tree}
    (member : tree ∈ within schedule.flatten) (below : child ∈ tree.children) :
    [tree.top, child.top].Sublist (schedule.flatMap levelOrder) := by
  induction schedule with
  | nil => cases member
  | cons segment schedule ih =>
      rw [List.flatten_cons, Tree.within_append] at member
      rw [List.flatMap_cons]
      rcases List.mem_append.1 member with here | later
      · have inside := (Tree.levels_perm segment).mem_iff.2 here
        have ordered := (Tree.sublist_levels segment inside below).map Tree.top
        exact ordered.trans (List.sublist_append_left _ _)
      · exact (ih later).trans (List.sublist_append_right _ _)

/-- A forest that can be dropped goes down with the same outcome whatever the timing, the order of the
drops and the places of the flushes, as long as the last flush comes after the last drop. -/
theorem Droppable.tearsDownAlike (droppable : Droppable world forest) (nodeType : Mode → String)
    {bound : Nat} (enough : Tree.size forest ≤ bound) {drops : List Tree}
    (sameDrops : drops.Perm forest) {schedule : List (List Tree)}
    (sameSchedule : schedule.flatten.Perm forest) :
    TearsDownAlike nodeType bound world forest drops schedule := by
  have preorders : (preorder drops).Perm (preorder forest) :=
    (Tree.within_perm_of_perm sameDrops).map Tree.top
  have levels : (schedule.flatMap levelOrder).Perm (preorder forest) :=
    (levelOrder_perm schedule).trans ((Tree.within_perm_of_perm sameSchedule).map Tree.top)
  have first := (droppable.of_perm sameDrops).withTiming .immediate
  have second := (droppable.of_perm sameSchedule).withTiming .deferred
  have dropsSize : Tree.size drops = (preorder drops).length := (Tree.length_preorder drops).symm
  have scheduleSize : Tree.size schedule.flatten = (schedule.flatMap levelOrder).length := by
    rw [(levelOrder_perm schedule).length_eq, Tree.length_preorder]
  have forestSize : ∀ order : List Member, order.Perm (preorder forest) →
      order.length = Tree.size forest := fun order same =>
    same.length_eq.trans (Tree.length_preorder forest)
  obtain ⟨atOnce, ran, progress, active, pending⟩ :=
    @fallsAtOnce nodeType (bound + 1) drops (bound + 1) (world.withTiming .immediate)
      (drops.map Tree.owner) (by rw [dropsSize, forestSize _ preorders]; omega) rfl first.sound
      first.planted (by simp [Tree.owner, Function.comp_def])
  obtain ⟨later, flushed, further, empty, stack⟩ :=
    dropInBatches_ok nodeType bound schedule rfl second.sound second.planted second.idle
      (show _ ≤ bound + 1 by rw [scheduleSize, forestSize _ levels]; omega)
      (schedule.map (·.map Tree.owner)) (by simp [Tree.owner, Function.comp_def])
  rw [dropsSize] at progress
  rw [scheduleSize] at further
  have left := progress.razed (pending.trans droppable.idle) active
  have right := further.razed empty stack
  refine ⟨atOnce, later, ran, flushed, left, right, preorders, levels, ?_, ?_, ?_⟩
  · intro tree member child below
    have inDrops := (Tree.within_perm_of_perm sameDrops).mem_iff.2 member
    have inSchedule := (Tree.within_perm_of_perm sameSchedule).mem_iff.2 member
    exact ⟨(Tree.sublist_within drops inDrops below).map Tree.top,
      sublist_levelOrder schedule inSchedule below⟩
  · intro slot
    rw [left.entries, right.entries]
    simp only [(preorders.trans levels.symm).mem_iff]
  · rw [left.counters, right.counters, (preorders.trans levels.symm).length_eq]

def household : Conduct :=
  (((Conduct.start {}).perform (.create "Node" "node" .integer (.node (plainNode "child")))).perform
    (.create "Node" "node" .integer
      (.node { plainNode "parent" with children := [{ id := 0, mode := .integer }] }))).perform
    (.create "Node" "node" .integer (.node (plainNode "neighbour")))

def householdParent : Tree :=
  .branch { id := 1, handle := .integer 1, label := "parent" }
    [.branch { id := 0, handle := .integer 0, label := "child" } []]

def householdNeighbour : Tree :=
  .branch { id := 2, handle := .integer 2, label := "neighbour" } []

/-- They go down in either order, with a flush in between. -/
theorem household_tearsDownAlike :
    TearsDownAlike (fun _ => "node") 3 household.world [householdParent, householdNeighbour]
      [householdNeighbour, householdParent] [[householdParent], [], [householdNeighbour]] := by
  have reachable : household.Reachable {} := by
    refine .step (.step (.step .start ?_) ?_) ?_
    · exact And.intro nofun rfl
    · exact And.intro nofun rfl
    · exact And.intro nofun rfl
  have droppable : Droppable household.world [householdParent, householdNeighbour] := by
    refine reachable.droppable rfl (fun tree member => ?_) (by decide)
    simp only [householdParent, householdNeighbour, Tree.within, Tree.downward, List.append_nil,
      List.cons_append, List.nil_append, List.mem_cons, List.not_mem_nil, or_false] at member
    obtain rfl | rfl | rfl := member
    · exact ⟨rfl, .node { plainNode "parent" with children := [{ id := 0, mode := .integer }] },
        ⟨rfl, rfl, rfl, rfl⟩, rfl⟩
    · exact ⟨rfl, .node (plainNode "child"), ⟨rfl, rfl, rfl, rfl⟩, rfl⟩
    · exact ⟨rfl, .node (plainNode "neighbour"), ⟨rfl, rfl, rfl, rfl⟩, rfl⟩
  exact droppable.tearsDownAlike _ (by decide) (.swap _ _ _) (.refl _)

end Custody.Session
