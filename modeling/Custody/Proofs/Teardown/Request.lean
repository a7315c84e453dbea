import Custody.Proofs.Teardown.Deferred
import Custody.Proofs.Teardown.Immediate

/-!
# A drop request and a flush

Whenever the host runs destructors, a drop request for the root of a tree and a flush after it take
the whole tree down, when no destructor waited before. What asks for the drop is an owner that goes
away, or a guest that gives back a handle it has taken out of an owner.
-/

set_option autoImplicit false

namespace Custody.Session

open Host (DestructorCall)

variable {nodeType : Mode → String} {flushBound depth : Nat} {world : World} {tree : Tree}

/-- A script has asked the host to drop a tree: after it and a flush the tree is gone. -/
structure Felled (control : Control) (script : Script Unit) (world : World) (tree : Tree)
    (asked after : World) (order : List Member) : Prop where
  asked_ok : script world = .ok () asked
  flush_ok : ∃ count, flush control asked = .ok count after
  order_perm : order.Perm (Tree.preorder [tree])
  progress : Progress world after order order order.length
  asked_faults : asked.machine.host.faults = world.machine.host.faults
  asked_live : asked.machine.host.live < world.machine.host.live
  idle : after.machine.host.pending = []
  active_eq : after.machine.active = world.machine.active

private theorem flush_queued (nodeType : Mode → String) (depth : Nat) {call : DestructorCall}
    (timing : world.machine.host.config.timing = .deferred)
    (sound : world.machine.host.table.Sound) (waits : Waits world call tree)
    (planted : Planted world tree.children) (nodup : ((Tree.preorder [tree]).map Member.id).Nodup)
    (long : Tree.size [tree] ≤ flushBound) :
    ∃ after released,
      flush (nestedControl nodeType flushBound (depth + 1))
        (world.reschedule [call] world.machine.active) = .ok (Tree.size [tree]) after ∧
      Progress world after released (Tree.levelOrder [tree]) (Tree.size [tree]) ∧
      released.Perm (Tree.preorder tree.children) ∧
      after.machine.host.pending = [] ∧ after.machine.active = world.machine.active := by
  have queued := (Progress.refl world).reschedule [call] world.machine.active
  have batch : List.Forall₂ (Waits (world.reschedule [call] world.machine.active)) [call] [tree] :=
    .cons ⟨waits.call_eq, waits.present⟩ .nil
  have below : Planted (world.reschedule [call] world.machine.active)
      ([tree].flatMap Tree.children) := by
    rw [List.flatMap_singleton]
    exact planted.keep queued fun _ _ => ⟨List.not_mem_nil, List.not_mem_nil⟩
  obtain ⟨after, released, flushed, progress, same, empty, stack⟩ :=
    @flush_ok (world.reschedule [call] world.machine.active) nodeType depth _ _ timing sound batch
      below nodup long
  rw [List.flatMap_singleton] at same
  exact ⟨after, released, flushed, by simpa using queued.trans progress, same, empty, stack⟩

/-- Once the root is released, it does not matter who asked. -/
private theorem felled_of_released {asked : Script (Option DestructorCall)} {released : World}
    {call : DestructorCall} (deep : Tree.size [tree] ≤ depth) (long : Tree.size [tree] ≤ flushBound)
    (idle : world.machine.host.pending = []) (sound : world.machine.host.table.Sound)
    (release : Progress world released [tree.top] [] 0) (waits : Waits released call tree)
    (active : released.machine.active = world.machine.active)
    (pending : released.machine.host.pending = world.machine.host.pending)
    (ran : asked world = .ok (released.machine.settle call).1.started?
      { released with machine := (released.machine.settle call).2 })
    (planted : Planted released tree.children)
    (nodup : ((Tree.preorder [tree]).map Member.id).Nodup) :
    ∃ asked' after order,
      Felled (nestedControl nodeType flushBound depth)
        (asked >>= runStarted (nestedControl nodeType flushBound depth)) world tree asked' after
        order := by
  have size : Tree.size [tree] = Tree.size tree.children + 1 := Tree.size_cons tree []
  have members : Tree.preorder [tree] = tree.top :: Tree.preorder tree.children := by
    rw [Tree.preorder_cons, Tree.preorder_nil, List.append_nil]
  obtain ⟨depth, rfl⟩ : ∃ less, depth = less + 1 := ⟨depth - 1, by omega⟩
  rw [idle] at pending
  have taken : released.machine.host.live < world.machine.host.live := by
    have one := release.live
    rw [List.length_singleton] at one
    omega
  cases timing : released.machine.host.config.timing with
  | immediate =>
      have fresh : tree.top.id ∉ (Tree.preorder tree.children).map Member.id := by
        rw [members, List.map_cons] at nodup
        exact (List.nodup_cons.1 nodup).1
      have falls : FallsAtOnce nodeType flushBound tree.children := fallsAtOnce tree.children
      obtain ⟨after, settled, progress, stack, queue⟩ :=
        runStarted_atOnce falls (show _ ≤ depth by omega) timing (release.sound sound) waits planted
          fresh
      have whole := release.trans progress
      have empty := queue.trans pending
      refine ⟨after, after, Tree.preorder [tree], (Script.bind_ok ran).trans settled,
        ⟨0, flush_idle _ empty⟩, .refl _, ?_, whole.faults_eq, ?_, empty, stack.trans active⟩
      · rw [Tree.length_preorder, size, members]
        simpa using whole
      · have fewer := progress.live
        omega
  | deferred =>
      rw [settle_deferred timing, pending] at ran
      obtain ⟨after, news, flushed, progress, same, empty, stack⟩ :=
        flush_queued nodeType depth timing (release.sound sound) waits planted nodup long
      have whole := release.trans progress
      have order : (Tree.levelOrder [tree]).Perm ([tree.top] ++ news) := by
        refine ((Tree.levels_perm [tree]).map Tree.top).trans ?_
        exact List.Perm.trans (.of_eq members) (same.symm.cons tree.top)
      have length : (Tree.levelOrder [tree]).length = Tree.size [tree] := by
        rw [Tree.levelOrder, List.length_map, (Tree.levels_perm [tree]).length_eq]
        rfl
      refine ⟨_, after, Tree.levelOrder [tree], (Script.bind_ok ran).trans rfl, ⟨_, flushed⟩,
        (Tree.levels_perm [tree]).map Tree.top, ?_, release.faults_eq, taken, empty,
        stack.trans active⟩
      rw [length]
      simpa using whole.perm order

theorem dropOwner_felled (deep : Tree.size [tree] ≤ depth) (long : Tree.size [tree] ≤ flushBound)
    (idle : world.machine.host.pending = []) (sound : world.machine.host.table.Sound)
    (planted : Planted world [tree]) {owner : Owner} (same : owner.id = tree.top.id) :
    ∃ asked after order,
      Felled (nestedControl nodeType flushBound depth)
        (dropOwner (nestedControl nodeType flushBound depth) owner) world tree asked after order := by
  obtain ⟨released, call, release, waits, active, pending, asked⟩ :=
    release_ok planted.root sound same
  exact felled_of_released deep long idle sound release waits active pending asked
    (planted.children release (by simp)) planted.nodup

theorem requestDrop_felled (deep : Tree.size [tree] ≤ depth)
    (long : Tree.size [tree] ≤ flushBound) (idle : world.machine.host.pending = [])
    (sound : world.machine.host.table.Sound) {slot : Nat} {typeName : String}
    {r : Guest.Registration Resource}
    (names : world.machine.host.Names tree.top.handle slot
      (.exported (reclaiming typeName tree.top.id)))
    (describes : tree.Describes r.object) (present : world.heap.get? tree.top.id = some r)
    (detached : r.detached = r) (childless : tree.children = []) :
    ∃ asked after order,
      Felled (nestedControl nodeType flushBound depth)
        (requestDrop (nestedControl nodeType flushBound depth) tree.top.handle) world tree asked
        after order := by
  obtain ⟨released, call, release, waits, active, pending, asked⟩ :=
    request_ok names sound describes present detached
  refine felled_of_released deep long idle sound release waits active pending asked ?_ ?_
  · rw [childless]
    exact ⟨fun _ member => (List.not_mem_nil member).elim, List.nodup_nil⟩
  · simp [Tree.preorder_cons, childless]

end Custody.Session
