import Custody.Proofs.Teardown.Progress

/-!
# Teardown inside drop requests

A host that runs destructors at once takes a tree down inside the drop request for its root: the
children go down inside the destructor of the one that owns them. So a forest goes down in preorder,
and nothing is left to wait.
-/

set_option autoImplicit false

namespace Custody.Session

open Host (DestructorCall)

/-- The owners of a forest's roots go away, and the whole forest is gone when the last one is. -/
def FallsAtOnce (nodeType : Mode → String) (flushBound : Nat) (forest : List Tree) : Prop :=
  ∀ (depth : Nat) (world : World) (owners : List Owner), Tree.size forest ≤ depth →
    world.machine.host.config.timing = .immediate → world.machine.host.table.Sound →
    Planted world forest → owners.map Owner.id = forest.map (·.top.id) →
    ∃ after, owners.forM (dropOwner (nestedControl nodeType flushBound depth)) world = .ok () after ∧
      Progress world after (Tree.preorder forest) (Tree.preorder forest) (Tree.size forest) ∧
      after.machine.active = world.machine.active ∧
      after.machine.host.pending = world.machine.host.pending

variable {nodeType : Mode → String} {flushBound : Nat}

theorem settle_immediate {m : Host.Machine} (timing : m.host.config.timing = .immediate)
    (call : DestructorCall) :
    m.settle call = (.started call, { m with active := .dropping call :: m.active }) := by
  rw [Host.Machine.settle, timing]

private theorem finish_dropping {world : World} {call : DestructorCall}
    {under : List Host.Activation} (active : world.machine.active = .dropping call :: under) :
    Script.callMachine (·.finish) world =
      .ok .dropped (world.countReturn.reschedule world.machine.host.pending under) := by
  have finished : world.machine.finish =
      (.dropped, (world.countReturn.reschedule world.machine.host.pending under).machine) := by
    unfold Host.Machine.finish
    rw [active]
    rfl
  exact Script.callMachine_ok finished

theorem runStarted_atOnce {tree : Tree} (children : FallsAtOnce nodeType flushBound tree.children)
    {depth : Nat} {world : World} {call : DestructorCall}
    (enough : Tree.size tree.children ≤ depth)
    (timing : world.machine.host.config.timing = .immediate)
    (sound : world.machine.host.table.Sound) (waits : Waits world call tree)
    (planted : Planted world tree.children)
    (fresh : tree.top.id ∉ (Tree.preorder tree.children).map Member.id) :
    ∃ after,
      runStarted (nestedControl nodeType flushBound (depth + 1))
        (world.machine.settle call).1.started?
        { world with machine := (world.machine.settle call).2 } = .ok () after ∧
      Progress world after (Tree.preorder tree.children)
        (tree.top :: Tree.preorder tree.children) (Tree.size tree.children + 1) ∧
      after.machine.active = world.machine.active ∧
      after.machine.host.pending = world.machine.host.pending := by
  rw [settle_immediate timing]
  have started := (Progress.refl world).reschedule world.machine.host.pending
    (.dropping call :: world.machine.active)
  have waiting : Waits (world.reschedule world.machine.host.pending
      (.dropping call :: world.machine.active)) call tree :=
    ⟨waits.call_eq, waits.present⟩
  obtain ⟨reclaimed, owners, reclaim, machine, ids, destroy⟩ :=
    destroy_ok waiting (nestedControl nodeType flushBound depth)
      (answerOf (nestedControl nodeType flushBound depth) nodeType)
  have down := started.trans reclaim
  have kept : Planted reclaimed tree.children := by
    refine planted.keep down fun below member => ⟨List.not_mem_nil, fun same => fresh ?_⟩
    rw [← List.mem_singleton.1 same]
    exact List.mem_map_of_mem (Tree.mem_preorder member)
  obtain ⟨below, fell, progress, stack, queue⟩ :=
    children depth reclaimed owners enough (by rw [machine]; exact timing) (down.sound sound) kept
      ids
  have returns := finish_dropping (stack.trans (congrArg Host.Machine.active machine))
  refine ⟨below.countReturn.reschedule below.machine.host.pending world.machine.active,
    ?_, ?_, rfl, queue.trans (congrArg (·.host.pending) machine)⟩
  · exact (Script.bind_ok (destroy below fell)).trans (Script.bind_ok returns)
  · have whole := ((down.trans progress).trans (progress_returned below)).reschedule
      below.machine.host.pending world.machine.active
    simpa using whole

private theorem dropOwner_atOnce {tree : Tree} {rest : List Tree}
    (children : FallsAtOnce nodeType flushBound tree.children) {depth : Nat} {world : World}
    {owner : Owner} (enough : Tree.size tree.children ≤ depth)
    (timing : world.machine.host.config.timing = .immediate)
    (sound : world.machine.host.table.Sound) (planted : Planted world (tree :: rest))
    (same : owner.id = tree.top.id) :
    ∃ after, dropOwner (nestedControl nodeType flushBound (depth + 1)) owner world = .ok () after ∧
      Progress world after (tree.top :: Tree.preorder tree.children)
        (tree.top :: Tree.preorder tree.children) (Tree.size tree.children + 1) ∧
      after.machine.active = world.machine.active ∧
      after.machine.host.pending = world.machine.host.pending := by
  obtain ⟨released, call, release, waits, active, pending, asked⟩ :=
    release_ok planted.root sound same
  obtain ⟨after, ran, progress, stack, queue⟩ :=
    runStarted_atOnce children enough (by rw [release.config_eq, timing]) (release.sound sound)
      waits (planted.children release (by simp)) planted.top_fresh
  refine ⟨after, ?_, ?_, stack.trans active, queue.trans pending⟩
  · unfold dropOwner
    rw [Script.bind_ok asked]
    exact ran
  · simpa using release.trans progress

/-- Under immediate timing a forest goes down in preorder. -/
theorem fallsAtOnce (forest : List Tree) : FallsAtOnce nodeType flushBound forest := by
  induction forest using Tree.forest_induction with
  | nil =>
      intro depth world owners _ _ _ _ same
      cases List.map_eq_nil_iff.1 same
      exact ⟨world, rfl, .refl world, rfl, rfl⟩
  | cons tree rest inChildren inRest =>
      intro depth world owners enough timing sound planted same
      obtain ⟨owner, others, rfl, first, later⟩ := List.map_eq_cons_iff.1 same
      rw [Tree.size_cons] at enough
      obtain ⟨depth, rfl⟩ : ∃ less, depth = less + 1 := ⟨depth - 1, by omega⟩
      obtain ⟨middle, dropped, progress, active, pending⟩ :=
        dropOwner_atOnce inChildren (show _ ≤ depth by omega) timing sound planted first
      have kept : Planted middle rest :=
        Planted.right (show Planted world ([tree] ++ rest) from planted) progress fun id => by
          rw [Tree.preorder_cons, Tree.preorder_nil, List.append_nil]
          exact or_self_iff.1
      obtain ⟨after, fell, further, stack, queue⟩ :=
        inRest (depth + 1) middle others (by omega) (by rw [progress.config_eq, timing])
          (progress.sound sound) kept later
      refine ⟨after, ?_, ?_, stack.trans active, queue.trans pending⟩
      · exact (Script.bind_ok dropped).trans fell
      · have whole := progress.trans further
        rw [Tree.preorder_cons, Tree.size_cons]
        have count : Tree.size tree.children + Tree.size rest + 1 =
            Tree.size tree.children + 1 + Tree.size rest := by omega
        rw [count]
        exact whole

end Custody.Session
