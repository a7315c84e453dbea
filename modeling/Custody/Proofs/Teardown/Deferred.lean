import Mathlib.Data.List.Forall2
import Custody.Proofs.Teardown.Progress

/-!
# Teardown by flushes

A host that defers destructors queues them in the order of the drop requests. A flush runs a batch,
and the children of each registration in it join the queue behind. So the flush walks the forest of
those that waited level by level.
-/

set_option autoImplicit false

namespace Custody.Session

open Host (Activation DestructorCall)

variable {world after : World}

theorem settle_deferred {m : Host.Machine} (timing : m.host.config.timing = .deferred)
    (call : DestructorCall) :
    m.settle call =
      (.queued, { m with host := { m.host with pending := m.host.pending ++ [call] } }) := by
  rw [Host.Machine.settle, timing]

theorem Planted.below {forest : List Tree} (planted : Planted world forest)
    (progress : Progress world after (forest.map Tree.top) [] 0) :
    Planted after (forest.flatMap Tree.children) := by
  have nodup := ((Tree.preorder_perm forest).map Member.id).nodup_iff.2 planted.nodup
  rw [List.map_append] at nodup
  obtain ⟨-, nodup, apart⟩ := List.nodup_append.1 nodup
  have kept : Planted world (forest.flatMap Tree.children) :=
    ⟨fun tree member => planted.rooted tree
      ((Tree.within_perm forest).mem_iff.1 (List.mem_append_right _ member)), nodup⟩
  refine kept.keep progress fun tree member => ⟨fun out => ?_, List.not_mem_nil⟩
  exact apart _ out _ (List.mem_map_of_mem (Tree.mem_preorder member)) rfl

/-- Under deferred timing the owners of a forest's roots go away and their destructors wait, in the
same order. -/
theorem queueAll (control : Control) (forest : List Tree) (world : World) (owners : List Owner)
    (timing : world.machine.host.config.timing = .deferred)
    (sound : world.machine.host.table.Sound) (planted : Planted world forest)
    (same : owners.map Owner.id = forest.map (·.top.id)) :
    ∃ after calls, owners.forM (dropOwner control) world = .ok () after ∧
      Progress world after (forest.map Tree.top) [] 0 ∧
      List.Forall₂ (Waits after) calls forest ∧
      after.machine.active = world.machine.active ∧
      after.machine.host.pending = world.machine.host.pending ++ calls := by
  induction forest generalizing world owners with
  | nil =>
      cases List.map_eq_nil_iff.1 same
      exact ⟨world, [], rfl, .refl world, .nil, rfl, (List.append_nil _).symm⟩
  | cons tree rest ih =>
      obtain ⟨owner, others, rfl, first, later⟩ := List.map_eq_cons_iff.1 same
      obtain ⟨released, call, release, waits, active, pending, asked⟩ :=
        release_ok planted.root sound first
      have atFlush : released.machine.host.config.timing = .deferred := by
        rw [release.config_eq, timing]
      rw [settle_deferred atFlush] at asked
      have queued := release.reschedule (released.machine.host.pending ++ [call])
        released.machine.active
      have kept : Planted (released.reschedule (released.machine.host.pending ++ [call])
          released.machine.active) rest :=
        Planted.right (show Planted world ([tree] ++ rest) from planted) queued
          (by simp [Tree.preorder_cons])
      obtain ⟨after, calls, ran, progress, waiting, stack, queue⟩ :=
        ih (released.reschedule (released.machine.host.pending ++ [call]) released.machine.active)
          others atFlush (queued.sound sound) kept later
      refine ⟨after, call :: calls, ?_, queued.trans progress, .cons ?_ waiting,
        stack.trans active, ?_⟩
      · have dropped : dropOwner control owner world =
            .ok () (released.reschedule (released.machine.host.pending ++ [call])
              released.machine.active) := by
          unfold dropOwner
          rw [Script.bind_ok asked]
          rfl
        exact (Script.bind_ok dropped).trans ran
      · have still : Waits (released.reschedule (released.machine.host.pending ++ [call])
            released.machine.active) call tree := ⟨waits.call_eq, waits.present⟩
        exact still.keep progress List.not_mem_nil
      · rw [queue]
        change (released.machine.host.pending ++ [call]) ++ calls = _
        rw [pending, List.append_assoc]
        rfl

/-! ## A flush under way -/

/-- A flush runs the destructor of a tree's root. The roots in the rest of its batch and those in the
queue wait behind it, and everything below is in place. -/
structure Draining (under : List Activation) (ran : Nat) (call : DestructorCall) (tree : Tree)
    (rest queued : List Tree) (world : World) : Prop where
  sound : world.machine.host.table.Sound
  timing : world.machine.host.config.timing = .deferred
  first : Waits world call tree
  batch : ∃ calls, List.Forall₂ (Waits world) calls rest ∧
    world.machine.active = .flushing call calls (ran + (rest.length + 1)) :: under
  waiting : List.Forall₂ (Waits world) world.machine.host.pending queued
  below : Planted world ((tree :: (rest ++ queued)).flatMap Tree.children)
  nodup : ((Tree.preorder (tree :: (rest ++ queued))).map Member.id).Nodup

/-- The destructor that a flush runs has come to its end and not yet returned. -/
structure Turning (under : List Activation) (ran : Nat) (rest queued : List Tree) (world : World) :
    Prop where
  sound : world.machine.host.table.Sound
  timing : world.machine.host.config.timing = .deferred
  batch : ∃ call calls, List.Forall₂ (Waits world) calls rest ∧
    world.machine.active = .flushing call calls (ran + (rest.length + 1)) :: under
  waiting : List.Forall₂ (Waits world) world.machine.host.pending queued
  below : Planted world ((rest ++ queued).flatMap Tree.children)
  nodup : ((Tree.preorder (rest ++ queued)).map Member.id).Nodup

variable {under : List Activation} {ran : Nat} {call : DestructorCall} {tree : Tree}
  {rest queued : List Tree}

private theorem keep_waiting {calls : List DestructorCall} {forest : List Tree}
    {released reclaimed : List Member} {returned : Nat}
    (waiting : List.Forall₂ (Waits world) calls forest)
    (progress : Progress world after released reclaimed returned)
    (unreclaimed : ∀ tree ∈ forest, tree.top.id ∉ reclaimed.map Member.id) :
    List.Forall₂ (Waits after) calls forest := by
  induction waiting with
  | nil => exact .nil
  | cons waits _ ih =>
      refine .cons (waits.keep progress (unreclaimed _ List.mem_cons_self)) (ih ?_)
      intro tree member
      exact unreclaimed tree (List.mem_cons_of_mem _ member)

private theorem Draining.places (draining : Draining under ran call tree rest queued world) :
    (tree.top.id ::
      (Tree.preorder (rest ++ queued ++ tree.children)).map Member.id).Nodup :=
  ((Tree.preorder_queue tree (rest ++ queued)).map Member.id).nodup_iff.2 draining.nodup

private theorem Draining.rooted_below (draining : Draining under ran call tree rest queued world) :
    ∀ below ∈ Tree.within ((rest ++ queued ++ tree.children).flatMap Tree.children),
      Rooted world below := by
  intro below member
  refine draining.below.rooted below ?_
  rw [List.flatMap_append, Tree.within_append] at member
  rw [List.flatMap_cons, Tree.within_append]
  rcases List.mem_append.1 member with inQueue | inChildren
  · exact List.mem_append_right _ inQueue
  · exact List.mem_append_left _
      ((Tree.within_perm tree.children).mem_iff.1 (List.mem_append_right _ inChildren))

private theorem Draining.run (draining : Draining under ran call tree rest queued world)
    (nodeType : Mode → String) (flushBound depth : Nat) :
    ∃ after, runDestructor nodeType flushBound (depth + 1) call world = .ok () after ∧
      Progress world after (tree.children.map Tree.top) [tree.top] 0 ∧
      Turning under ran rest (queued ++ tree.children) after := by
  obtain ⟨fresh, nodup⟩ := List.nodup_cons.1 draining.places
  have others : ∀ other ∈ Tree.within (rest ++ queued ++ tree.children),
      other.top.id ∉ [tree.top].map Member.id := by
    intro other member same
    refine fresh ?_
    rw [← List.mem_singleton.1 same]
    exact List.mem_map_of_mem (Tree.mem_preorder member)
  obtain ⟨reclaimed, owners, reclaim, machine, ids, destroy⟩ :=
    destroy_ok draining.first
      (nestedControl nodeType flushBound depth)
      (answerOf (nestedControl nodeType flushBound depth) nodeType)
  have children : Planted world tree.children := by
    have below := draining.below
    rw [List.flatMap_cons] at below
    exact below.left
  have kept : Planted reclaimed tree.children := by
    refine children.keep reclaim fun below member => ⟨List.not_mem_nil, others below ?_⟩
    rw [Tree.within_append]
    exact List.mem_append_right _ member
  -- the children are dropped inside the destructor, and wait behind what is in the queue
  obtain ⟨after, news, fell, progress, waiting, stack, queue⟩ :=
    queueAll (nestedControl nodeType flushBound depth)
      tree.children reclaimed owners (by rw [reclaim.config_eq, draining.timing])
      (reclaim.sound draining.sound) kept ids
  have whole : Progress world after (tree.children.map Tree.top) [tree.top] 0 := by
    simpa using reclaim.trans progress
  obtain ⟨calls, batch, active⟩ := draining.batch
  refine ⟨after, destroy after fell, whole, whole.sound draining.sound, ?_, ⟨call, calls, ?_, ?_⟩,
    ?_, ?_, ?_⟩
  · rw [whole.config_eq, draining.timing]
  · refine keep_waiting batch whole fun other member => others other (Tree.mem_within ?_)
    exact List.mem_append_left _ (List.mem_append_left _ member)
  · rw [stack, machine, active]
  · rw [queue, machine]
    have before := keep_waiting draining.waiting whole fun other member =>
      others other (Tree.mem_within (List.mem_append_left _ (List.mem_append_right _ member)))
    exact List.rel_append before waiting
  · have apart := ((Tree.preorder_perm (rest ++ queued ++ tree.children)).map
      Member.id).nodup_iff.2 nodup
    rw [List.map_append] at apart
    obtain ⟨-, distinct, apart⟩ := List.nodup_append.1 apart
    rw [← List.append_assoc]
    refine ⟨fun below member => ?_, distinct⟩
    refine (draining.rooted_below below member).keep whole (fun out => ?_) (others below ?_)
    · refine apart _ ?_ _ (List.mem_map_of_mem (Tree.mem_preorder member)) rfl
      rw [List.map_append, List.map_append]
      exact List.mem_append_right _ out
    · exact (Tree.within_perm _).mem_iff.1 (List.mem_append_right _ member)
  · rw [← List.append_assoc]
    exact nodup

private theorem keep_returned {calls : List DestructorCall} {forest : List Tree}
    (waiting : List.Forall₂ (Waits world) calls forest) (pending : List DestructorCall)
    (active : List Activation) :
    List.Forall₂ (Waits (world.countReturn.reschedule pending active)) calls forest :=
  keep_waiting waiting ((progress_returned world).reschedule pending active)
    fun _ _ => List.not_mem_nil

/-- The flush goes on with the next destructor of its batch or of the queue, or it is at its end. -/
private theorem Turning.finish (turning : Turning under ran rest queued world) :
    ∃ continuation after, Script.callMachine (·.finish) world = .ok continuation after ∧
      Progress world after [] [] 1 ∧
      ((continuation = .flushed (ran + 1) ∧ rest ++ queued = [] ∧
          after.machine.host.pending = [] ∧ after.machine.active = under) ∨
        ∃ call tree others later, continuation = .started call ∧
          rest ++ queued = tree :: (others ++ later) ∧
          Draining under (ran + 1) call tree others later after) := by
  obtain ⟨last, calls, batch, active⟩ := turning.batch
  have returned := progress_returned world
  have still : ∀ pending active, Planted (world.countReturn.reschedule pending active)
      ((rest ++ queued).flatMap Tree.children) := fun pending active =>
    turning.below.keep (returned.reschedule pending active)
      fun _ _ => ⟨List.not_mem_nil, List.not_mem_nil⟩
  cases batch with
  | @cons call tree calls others first batch =>
      have count : ran + ((tree :: others).length + 1) = ran + 1 + (others.length + 1) := by
        rw [List.length_cons]
        omega
      rw [count] at active
      have finished : world.machine.finish =
          (.started call, (world.countReturn.reschedule world.machine.host.pending
            (.flushing call calls (ran + 1 + (others.length + 1)) :: under)).machine) := by
        unfold Host.Machine.finish
        rw [active]
        rfl
      refine ⟨_, _, Script.callMachine_ok finished, returned.reschedule _ _, .inr ?_⟩
      exact ⟨call, tree, others, queued, rfl, rfl,
        { sound := turning.sound
          timing := turning.timing
          first := first.keep (returned.reschedule _ _) List.not_mem_nil
          batch := ⟨calls, keep_returned batch _ _, rfl⟩
          waiting := keep_returned turning.waiting _ _
          below := still _ _
          nodup := turning.nodup }⟩
  | nil =>
      -- the batch is at its end, and the queue becomes the next one
      have next : world.machine.finish =
          (world.countReturn.reschedule world.machine.host.pending under).machine.nextBatch
            (ran + 1) := by
        unfold Host.Machine.finish
        rw [active]
        rfl
      have waiting := turning.waiting
      cases pending : world.machine.host.pending with
      | nil =>
          rw [pending] at waiting next
          cases waiting
          refine ⟨_, _, Script.callMachine_ok next, returned.reschedule _ _, .inl ?_⟩
          exact ⟨rfl, rfl, rfl, rfl⟩
      | cons call calls =>
          rw [pending] at waiting next
          cases waiting with
          | @cons _ tree _ others first batch =>
              have same : calls.length = others.length := batch.length_eq
              have finished : world.machine.finish =
                  (.started call, (world.countReturn.reschedule []
                    (.flushing call calls (ran + 1 + (others.length + 1)) :: under)).machine) := by
                rw [next, ← same]
                rfl
              refine ⟨_, _, Script.callMachine_ok finished, returned.reschedule _ _, .inr ?_⟩
              refine ⟨call, tree, others, [], rfl, by simp, ?_⟩
              have below := still [] (.flushing call calls (ran + 1 + (others.length + 1)) :: under)
              have nodup := turning.nodup
              exact
                { sound := turning.sound
                  timing := turning.timing
                  first := first.keep (returned.reschedule _ _) List.not_mem_nil
                  batch := ⟨calls, keep_returned batch _ _, rfl⟩
                  waiting := .nil
                  below := by
                    rw [List.append_nil]
                    exact below
                  nodup := by
                    rw [List.append_nil]
                    exact nodup }

/-! ## Whole flushes -/

/-- A flush under way goes on level by level until nothing waits any more. -/
private theorem flushOn_ok (nodeType : Mode → String) (depth : Nat) {bound : Nat}
    (draining : Draining under ran call tree rest queued world)
    (enough : Tree.size (tree :: (rest ++ queued)) ≤ bound) (flushBound : Nat) :
    ∃ after released,
      flushOn (nestedControl nodeType flushBound (depth + 1)) bound
        (.started call) world = .ok (ran + Tree.size (tree :: (rest ++ queued))) after ∧
      Progress world after released ((Tree.breadthFirst (tree :: (rest ++ queued))).map Tree.top)
        (Tree.size (tree :: (rest ++ queued))) ∧
      released.Perm (Tree.preorder ((tree :: (rest ++ queued)).flatMap Tree.children)) ∧
      after.machine.host.pending = [] ∧ after.machine.active = under := by
  -- each destructor takes one registration out of the forest, so the bound lasts
  induction bound generalizing world ran call tree rest queued with
  | zero =>
      rw [Tree.size_cons] at enough
      omega
  | succ bound ih =>
      obtain ⟨done, destroyed, progress, turning⟩ := draining.run nodeType flushBound depth
      obtain ⟨continuation, next, finished, returned, going⟩ := turning.finish
      have step := progress.trans returned
      have size : Tree.size (tree :: (rest ++ queued)) =
          Tree.size (rest ++ (queued ++ tree.children)) + 1 := by
        rw [Tree.size_cons, ← List.append_assoc, Tree.size_append _ tree.children]
        omega
      have run : ∀ {count after},
          flushOn (nestedControl nodeType flushBound (depth + 1))
            bound continuation next = .ok count after →
          flushOn (nestedControl nodeType flushBound (depth + 1))
            (bound + 1) (.started call) world = .ok count after := by
        intro count after goes
        rw [flushOn]
        exact (Script.bind_ok destroyed).trans ((Script.bind_ok finished).trans goes)
      have below := Tree.preorder_below_queue tree (rest ++ queued)
      rw [List.append_assoc] at below
      rw [Tree.breadthFirst, size, List.append_assoc]
      obtain ⟨rfl, empty, pending, active⟩ |
        ⟨call, first, others, later, rfl, queue, draining⟩ := going
      · rw [empty] at below ⊢
        refine ⟨next, tree.children.map Tree.top, run (by rw [flushOn]; rfl), ?_, ?_, pending, active⟩
        · simpa [Tree.breadthFirst, Tree.size, Tree.within] using step
        · simpa [Tree.preorder, Tree.within] using below
      · rw [queue] at below ⊢
        rw [size, queue] at enough
        obtain ⟨after, released, goes, further, same, pending, active⟩ :=
          ih draining (Nat.le_of_succ_le_succ enough)
        refine ⟨after, tree.children.map Tree.top ++ released, ?_, ?_, ?_, pending, active⟩
        · rw [run goes]
          congr 1
          omega
        · have whole := step.trans further
          simpa [Nat.add_comm] using whole
        · exact (same.append_left _).trans below

theorem flush_idle (control : Control) (idle : world.machine.host.pending = []) :
    flush control world = .ok 0 world := by
  have flushed : world.machine.flush = (.flushed 0, world.machine) := by
    unfold Host.Machine.flush Host.Machine.nextBatch
    rw [idle]
  unfold flush
  rw [Script.bind_ok (Script.callMachine_ok flushed), flushOn]
  rfl

theorem flush_ok (nodeType : Mode → String) (depth : Nat) {flushBound : Nat}
    {forest : List Tree} (timing : world.machine.host.config.timing = .deferred)
    (sound : world.machine.host.table.Sound)
    (waiting : List.Forall₂ (Waits world) world.machine.host.pending forest)
    (below : Planted world (forest.flatMap Tree.children))
    (nodup : ((Tree.preorder forest).map Member.id).Nodup)
    (enough : Tree.size forest ≤ flushBound) :
    ∃ after released,
      flush (nestedControl nodeType flushBound (depth + 1)) world = .ok (Tree.size forest) after ∧
      Progress world after released (Tree.levelOrder forest) (Tree.size forest) ∧
      released.Perm (Tree.preorder (forest.flatMap Tree.children)) ∧
      after.machine.host.pending = [] ∧ after.machine.active = world.machine.active := by
  rw [Tree.levelOrder, ← Tree.breadthFirst_eq_levels]
  cases pending : world.machine.host.pending with
  | nil =>
      rw [pending] at waiting
      cases waiting
      refine ⟨world, [], flush_idle _ pending, ?_, .refl _, pending, rfl⟩
      rw [Tree.breadthFirst]
      exact .refl world
  | cons call calls =>
      rw [pending] at waiting
      cases waiting with
      | @cons _ tree _ others first batch =>
          have same : calls.length = others.length := batch.length_eq
          have flushed : world.machine.flush =
              (.started call, (world.reschedule [] (.flushing call calls (0 + (others.length + 1)) ::
                world.machine.active)).machine) := by
            unfold Host.Machine.flush Host.Machine.nextBatch
            rw [pending, ← same]
            rfl
          have start := (Progress.refl world).reschedule []
            (.flushing call calls (0 + (others.length + 1)) :: world.machine.active)
          have draining : Draining world.machine.active 0 call tree others []
              (world.reschedule [] (.flushing call calls (0 + (others.length + 1)) ::
                world.machine.active)) :=
            { sound
              timing
              first := first.keep start List.not_mem_nil
              batch := ⟨calls, keep_waiting batch start fun _ _ => List.not_mem_nil, rfl⟩
              waiting := .nil
              below := by
                rw [List.append_nil]
                exact below.keep start fun _ _ => ⟨List.not_mem_nil, List.not_mem_nil⟩
              nodup := by
                rw [List.append_nil]
                exact nodup }
          rw [← List.append_nil others] at enough ⊢
          obtain ⟨after, released, goes, progress, rest, done⟩ :=
            flushOn_ok nodeType depth draining enough flushBound
          refine ⟨after, released, ?_, ?_, rest, done⟩
          · unfold flush
            rw [Script.bind_ok (Script.callMachine_ok flushed)]
            exact goes.trans (by rw [Nat.zero_add])
          · simpa using start.trans progress

/-! ## Batches of drops -/

/-- Drops the owners of each batch and flushes after it. The answer is what the flushes say. -/
def dropInBatches (control : Control) : List (List Owner) → Script (List Nat)
  | [] => pure []
  | batch :: rest => do
      batch.forM (dropOwner control)
      let count ← flush control
      return count :: (← dropInBatches control rest)

/-- Under deferred timing each batch goes down level by level. -/
theorem dropInBatches_ok (nodeType : Mode → String) (depth : Nat) {flushBound : Nat}
    (schedule : List (List Tree)) {world : World}
    (timing : world.machine.host.config.timing = .deferred)
    (sound : world.machine.host.table.Sound) (planted : Planted world schedule.flatten)
    (idle : world.machine.host.pending = []) (enough : Tree.size schedule.flatten ≤ flushBound)
    (batches : List (List Owner))
    (same : batches.map (·.map Owner.id) = schedule.map (·.map (·.top.id))) :
    ∃ after,
      dropInBatches (nestedControl nodeType flushBound (depth + 1)) batches world =
        .ok (schedule.map Tree.size) after ∧
      Progress world after (schedule.flatMap Tree.levelOrder) (schedule.flatMap Tree.levelOrder)
        (Tree.size schedule.flatten) ∧
      after.machine.host.pending = [] ∧ after.machine.active = world.machine.active := by
  induction schedule generalizing world batches with
  | nil =>
      cases List.map_eq_nil_iff.1 same
      exact ⟨world, rfl, .refl world, idle, rfl⟩
  | cons segment schedule ih =>
      obtain ⟨batch, batches, rfl, first, later⟩ := List.map_eq_cons_iff.1 same
      rw [List.flatten_cons] at planted enough ⊢
      rw [Tree.size_append] at enough ⊢
      have front := planted.left
      obtain ⟨queued, calls, dropped, release, waiting, active, pending⟩ :=
        queueAll (nestedControl nodeType flushBound (depth + 1)) segment world batch timing sound
          front first
      rw [idle, List.nil_append] at pending
      rw [← pending] at waiting
      obtain ⟨flushed, released, ran, progress, below, empty, stack⟩ :=
        flush_ok nodeType depth (by rw [release.config_eq, timing]) (release.sound sound) waiting
          (front.below release) front.nodup (show Tree.size segment ≤ flushBound by omega)
      have order : (Tree.levelOrder segment).Perm (segment.map Tree.top ++ released) :=
        ((Tree.levels_perm segment).map Tree.top).trans
          ((below.append_left _).trans (Tree.preorder_perm segment)).symm
      have gone := (release.trans progress).perm order
      rw [List.nil_append, Nat.zero_add] at gone
      have levels : ∀ id, id ∈ (Tree.levelOrder segment).map Member.id →
          id ∈ (Tree.preorder segment).map Member.id := fun id =>
        (((Tree.levels_perm segment).map Tree.top).map Member.id).mem_iff.1
      obtain ⟨after, goes, further, done, under⟩ :=
        ih (by rw [gone.config_eq, timing]) (gone.sound sound)
          (planted.right gone fun id either => levels id (or_self_iff.1 either)) empty (by omega)
          batches later
      refine ⟨after, ?_, ?_, done, under.trans (stack.trans active)⟩
      · rw [dropInBatches]
        exact (Script.bind_ok dropped).trans
          ((Script.bind_ok ran).trans (Script.bind_ok goes))
      · exact gone.trans further

end Custody.Session
