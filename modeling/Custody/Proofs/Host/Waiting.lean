import Mathlib.Data.List.Basic
import Custody.Proofs.Host.Operations

/-!
# Destructors that wait

A destructor that was taken out of the table waits in the queue or in the rest of a batch until it is
started. Going on with a call moves destructors between these places and starts at most one of them;
none is lost and none comes back. Apart from the queue and one counter the host stays as it is.
-/

set_option autoImplicit false

namespace Custody.Host

def Activation.rest : Activation → List DestructorCall
  | .dropping _ => []
  | .flushing _ rest _ => rest

def DropOutcome.started? : DropOutcome → Option DestructorCall
  | .started call => some call
  | .rejected _ | .queued => none

def Continuation.started? : Continuation → Option DestructorCall
  | .started call => some call
  | .dropped | .flushed _ | .idle => none

namespace Machine

/-- The destructors that are still to be started. -/
def waiting (m : Machine) : List DestructorCall :=
  m.host.pending ++ m.active.flatMap Activation.rest

theorem settle_frame (m : Machine) (call : DestructorCall) :
    ∃ pending active, (m.settle call).2 = { host := { m.host with pending }, active } := by
  unfold settle
  cases m.host.config.timing with
  | immediate => exact ⟨_, _, rfl⟩
  | deferred => exact ⟨_, _, rfl⟩

theorem nextBatch_frame (m : Machine) (total : Nat) :
    ∃ pending active, (m.nextBatch total).2 = { host := { m.host with pending }, active } := by
  unfold nextBatch
  split <;> exact ⟨_, _, rfl⟩

theorem flush_frame (m : Machine) :
    ∃ pending active, m.flush.2 = { host := { m.host with pending }, active } :=
  m.nextBatch_frame 0

theorem finish_frame (m : Machine) (running : m.active ≠ []) :
    ∃ pending active, m.finish.2 =
      { host :=
          { m.host with
            pending
            counters.destructorsRun := m.host.counters.destructorsRun + 1 }
        active } := by
  unfold finish
  cases active : m.active with
  | nil => exact absurd active running
  | cons activation under =>
      cases activation with
      | dropping call => exact ⟨_, _, rfl⟩
      | flushing call rest total =>
          cases rest with
          | nil => exact nextBatch_frame _ total
          | cons next rest => exact ⟨_, _, rfl⟩

/-! ## No destructor is lost -/

theorem settle_waiting (m : Machine) (call : DestructorCall) :
    ((m.settle call).1.started?.toList ++ (m.settle call).2.waiting).Perm (call :: m.waiting) := by
  unfold settle
  cases m.host.config.timing with
  | immediate => exact .refl _
  | deferred =>
      simp only [DropOutcome.started?, waiting, Option.toList_none, List.nil_append,
        List.append_assoc]
      exact List.perm_middle

theorem nextBatch_waiting (m : Machine) (total : Nat) :
    ((m.nextBatch total).1.started?.toList ++ (m.nextBatch total).2.waiting).Perm m.waiting := by
  unfold nextBatch
  cases pending : m.host.pending with
  | nil => exact .refl _
  | cons call rest =>
      simp only [Continuation.started?, waiting, pending]
      exact .refl _

theorem flush_waiting (m : Machine) :
    (m.flush.1.started?.toList ++ m.flush.2.waiting).Perm m.waiting :=
  m.nextBatch_waiting 0

theorem finish_waiting (m : Machine) :
    (m.finish.1.started?.toList ++ m.finish.2.waiting).Perm m.waiting := by
  unfold finish
  cases active : m.active with
  | nil => exact .refl _
  | cons activation under =>
      cases activation with
      | dropping call =>
          simp only [Continuation.started?, waiting, active]
          exact .refl _
      | flushing call rest total =>
          cases rest with
          | nil =>
              refine (nextBatch_waiting _ total).trans ?_
              simp only [waiting, active]
              exact .refl _
          | cons next rest =>
              simp only [Continuation.started?, waiting, active, List.flatMap_cons, Activation.rest,
                List.cons_append, Option.toList_some, List.nil_append]
              exact List.perm_middle.symm

end Machine

theorem Names.drop_frame {m : Machine} {h : Handle} {slot : Nat} {call : DestructorCall}
    (names : m.host.Names h slot (.exported call)) (sound : m.host.table.Sound) :
    ∃ table pending active, m.host.table.Removed slot (.exported call) table ∧
      (m.drop h).2 =
        { host :=
            { m.host with
              table
              pending
              counters.dropRequests := m.host.counters.dropRequests + 1 }
          active } ∧
      ((m.drop h).1.started?.toList ++ (m.drop h).2.waiting).Perm (call :: m.waiting) := by
  obtain ⟨table, removed, dropped⟩ := names.drop sound
  obtain ⟨pending, active, settled⟩ := Machine.settle_frame
    { m with
      host := { m.host with table, counters.dropRequests := m.host.counters.dropRequests + 1 } }
    call
  rw [dropped]
  exact ⟨table, pending, active, removed, settled, Machine.settle_waiting _ call⟩

end Custody.Host
