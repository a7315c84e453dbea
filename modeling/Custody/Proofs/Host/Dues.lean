import Custody.Proofs.Host.Calls
import Custody.Proofs.Host.Installation

/-!
# Destructors that are due

A host is to call one destructor for each object in its table and for each object whose drop it was
asked for before. A call of the host brings in the object that it registers and starts at most one
destructor; the others stay due, unless the host is replaced.
-/

set_option autoImplicit false

namespace Custody.Host

/-! ## What is due -/

def Entry.call? : Entry → Option DestructorCall
  | .exported call => some call
  | .imported _ => none

def Call.installs : Call → Nat
  | .install _ => 1
  | _ => 0

namespace Machine

/-- The destructors that are still to be started: of the objects in the table, and of those that
wait. -/
def due (m : Machine) : List DestructorCall :=
  m.host.table.entries.filterMap Entry.call? ++ m.waiting

theorem length_due (m : Machine) :
    m.due.length = m.host.liveOf .exported + m.waiting.length := by
  have calls : ∀ entries : List Entry,
      (entries.filterMap Entry.call?).length = entries.countP (·.kind = .exported) := by
    intro entries
    rw [List.length_filterMap_eq_countP]
    refine List.countP_congr fun entry _ => ?_
    cases entry <;> simp [Entry.call?, Entry.kind]
  rw [due, List.length_append, calls]
  rfl

/-- The object that a call registers, if the host accepts it. -/
def lodged (m : Machine) : Call → Option DestructorCall
  | .register mode call =>
      match (m.host.register mode call).1 with
      | .ok _ => some call
      | .error _ => none
  | _ => none

variable {m : Machine}

theorem register_of_lodged {call : Call} {new : DestructorCall} (lodged : m.lodged call = some new) :
    ∃ mode, call = .register mode new := by
  unfold Machine.lodged at lodged
  split at lodged
  · split at lodged
    · cases lodged
      exact ⟨_, rfl⟩
    · cases lodged
  · cases lodged

private theorem due_register (sound : m.host.table.Sound) (mode : Mode) (call : DestructorCall) :
    (m.ask (.register mode call)).2.due.Perm ((m.lodged (.register mode call)).toList ++ m.due) := by
  obtain ⟨fault, refused⟩ | ⟨h, slot, table, accepted, inserted, _⟩ :=
    register_cases m.host mode call sound
  · simp only [ask, lodged, refused]
    exact .refl _
  · simp only [ask, lodged, accepted]
    exact (inserted.entries_perm.filterMap Entry.call?).append_right _

private theorem due_drop (sound : m.host.table.Sound) (h : Handle) :
    ((m.drop h).1.started?.toList ++ (m.drop h).2.due).Perm m.due := by
  obtain ⟨fault, refused⟩ | ⟨_, _, _, _, names, _⟩ := unregister_cases m.host h sound
  · simp only [drop, refused]
    exact .refl _
  · obtain ⟨table, pending, active, removed, frame, waiting⟩ := names.drop_frame sound
    have kept : (m.drop h).2.due = table.entries.filterMap Entry.call? ++ (m.drop h).2.waiting := by
      rw [due, frame]
    rw [kept]
    have taken := removed.entries_perm.filterMap Entry.call?
    refine .trans ?_ (taken.symm.append_right m.waiting)
    refine .trans ?_ ((waiting.append_left _).trans List.perm_middle)
    rw [← List.append_assoc, ← List.append_assoc]
    exact List.perm_append_comm.append_right _

private theorem due_lend (sound : m.host.table.Sound) (mode : Mode) (name : String) :
    (m.ask (.lend mode name)).2.due.Perm m.due := by
  obtain ⟨fault, refused⟩ | ⟨h, slot, table, lent, inserted, _⟩ := lend_cases m.host mode name sound
  · simp only [ask, refused]
    exact .refl _
  · simp only [ask, lent]
    exact (inserted.entries_perm.filterMap Entry.call?).append_right _

private theorem due_release (sound : m.host.table.Sound) (h : Handle) :
    (m.ask (.release h)).2.due.Perm m.due := by
  obtain ⟨fault, refused⟩ | ⟨slot, name, table, given, _, removed⟩ := release_cases m.host h sound
  · simp only [ask, refused]
    exact .refl _
  · simp only [ask, given]
    exact (removed.entries_perm.filterMap Entry.call?).symm.append_right _

private theorem due_continued {after : Machine} {continuation : Continuation}
    (table : after.host.table = m.host.table)
    (waiting : (continuation.started?.toList ++ after.waiting).Perm m.waiting) :
    (continuation.started?.toList ++ after.due).Perm m.due := by
  unfold due
  rw [table]
  refine .trans ?_ (waiting.append_left _)
  rw [← List.append_assoc, ← List.append_assoc]
  exact List.perm_append_comm.append_right _

private theorem finish_table (m : Machine) : m.finish.2.host.table = m.host.table := by
  cases active : m.active with
  | nil => simp only [finish, active]
  | cons activation under =>
      obtain ⟨pending, active, finished⟩ := m.finish_frame (by simp [active])
      rw [finished]

/-- A call of the host brings in the object that it registers, and no other. Only an installation
loses destructors that were due. -/
theorem ask_due (sound : m.host.table.Sound) (call : Call) :
    ((m.ask call).1.started?.toList ++ (m.ask call).2.due).Subperm
      ((m.lodged call).toList ++ m.due) := by
  cases call with
  | register mode call => exact (due_register sound mode call).subperm
  | drop h => exact (due_drop sound h).subperm
  | lend mode name =>
      have silent : (m.ask (.lend mode name)).1.started? = none := by
        simp only [ask]
        split <;> rfl
      rw [silent]
      exact (due_lend sound mode name).subperm
  | release h => exact (due_release sound h).subperm
  | flush =>
      obtain ⟨pending, active, frame⟩ := m.flush_frame
      exact (due_continued (by rw [frame]) m.flush_waiting).subperm
  | finish => exact (due_continued m.finish_table m.finish_waiting).subperm
  | install config =>
      have queued : (m.install config).due.Sublist m.due :=
        .append (List.nil_sublist _) (List.sublist_append_right _ _)
      exact queued.subperm
  | rep | takeFaults | counters | settings | census => exact .refl _

/-! ## What a host counts -/

/-- The counters after a call: what it registered is counted, and a destructor that is called is under
way until it returns and is counted then. -/
structure Counted (m : Machine) (call : Call) : Prop where
  registered_eq : (m.ask call).2.host.counters.registered =
    m.host.counters.registered + (m.lodged call).toList.length
  returned_eq : (m.ask call).2.host.counters.destructorsRun + (m.ask call).2.active.length =
    m.host.counters.destructorsRun + m.active.length + (m.ask call).1.started?.toList.length

private theorem counted_drop (sound : m.host.table.Sound) (h : Handle) : m.Counted (.drop h) := by
  have called := m.drop_active h
  obtain ⟨fault, refused⟩ | ⟨_, _, _, _, names, _⟩ := unregister_cases m.host h sound
  · constructor <;> simp only [ask, drop, refused] <;> rfl
  · obtain ⟨table, pending, active, _, frame, _⟩ := names.drop_frame sound
    refine ⟨by simp only [ask, frame]; rfl, ?_⟩
    have uncounted : (m.drop h).2.host.counters.destructorsRun =
        m.host.counters.destructorsRun := by
      rw [frame]
    simp only [ask, Response.started?]
    omega

private theorem counted_flush (m : Machine) : m.Counted .flush := by
  have called := m.nextBatch_active 0
  obtain ⟨pending, active, frame⟩ := m.flush_frame
  refine ⟨by simp only [ask, frame]; rfl, ?_⟩
  have uncounted : (m.nextBatch 0).2.host.counters.destructorsRun =
      m.host.counters.destructorsRun := by
    change m.flush.2.host.counters.destructorsRun = _
    rw [frame]
  simp only [ask, Response.started?, flush]
  omega

private theorem counted_finish (m : Machine) : m.Counted .finish := by
  cases active : m.active with
  | nil =>
      refine ⟨?_, ?_⟩ <;> simp only [ask, finish, active] <;> rfl
  | cons activation under =>
      have running : m.active ≠ [] := by simp [active]
      have called := finish_active running
      obtain ⟨pending, stack, frame⟩ := m.finish_frame running
      refine ⟨by simp only [ask, frame]; rfl, ?_⟩
      have counted : m.finish.2.host.counters.destructorsRun =
          m.host.counters.destructorsRun + 1 := by
        rw [frame]
      simp only [ask, Response.started?]
      omega

/-- A host that is not replaced counts what it registers and what returns to it. -/
theorem ask_counted (sound : m.host.table.Sound) {call : Call} (kept : call.installs = 0) :
    m.Counted call := by
  cases call with
  | register mode call =>
      obtain ⟨fault, refused⟩ | ⟨h, slot, table, accepted, _⟩ := register_cases m.host mode call sound
      · constructor <;> simp only [ask, lodged, refused] <;> rfl
      · constructor <;> simp only [ask, lodged, accepted] <;> rfl
  | drop h => exact counted_drop sound h
  | lend mode name =>
      obtain ⟨fault, refused⟩ | ⟨h, slot, table, lent, _⟩ := lend_cases m.host mode name sound
      · constructor <;> simp only [ask, refused] <;> rfl
      · constructor <;> simp only [ask, lent] <;> rfl
  | release h =>
      obtain ⟨fault, refused⟩ | ⟨slot, name, table, given, _⟩ := release_cases m.host h sound
      · constructor <;> simp only [ask, refused] <;> rfl
      · constructor <;> simp only [ask, given] <;> rfl
  | flush => exact counted_flush m
  | finish => exact counted_finish m
  | install config => cases kept
  | rep | takeFaults | counters | settings | census => exact ⟨rfl, rfl⟩

end Machine

end Custody.Host
