import Custody.Proofs.Host.Destruction

/-!
# The books of a host balance

Counters, table, queue and calls under way are changed by different steps of a run. The counters
nevertheless always agree with what is there: every guest object registered is in the table, or its
drop was requested, and every drop requested waits in the queue, is in flight or is done.
-/

set_option autoImplicit false

namespace Custody.Host

@[simp]
theorem Entry.kind_exported (call : DestructorCall) : (exported call).kind = .exported := rfl

@[simp]
theorem Entry.kind_imported (name : String) : (imported name).kind = .imported := rfl

def liveOf (host : Host) (kind : Kind) : Nat := host.table.entries.countP (·.kind = kind)

theorem length_entries_eq (entries : List Entry) :
    entries.length = entries.countP (·.kind = .exported) + entries.countP (·.kind = .imported) := by
  induction entries with
  | nil => rfl
  | cons entry rest ih =>
      cases entry <;> simp at ih ⊢ <;> omega

theorem live_eq_add (host : Host) (sound : host.table.Sound) :
    host.live = host.liveOf .exported + host.liveOf .imported :=
  sound.live_eq.trans (length_entries_eq _)

theorem countP_inserted {t after : Table Entry} {entry : Entry} {slot : Nat}
    (inserted : t.Inserted entry slot after) (kind : Kind) :
    after.entries.countP (·.kind = kind) =
      t.entries.countP (·.kind = kind) + if entry.kind = kind then 1 else 0 := by
  rw [inserted.entries_perm.countP_eq, List.countP_cons]
  simp

theorem countP_removed {t after : Table Entry} {entry : Entry} {slot : Nat}
    (removed : t.Removed slot entry after) (kind : Kind) :
    t.entries.countP (·.kind = kind) =
      after.entries.countP (·.kind = kind) + if entry.kind = kind then 1 else 0 := by
  rw [removed.entries_perm.countP_eq, List.countP_cons]
  simp

namespace Chronicle

/-- The counters of the host count what happened in the run. -/
structure Balanced (config : HostConfig) (c : Chronicle) : Prop where
  registered_eq : c.machine.host.counters.registered = c.made.length
  dropRequests_eq : c.machine.host.counters.dropRequests = c.dropped.length
  destructorsRun_eq : c.machine.host.counters.destructorsRun = c.returned.length
  exported_eq : c.made.length = c.machine.host.liveOf .exported + c.dropped.length
  imported_eq : c.machine.host.counters.importsCreated =
    c.machine.host.liveOf .imported + c.machine.host.counters.importsReleased
  faults_eq : c.machine.host.counters.faults = c.taken + c.machine.host.faults.length
  capacity_eq : c.machine.host.table.capacity = config.maxHandles.toNat

theorem balanced_start (config : HostConfig) : (start config).Balanced config :=
  ⟨rfl, rfl, rfl, rfl, rfl, rfl, rfl⟩

variable {config : HostConfig} {c : Chronicle}

theorem Balanced.record (balanced : c.Balanced config) (fault : Fault) :
    (c.withHost (c.machine.host.record fault)).Balanced config :=
  { balanced with
    faults_eq := by
      simp only [withHost, Host.record, List.length_append, List.length_singleton,
        balanced.faults_eq]
      omega }

theorem Balanced.register (balanced : c.Balanced config) (consistent : c.Consistent config)
    (mode : Mode) (call : DestructorCall) : (c.perform (.register mode call)).Balanced config := by
  obtain ⟨fault, refused⟩ | ⟨h, slot, table, registered, inserted, _, names⟩ :=
    register_cases c.machine.host mode call consistent.sound
  · simpa only [perform, refused] using balanced.record fault
  · have exported := countP_inserted inserted .exported
    have imported := countP_inserted inserted .imported
    simp only [perform, registered]
    refine { balanced with
      registered_eq := ?_
      exported_eq := ?_
      imported_eq := ?_
      capacity_eq := inserted.capacity_eq.trans balanced.capacity_eq }
    · simp [withHost, balanced.registered_eq]
    · have before := balanced.exported_eq
      simp only [liveOf, withHost, List.length_append, List.length_singleton, exported,
        Entry.kind_exported, if_true] at before ⊢
      omega
    · have before := balanced.imported_eq
      simpa [liveOf, withHost, imported] using before

theorem Balanced.drop (balanced : c.Balanced config) (consistent : c.Consistent config)
    (h : Handle) : (c.perform (.drop h)).Balanced config := by
  obtain ⟨fault, refused⟩ | ⟨call, slot, table, taken, names, removed⟩ :=
    unregister_cases c.machine.host h consistent.sound
  · simpa only [perform, refused] using balanced.record fault
  · obtain ⟨n, _, _, performed⟩ := consistent.perform_drop taken names
    have exported := countP_removed removed .exported
    have imported := countP_removed removed .imported
    rw [performed]
    refine { balanced with
      dropRequests_eq := ?_
      exported_eq := ?_
      imported_eq := ?_
      capacity_eq := removed.capacity_eq.trans balanced.capacity_eq }
    · simp [withHost, balanced.dropRequests_eq]
    · have before := balanced.exported_eq
      simp only [liveOf, withHost, List.length_append, List.length_singleton, exported,
        Entry.kind_exported, if_true] at before ⊢
      omega
    · have before := balanced.imported_eq
      simpa [liveOf, withHost, imported] using before

theorem Balanced.lend (balanced : c.Balanced config) (consistent : c.Consistent config)
    (mode : Mode) (name : String) : (c.perform (.lend mode name)).Balanced config := by
  obtain ⟨fault, refused⟩ | ⟨h, slot, table, lent, inserted, names⟩ :=
    lend_cases c.machine.host mode name consistent.sound
  · simpa only [perform, refused] using balanced
  · have exported := countP_inserted inserted .exported
    have imported := countP_inserted inserted .imported
    simp only [perform, lent]
    refine { balanced with
      exported_eq := ?_
      imported_eq := ?_
      capacity_eq := inserted.capacity_eq.trans balanced.capacity_eq }
    · have before := balanced.exported_eq
      simpa [liveOf, withHost, exported] using before
    · have before := balanced.imported_eq
      simp only [liveOf, withHost, imported, Entry.kind_imported, if_true] at before ⊢
      omega

theorem Balanced.release (balanced : c.Balanced config) (consistent : c.Consistent config)
    (h : Handle) : (c.perform (.release h)).Balanced config := by
  obtain ⟨fault, refused⟩ | ⟨slot, name, table, given, names, removed⟩ :=
    release_cases c.machine.host h consistent.sound
  · simpa only [perform, refused] using balanced.record fault
  · have exported := countP_removed removed .exported
    have imported := countP_removed removed .imported
    simp only [perform, given]
    refine { balanced with
      exported_eq := ?_
      imported_eq := ?_
      capacity_eq := removed.capacity_eq.trans balanced.capacity_eq }
    · have before := balanced.exported_eq
      simpa [liveOf, withHost, exported] using before
    · have before := balanced.imported_eq
      simp only [liveOf, withHost, imported, Entry.kind_imported, if_true] at before ⊢
      omega

theorem Balanced.finish (balanced : c.Balanced config) (consistent : c.Consistent config) :
    (c.perform .finish).Balanced config := by
  cases innermost : c.frames with
  | nil => simpa only [perform, innermost] using balanced
  | cons frame frames =>
      obtain ⟨_, _, running⟩ := consistent.exists_active innermost
      obtain ⟨_, _, _, _, _, _, finished⟩ := finish_frame c innermost running
      rw [finished]
      exact { balanced with
        destructorsRun_eq := by simp [balanced.destructorsRun_eq] }

theorem Balanced.step (balanced : c.Balanced config) (consistent : c.Consistent config)
    (request : Request) : (c.step request).Balanced config := by
  cases held : c.held with
  | some place =>
      obtain ⟨n, call⟩ := place
      cases request with
      | settle =>
          obtain ⟨_, _, _, _, _, _, settled⟩ := settle_frame c n call
          simp only [Chronicle.step, held, settled]
          exact { balanced with }
      | _ => simpa only [Chronicle.step, held] using balanced
  | none =>
      simp only [Chronicle.step, held]
      cases request with
      | register mode call => exact balanced.register consistent mode call
      | drop h => exact balanced.drop consistent h
      | settle | rep h => exact balanced
      | lend mode name => exact balanced.lend consistent mode name
      | release h => exact balanced.release consistent h
      | flush =>
          obtain ⟨_, _, _, _, _, _, flushed⟩ := flush_frame c
          rw [flushed]
          exact { balanced with }
      | takeFaults => exact { balanced with faults_eq := balanced.faults_eq }
      | finish => exact balanced.finish consistent

theorem balanced_run (config : HostConfig) (requests : List Request) :
    (run config requests).Consistent config ∧ (run config requests).Balanced config := by
  refine @run_induction (fun c => c.Consistent config ∧ c.Balanced config) config
    ⟨consistent_start config, balanced_start config⟩ ?_ requests
  intro c request ⟨consistent, balanced⟩
  exact ⟨consistent.step request, balanced.step consistent request⟩

/-! ## Drop requests that are neither waiting nor done -/

theorem Consistent.length_dropped (consistent : c.Consistent config) :
    c.dropped.length = c.queued.length + c.returned.length + c.inFlight.length := by
  -- what waits elsewhere than in the queue, and what runs, is in flight
  let others := c.frames.flatMap Frame.rest ++ c.held.toList.map Prod.fst ++
    c.frames.map Frame.running
  have account : c.dropped.Perm (c.queued ++ (c.returned ++ others)) := by
    refine List.perm_iff_count.2 fun n => ?_
    have dropped := consistent.dropped_perm.count_eq n
    have started := consistent.started_perm.count_eq n
    simp only [waiting, others, List.count_append] at dropped started ⊢
    omega
  have apart := List.nodup_append.1 (account.nodup_iff.1 consistent.dropped_nodup)
  have apart' := List.nodup_append.1 apart.2.1
  have flight : c.inFlight.Perm others := by
    refine (account.filter _).trans (.of_eq ?_)
    rw [List.filter_append, List.filter_append, List.filter_eq_nil_iff.2 (by simp +contextual),
      List.filter_eq_nil_iff.2 (by simp +contextual), List.nil_append, List.nil_append,
      List.filter_eq_self]
    intro n member
    have unqueued : n ∉ c.queued := fun queued =>
      apart.2.2 n queued n (List.mem_append_right _ member) rfl
    have running : n ∉ c.returned := fun returned => apart'.2.2 n returned n member rfl
    simp [unqueued, running]
  rw [account.length_eq, flight.length_eq, List.length_append, List.length_append, Nat.add_assoc]

/-- The counters of a host account for its table, its queue, its faults and the destructors that run,
at every point of every run. With no call under way nothing is in flight. -/
theorem run_balances (config : HostConfig) (requests : List Request) :
    let c := run config requests
    let host := c.machine.host
    (host.counters.registered =
        host.liveOf .exported + host.pending.length + host.counters.destructorsRun +
          c.inFlight.length) ∧
      (host.counters.dropRequests =
        host.pending.length + host.counters.destructorsRun + c.inFlight.length) ∧
      host.counters.importsCreated = host.liveOf .imported + host.counters.importsReleased ∧
      host.live = host.liveOf .exported + host.liveOf .imported ∧
      host.live ≤ config.maxHandles.toNat ∧
      host.counters.faults = c.taken + host.faults.length ∧
      (config.timing = .immediate → host.pending = []) ∧
      List.Forall₂ (Stands c.made) c.queued host.pending ∧
      (c.held = none → c.machine.active = [] → c.inFlight = []) := by
  obtain ⟨consistent, balanced⟩ := balanced_run config requests
  generalize run config requests = c at consistent balanced
  have queued : c.queued.length = c.machine.host.pending.length :=
    consistent.queued_stands.length_eq
  have dropped := consistent.length_dropped
  refine ⟨?_, ?_, balanced.imported_eq, live_eq_add _ consistent.sound, ?_, balanced.faults_eq, ?_,
    consistent.queued_stands, ?_⟩
  · rw [balanced.registered_eq, balanced.exported_eq, balanced.destructorsRun_eq]
    omega
  · rw [balanced.dropRequests_eq, balanced.destructorsRun_eq]
    omega
  · exact balanced.capacity_eq ▸ consistent.sound.live_le
  · intro immediate
    rw [← List.length_eq_zero_iff, ← queued, (consistent.immediate immediate).1]
    rfl
  · intro free idle
    obtain ⟨waiting, returned⟩ := consistent.settled free idle
    have account := consistent.dropped_perm.length_eq
    rw [List.length_append, waiting, returned.length_eq] at account
    exact List.length_eq_zero_iff.1 (by omega)

end Chronicle

end Custody.Host
