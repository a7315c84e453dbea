import Mathlib
import Custody.Proofs.Host.Chronicle

/-!
# Room in a table

A table makes a new slot only when each of its slots has an entry. So it never has more slots than it
may hold entries, and the number of a slot that it hands out is below its capacity. An operation of a
host leaves the table alone, fills one slot of it, or frees one, and it never changes the
configuration; what these three keep, a host keeps.
-/

set_option autoImplicit false

namespace Custody.Host

namespace Table

variable {α : Type} {t after : Table α} {entry : α} {slot : Nat}

/-- A sound table that has no more slots than it may hold entries. -/
structure Compact (t : Table α) : Prop where
  sound : t.Sound
  size_le : t.slots.size ≤ t.capacity

theorem compact_empty (capacity : Nat) : (empty capacity : Table α).Compact :=
  ⟨sound_empty capacity, Nat.zero_le _⟩

theorem Compact.inserted (compact : t.Compact) (inserted : t.insert entry = .ok (slot, after)) :
    after.Compact ∧ slot < after.slots.size ∧
      ∀ other, other < after.slots.size → other < t.slots.size ∨ other = slot := by
  have sound := (inserted_of_insert compact.sound inserted).sound
  unfold insert at inserted
  split at inserted
  · cases inserted
  · rename_i limited
    split at inserted
    · rename_i first freed free
      cases inserted
      have own : slot < t.slots.size :=
        slot_lt t ((compact.sound.mem_freed_iff slot).1 (by simp [free]))
      refine ⟨⟨sound, ?_⟩, ?_, fun other inside => .inl ?_⟩
      · simpa using compact.size_le
      · simpa using own
      · simpa using inside
    · rename_i full
      have occupied := live_eq_size compact.sound full
      split at inserted
      · cases inserted
        refine ⟨⟨sound, ?_⟩, ?_, fun other inside => ?_⟩
        · simp only [Array.size_push]
          omega
        · simp
        · simp only [Array.size_push] at inside
          omega
      · cases inserted

theorem Compact.removed (compact : t.Compact) (removed : t.remove slot = .ok (entry, after)) :
    after.Compact ∧ after.slots.size = t.slots.size := by
  unfold remove at removed
  split at removed
  · rename_i found present
    cases removed
    obtain ⟨table, taken, spec⟩ := removed_of_get? compact.sound present
    unfold remove at taken
    rw [present] at taken
    cases taken
    refine ⟨⟨spec.sound, ?_⟩, spec.size_eq⟩
    rw [spec.size_eq]
    exact compact.size_le
  · cases removed

/-- With room for one more, an entry goes to a slot that the table has, or to the next one. -/
theorem insert_ok (sound : t.Sound) (below : t.live < t.capacity) (fresh : t.live < slotLimit)
    (entry : α) :
    ∃ slot after, t.insert entry = .ok (slot, after) ∧ (slot < t.slots.size ∨ slot = t.live) := by
  unfold insert
  rw [if_neg (Nat.not_le.2 below)]
  cases free : t.freed with
  | cons slot freed =>
      have own := slot_lt _ ((sound.mem_freed_iff slot).1 (by simp [free]))
      exact ⟨slot, _, rfl, .inl own⟩
  | nil =>
      have size := live_eq_size sound free
      exact ⟨t.slots.size, _, if_pos (size ▸ fresh), .inr size.symm⟩

/-- A table after an operation of a host that uses a representation. -/
inductive Rearranged (mode : Mode) (t : Table α) : Table α → Prop where
  | kept : Rearranged mode t t
  | filled {entry : α} {slot : Nat} {h : Handle} {after : Table α}
      (inserted : t.insert entry = .ok (slot, after)) (named : Handle.ofSlot? mode slot = some h) :
      Rearranged mode t after
  | freed {entry : α} {slot : Nat} {after : Table α}
      (removed : t.remove slot = .ok (entry, after)) : Rearranged mode t after

theorem Compact.rearranged {mode : Mode} (compact : t.Compact) (changed : t.Rearranged mode after) :
    after.Compact := by
  cases changed with
  | kept => exact compact
  | filled inserted _ => exact (compact.inserted inserted).1
  | freed removed => exact (compact.removed removed).1

/-- A slot that is filled has a handle, so if all slots have one they still do. -/
theorem Compact.nameable {mode : Mode} (compact : t.Compact) (changed : t.Rearranged mode after)
    (nameable : ∀ slot, slot < t.slots.size → ∃ h, Handle.ofSlot? mode slot = some h) :
    ∀ slot, slot < after.slots.size → ∃ h, Handle.ofSlot? mode slot = some h := by
  cases changed with
  | kept => exact nameable
  | filled inserted named =>
      intro slot inside
      obtain old | rfl := (compact.inserted inserted).2.2 slot inside
      · exact nameable slot old
      · exact ⟨_, named⟩
  | freed removed =>
      rw [(compact.removed removed).2]
      exact nameable

theorem Rearranged.capacity_eq {mode : Mode} (changed : t.Rearranged mode after) (sound : t.Sound) :
    after.capacity = t.capacity := by
  cases changed with
  | kept => rfl
  | filled inserted _ => exact (inserted_of_insert sound inserted).capacity_eq
  | freed removed =>
      unfold remove at removed
      split at removed <;> cases removed
      rfl

end Table

/-! ## What operations do to a table -/

structure Operated (host after : Host) : Prop where
  config_eq : after.config = host.config
  table : host.table.Rearranged host.config.mode after.table

namespace Operated

theorem of_eq {host after : Host} (config : after.config = host.config)
    (table : after.table = host.table) : host.Operated after :=
  ⟨config, table ▸ .kept⟩

theorem insert {host after : Host} {mode : Mode} {entry : Entry} {h : Handle}
    (inserted : host.insert mode entry = .ok (h, after)) : host.Operated after := by
  obtain ⟨slot, table, filled, named, rfl, rfl⟩ := insert_eq_ok inserted
  exact ⟨rfl, .filled filled named⟩

theorem vacate {host after : Host} {slot : Nat} (vacated : host.vacate slot = .ok after) :
    host.Operated after := by
  obtain ⟨⟨entry, table⟩, removed, same⟩ := except_bind_eq_ok vacated
  cases same
  exact ⟨rfl, .freed removed⟩

theorem register (host : Host) (mode : Mode) (call : DestructorCall) :
    host.Operated (host.register mode call).2 := by
  unfold Host.register
  split
  · rename_i inserted
    have operated := Operated.insert inserted
    exact ⟨operated.config_eq, operated.table⟩
  · exact of_eq rfl rfl

theorem unregister (host : Host) (h : Handle) : host.Operated (host.unregister h).2 := by
  unfold Host.unregister
  dsimp only
  split
  · rename_i removal
    obtain ⟨⟨slot, call⟩, -, removal⟩ := except_bind_eq_ok removal
    obtain ⟨after, removed, same⟩ := except_bind_eq_ok removal
    cases same
    have operated := Operated.vacate removed
    exact ⟨operated.config_eq, operated.table⟩
  · exact of_eq rfl rfl

theorem lend {host after : Host} {mode : Mode} {name : String} {h : Handle}
    (lent : host.lend mode name = .ok (h, after)) : host.Operated after := by
  obtain ⟨⟨handle, middle⟩, inserted, same⟩ := except_bind_eq_ok lent
  cases same
  have operated := Operated.insert inserted
  exact ⟨operated.config_eq, operated.table⟩

theorem release (host : Host) (h : Handle) : host.Operated (host.release h).2 := by
  unfold Host.release
  dsimp only
  split
  · rename_i removal
    obtain ⟨⟨slot, name⟩, -, removed⟩ := except_bind_eq_ok removal
    have operated := Operated.vacate removed
    exact ⟨operated.config_eq, operated.table⟩
  · exact of_eq rfl rfl

theorem drop (m : Machine) (h : Handle) : m.host.Operated (m.drop h).2.host := by
  have operated := Operated.unregister m.host h
  unfold Machine.drop
  split <;> rename_i taken <;> rw [taken] at operated
  · exact operated
  · rename_i call host
    obtain ⟨pending, active, settled⟩ := Machine.settle_frame { m with host } call
    rw [settled]
    exact ⟨operated.config_eq, operated.table⟩

theorem nextBatch (m : Machine) (total : Nat) : m.host.Operated (m.nextBatch total).2.host := by
  obtain ⟨pending, active, taken⟩ := m.nextBatch_frame total
  rw [taken]
  exact of_eq rfl rfl

theorem flush (m : Machine) : m.host.Operated m.flush.2.host := nextBatch m 0

theorem finish (m : Machine) : m.host.Operated m.finish.2.host := by
  cases active : m.active with
  | nil =>
      unfold Machine.finish
      rw [active]
      exact of_eq rfl rfl
  | cons activation under =>
      obtain ⟨pending, active, finished⟩ := m.finish_frame (by simp [active])
      rw [finished]
      exact of_eq rfl rfl

end Operated

/-! ## Handles for every slot -/

/-- A host whose table is compact and has slots only that a handle can name. -/
structure Fits (host : Host) : Prop where
  compact : host.table.Compact
  nameable : ∀ slot, slot < host.table.slots.size →
    ∃ h, Handle.ofSlot? host.config.mode slot = some h

/-- So many more entries can be registered, whichever representation the host uses. -/
structure HasRoom (host : Host) (count : Nat) : Prop where
  capacity : host.live + count ≤ host.table.capacity
  nameable : host.live + count ≤ 2 ^ 31

theorem hasRoom_iff (host : Host) (count : Nat) (some : 0 < count) :
    host.HasRoom count ↔ count ≤ min host.table.capacity (2 ^ 31) - host.live := by
  constructor
  · intro room
    have capacity := room.capacity
    have nameable := room.nameable
    omega
  · intro enough
    constructor <;> omega

variable {host after : Host}

theorem fits_install (config : HostConfig) : (install config).Fits :=
  ⟨Table.compact_empty _, nofun⟩

theorem Fits.operated (fits : host.Fits) (operated : host.Operated after) : after.Fits where
  compact := fits.compact.rearranged operated.table
  nameable := by
    rw [operated.config_eq]
    exact fits.compact.nameable operated.table fits.nameable

theorem insert_of_named {table : Table Entry} {entry : Entry} {slot : Nat} {h : Handle}
    (inserted : host.table.insert entry = .ok (slot, table))
    (named : Handle.ofSlot? host.config.mode slot = some h) :
    host.insert host.config.mode entry = .ok (h, { host with table }) := by
  unfold insert
  rw [(checkMode_eq_ok_iff host host.config.mode).2 rfl, inserted]
  simp only [bind, Except.bind, named]

theorem Fits.insert_ok (fits : host.Fits) (room : host.HasRoom 1) (entry : Entry) :
    ∃ h after, host.insert host.config.mode entry = .ok (h, after) := by
  have below : host.table.live < host.table.capacity := room.capacity
  have small : host.table.live < 2 ^ 31 := room.nameable
  have fresh : host.table.live < Table.slotLimit := by
    unfold Table.slotLimit
    omega
  obtain ⟨slot, table, inserted, place⟩ :=
    Table.insert_ok fits.compact.sound below fresh entry
  obtain ⟨h, named⟩ : ∃ h, Handle.ofSlot? host.config.mode slot = some h := by
    obtain own | rfl := place
    · exact fits.nameable slot own
    · cases host.config.mode with
      | integer => exact ⟨_, if_pos small⟩
      | pointer => exact ⟨_, if_pos fresh⟩
  exact ⟨h, _, insert_of_named inserted named⟩

theorem register_full (full : host.table.capacity ≤ host.live) (call : DestructorCall) :
    host.register host.config.mode call =
      (.error (.tableFull host.table.capacity), host.record (.tableFull host.table.capacity)) := by
  have refused : host.insert host.config.mode (.exported call) =
      .error (.tableFull host.table.capacity) := by
    have inserted : host.table.insert (.exported call) = .error (.tableFull host.table.capacity) :=
      if_pos full
    unfold insert
    rw [(checkMode_eq_ok_iff host host.config.mode).2 rfl, inserted]
    rfl
  unfold register
  rw [refused]

namespace Chronicle

variable {c : Chronicle}

private theorem fits_perform (fits : c.machine.host.Fits) (request : Request) :
    (c.perform request).machine.host.Fits := by
  cases request with
  | rep h => exact fits
  | settle => exact fits
  | takeFaults => exact fits.operated (.of_eq rfl rfl)
  | release h => exact fits.operated (.release _ h)
  | register mode call =>
      have operated := Operated.register c.machine.host mode call
      dsimp only [perform]
      generalize c.machine.host.register mode call = result at operated ⊢
      obtain ⟨answer, host⟩ := result
      cases answer <;> exact fits.operated operated
  | drop h =>
      have operated := Operated.unregister c.machine.host h
      dsimp only [perform]
      generalize c.machine.host.unregister h = result at operated ⊢
      obtain ⟨answer, host⟩ := result
      cases answer <;> exact fits.operated operated
  | lend mode name =>
      dsimp only [perform]
      cases lent : c.machine.host.lend mode name with
      | ok success => exact fits.operated (.lend lent)
      | error fault => exact fits
  | flush =>
      obtain ⟨_, _, _, _, _, -, flushed⟩ := c.flush_frame
      rw [flushed]
      exact fits.operated (.of_eq rfl rfl)
  | finish =>
      dsimp only [perform]
      cases c.frames with
      | nil => exact fits
      | cons frame frames =>
          obtain ⟨_, _, _, -, resumed⟩ := resume_frame
            { c with machine := c.machine.finish.2, frames, returned := c.returned ++ [frame.running] }
            frame.rest c.machine.finish.1
          dsimp only
          rw [resumed]
          exact fits.operated (.finish c.machine)

/-- The table of a host fits whatever guest code has asked for. -/
theorem fits_run (config : HostConfig) (requests : List Request) :
    (run config requests).machine.host.Fits := by
  refine @run_induction (fun c => c.machine.host.Fits) config (fits_install config)
    (fun c request fits => ?_) requests
  unfold step
  split
  · rename_i n call _
    obtain ⟨_, _, _, _, _, -, settled⟩ := c.settle_frame n call
    rw [settled]
    exact fits.operated (.of_eq rfl rfl)
  · exact fits
  · exact fits_perform fits _

end Chronicle

end Custody.Host
