import Custody.Proofs.Host.Chronicle

/-!
# Destruction happens once

The numbers of a chronicle stand for what the host keeps: the entries of the table, the queue, the
batches of the calls under way and the destructor in the hand of a drop request. Each step moves at
most one registration on, from the table to a place where its destructor waits, or from there to the
start of its destructor. So every registration is in exactly one place, and its destructor is started
at most once, with the call that was registered.
-/

set_option autoImplicit false

namespace Custody.Host

def Table.exportedAt (t : Table Entry) (slot : Nat) : Option DestructorCall :=
  match t.get? slot with
  | some (.exported call) => some call
  | _ => none

theorem Table.exportedAt_eq_some_iff (t : Table Entry) (slot : Nat) (call : DestructorCall) :
    t.exportedAt slot = some call ↔ t.get? slot = some (.exported call) := by
  unfold exportedAt
  split <;> simp_all

theorem Table.Inserted.exportedAt_eq {t after : Table Entry} {entry : Entry} {slot : Nat}
    (inserted : t.Inserted entry slot after) (other : Nat) :
    after.exportedAt other =
      if other = slot then (match entry with | .exported call => some call | .imported _ => none)
      else t.exportedAt other := by
  unfold exportedAt
  rw [inserted.get?_eq]
  by_cases same : other = slot
  · cases entry <;> simp [same]
  · simp [same]

theorem Table.Removed.exportedAt_eq {t after : Table Entry} {entry : Entry} {slot : Nat}
    (removed : t.Removed slot entry after) (other : Nat) :
    after.exportedAt other = if other = slot then none else t.exportedAt other := by
  unfold exportedAt
  rw [removed.get?_eq]
  by_cases same : other = slot <;> simp [same]

/-! ## What the numbers stand for -/

/-- A number stands for a destructor call that was registered. -/
def Stands (made : List DestructorCall) (n : Nat) (call : DestructorCall) : Prop :=
  made[n]? = some call

theorem Stands.lt {made : List DestructorCall} {n : Nat} {call : DestructorCall}
    (stands : Stands made n call) : n < made.length :=
  (List.getElem?_eq_some_iff.1 stands).1

theorem Stands.append {made : List DestructorCall} {n : Nat} {call : DestructorCall}
    (stands : Stands made n call) (later : List DestructorCall) : Stands (made ++ later) n call := by
  rw [Stands, List.getElem?_append_left stands.lt]
  exact stands

/-- The numbers of a frame stand for the destructors of a call under way. -/
inductive Frame.Stands (made : List DestructorCall) : Frame → Activation → Prop where
  | dropping {n : Nat} {call : DestructorCall} :
      Host.Stands made n call → Stands made ⟨n, []⟩ (.dropping call)
  | flushing {n total : Nat} {call : DestructorCall} {rest : List Nat}
      {calls : List DestructorCall} :
      Host.Stands made n call → List.Forall₂ (Host.Stands made) rest calls →
      Stands made ⟨n, rest⟩ (.flushing call calls total)

theorem Frame.Stands.append {made : List DestructorCall} {frame : Frame} {activation : Activation}
    (stands : Frame.Stands made frame activation) (later : List DestructorCall) :
    Frame.Stands (made ++ later) frame activation := by
  cases stands with
  | dropping running => exact .dropping (running.append later)
  | flushing running rest =>
      exact .flushing (running.append later) (rest.imp fun _ _ stands => stands.append later)

namespace Chronicle

/-- The numbers stand for what the host keeps, and each registration has one place. -/
structure Consistent (config : HostConfig) (c : Chronicle) : Prop where
  config_eq : c.machine.host.config = config
  sound : c.machine.host.table.Sound
  lodged_stands : ∀ slot,
    Option.Rel (Stands c.made) (c.lodged slot) (c.machine.host.table.exportedAt slot)
  queued_stands : List.Forall₂ (Stands c.made) c.queued c.machine.host.pending
  frames_stand : List.Forall₂ (Frame.Stands c.made) c.frames c.machine.active
  held_stands : ∀ n call, c.held = some (n, call) → Stands c.made n call
  started_stands : ∀ start ∈ c.started, Stands c.made start.1 start.2
  lodged_injective : ∀ left right n, c.lodged left = some n → c.lodged right = some n → left = right
  lodged_not_dropped : ∀ slot n, c.lodged slot = some n → n ∉ c.dropped
  placed : ∀ n < c.made.length, n ∈ c.dropped ∨ ∃ slot, c.lodged slot = some n
  dropped_lt : ∀ n ∈ c.dropped, n < c.made.length
  dropped_nodup : c.dropped.Nodup
  dropped_perm : c.dropped.Perm (c.waiting ++ c.started.map Prod.fst)
  started_perm : (c.started.map Prod.fst).Perm (c.frames.map Frame.running ++ c.returned)
  immediate : config.timing = .immediate → c.queued = [] ∧ ∀ frame ∈ c.frames, frame.rest = []

variable {config : HostConfig} {c : Chronicle}

theorem consistent_start (config : HostConfig) : (start config).Consistent config where
  config_eq := rfl
  sound := Table.sound_empty _
  lodged_stands slot := by simp [start, Machine.start, install, Table.exportedAt]
  queued_stands := .nil
  frames_stand := .nil
  held_stands := nofun
  started_stands := nofun
  lodged_injective := nofun
  lodged_not_dropped := nofun
  placed := nofun
  dropped_lt := nofun
  dropped_nodup := List.nodup_nil
  dropped_perm := .nil
  started_perm := .nil
  immediate _ := ⟨rfl, nofun⟩

theorem Consistent.exists_stands (consistent : c.Consistent config)
    {slot n : Nat} (lodged : c.lodged slot = some n) :
    ∃ call, Stands c.made n call ∧ c.machine.host.table.get? slot = some (.exported call) := by
  have related := consistent.lodged_stands slot
  rw [lodged] at related
  cases exported : c.machine.host.table.exportedAt slot with
  | none => rw [exported] at related; cases related
  | some call =>
      rw [exported] at related
      cases related with
      | some stands => exact ⟨call, stands, (Table.exportedAt_eq_some_iff _ _ _).1 exported⟩

theorem Consistent.exists_lodged (consistent : c.Consistent config)
    {slot : Nat} {call : DestructorCall}
    (present : c.machine.host.table.get? slot = some (.exported call)) :
    ∃ n, c.lodged slot = some n ∧ Stands c.made n call := by
  have related := consistent.lodged_stands slot
  rw [(Table.exportedAt_eq_some_iff _ _ _).2 present] at related
  cases lodged : c.lodged slot with
  | none => rw [lodged] at related; cases related
  | some n =>
      rw [lodged] at related
      cases related with
      | some stands => exact ⟨n, rfl, stands⟩

/-! ## Steps that move no registration -/

theorem Consistent.withHost (consistent : c.Consistent config)
    {host : Host} (settings : host.config = c.machine.host.config) (sound : host.table.Sound)
    (exported : ∀ slot, host.table.exportedAt slot = c.machine.host.table.exportedAt slot)
    (pending : host.pending = c.machine.host.pending) : (c.withHost host).Consistent config :=
  { consistent with
    config_eq := settings.trans consistent.config_eq
    sound
    lodged_stands := fun slot => by
      simpa only [Chronicle.withHost, exported] using consistent.lodged_stands slot
    queued_stands := by simpa only [Chronicle.withHost, pending] using consistent.queued_stands }

theorem Consistent.record (consistent : c.Consistent config)
    (fault : Fault) : (c.withHost (c.machine.host.record fault)).Consistent config :=
  consistent.withHost rfl consistent.sound (fun _ => rfl) rfl

theorem Consistent.lend (consistent : c.Consistent config)
    (mode : Mode) (name : String) : (c.perform (.lend mode name)).Consistent config := by
  obtain ⟨fault, refused⟩ | ⟨h, slot, table, lent, inserted, names⟩ :=
    lend_cases c.machine.host mode name consistent.sound
  · simpa only [perform, refused] using consistent
  · simp only [perform, lent]
    refine consistent.withHost rfl inserted.sound (fun other => ?_) rfl
    rw [inserted.exportedAt_eq]
    by_cases same : other = slot
    · subst same
      simp [Table.exportedAt, inserted.absent]
    · simp [same]

theorem Consistent.release (consistent : c.Consistent config)
    (h : Handle) : (c.perform (.release h)).Consistent config := by
  obtain ⟨fault, refused⟩ | ⟨slot, name, table, given, names, removed⟩ :=
    release_cases c.machine.host h consistent.sound
  · simpa only [perform, refused] using consistent.record fault
  · simp only [perform, given]
    refine consistent.withHost rfl removed.sound (fun other => ?_) rfl
    rw [removed.exportedAt_eq]
    by_cases same : other = slot
    · subst same
      simp [Table.exportedAt, removed.present]
    · simp [same]

/-! ## Registration and drop requests -/

theorem Consistent.register (consistent : c.Consistent config)
    (mode : Mode) (call : DestructorCall) : (c.perform (.register mode call)).Consistent config := by
  obtain ⟨fault, refused⟩ | ⟨h, slot, table, registered, inserted, _, names⟩ :=
    register_cases c.machine.host mode call consistent.sound
  · simpa only [perform, refused] using consistent.record fault
  · simp only [perform, registered, names.slot?_eq, Option.some.injEq, Chronicle.withHost]
    -- the new number is above those that occur so far
    have fresh : ∀ other n, c.lodged other = some n → n < c.made.length := by
      intro other n lodged
      obtain ⟨_, stands, _⟩ := consistent.exists_stands lodged
      exact stands.lt
    refine { consistent with
      sound := inserted.sound
      lodged_stands := fun other => ?_
      queued_stands := consistent.queued_stands.imp fun _ _ s => s.append _
      frames_stand := consistent.frames_stand.imp fun _ _ s => s.append _
      held_stands := fun n call held => (consistent.held_stands n call held).append _
      started_stands := fun start member => (consistent.started_stands start member).append _
      lodged_injective := fun left right n first second => ?_
      lodged_not_dropped := fun other n lodged dropped => ?_
      placed := fun n small => ?_
      dropped_lt := fun n dropped => ?_ }
    · have before := consistent.lodged_stands other
      rw [inserted.exportedAt_eq]
      by_cases same : slot = other
      · simpa [same] using Option.Rel.some (show Stands (c.made ++ [call]) c.made.length call by
          simp [Stands])
      · simp only [same, Ne.symm same, if_false]
        cases lodged : c.lodged other <;> cases present : c.machine.host.table.exportedAt other <;>
          rw [lodged, present] at before <;> cases before
        · exact .none
        · exact .some (Stands.append ‹_› _)
    · by_cases atLeft : slot = left <;> by_cases atRight : slot = right
      · exact atLeft.symm.trans atRight
      · have new : c.made.length = n := by simpa [atLeft] using first
        exact absurd (fresh right n (by simpa [atRight] using second)) (by omega)
      · have new : c.made.length = n := by simpa [atRight] using second
        exact absurd (fresh left n (by simpa [atLeft] using first)) (by omega)
      · exact consistent.lodged_injective left right n (by simpa [atLeft] using first)
          (by simpa [atRight] using second)
    · by_cases same : slot = other
      · have new : c.made.length = n := by simpa [same] using lodged
        exact absurd (consistent.dropped_lt n dropped) (by omega)
      · exact consistent.lodged_not_dropped other n (by simpa [same] using lodged) dropped
    · have small : n < c.made.length + 1 := by simpa using small
      rcases Nat.lt_succ_iff_lt_or_eq.1 small with old | new
      · obtain dropped | ⟨other, lodged⟩ := consistent.placed n old
        · exact .inl dropped
        · refine .inr ⟨other, ?_⟩
          have apart : slot ≠ other := fun same => by
            obtain ⟨found, _, present⟩ := consistent.exists_stands lodged
            rw [← same, inserted.absent] at present
            cases present
          simpa [apart] using lodged
      · exact .inr ⟨slot, by simp [new]⟩
    · have old := consistent.dropped_lt n dropped
      simpa using Nat.lt_succ_of_lt old

theorem Consistent.perform_drop (consistent : c.Consistent config)
    {h : Handle} {call : DestructorCall} {slot : Nat} {table : Table Entry}
    (taken : c.machine.host.unregister h =
      (.ok call, { c.machine.host with
        table, counters.dropRequests := c.machine.host.counters.dropRequests + 1 }))
    (names : c.machine.host.Names h slot (.exported call)) :
    ∃ n, c.lodged slot = some n ∧ Stands c.made n call ∧
      c.perform (.drop h) =
        { c.withHost { c.machine.host with
            table, counters.dropRequests := c.machine.host.counters.dropRequests + 1 } with
          lodged := fun other => if slot = other then none else c.lodged other
          held := some (n, call)
          dropped := c.dropped ++ [n] } := by
  obtain ⟨n, lodged, stands⟩ := consistent.exists_lodged names.get?_eq
  refine ⟨n, lodged, stands, ?_⟩
  simp [perform, taken, names.slot?_eq, lodged]

theorem Consistent.drop (consistent : c.Consistent config)
    (free : c.held = none) (h : Handle) : (c.perform (.drop h)).Consistent config := by
  obtain ⟨fault, refused⟩ | ⟨call, slot, table, taken, names, removed⟩ :=
    unregister_cases c.machine.host h consistent.sound
  · simpa only [perform, refused] using consistent.record fault
  · obtain ⟨n, lodged, stands, performed⟩ := consistent.perform_drop taken names
    rw [performed]
    -- a number at a slot was not dropped before, so its request is the first one
    have absent := consistent.lodged_not_dropped slot n lodged
    refine { consistent with
      sound := removed.sound
      lodged_stands := fun other => ?_
      held_stands := fun m other held => ?_
      lodged_injective := fun left right m first second => ?_
      lodged_not_dropped := fun other m kept dropped => ?_
      placed := fun m small => ?_
      dropped_lt := fun m dropped => ?_
      dropped_nodup := ?_
      dropped_perm := ?_ }
    · simp only [Chronicle.withHost, removed.exportedAt_eq]
      by_cases same : slot = other
      · simp [same]
      · simpa [same, Ne.symm same] using consistent.lodged_stands other
    · obtain ⟨rfl, rfl⟩ : n = m ∧ call = other := by simpa using held
      exact stands
    · by_cases atLeft : slot = left
      · simp [atLeft] at first
      · by_cases atRight : slot = right
        · simp [atRight] at second
        · exact consistent.lodged_injective left right m (by simpa [atLeft] using first)
            (by simpa [atRight] using second)
    · by_cases same : slot = other
      · simp [same] at kept
      · have still : c.lodged other = some m := by simpa [same] using kept
        rcases List.mem_append.1 dropped with old | new
        · exact consistent.lodged_not_dropped other m still old
        · have moved : m = n := by simpa using new
          exact same (consistent.lodged_injective slot other n lodged (moved ▸ still))
    · obtain dropped | ⟨other, kept⟩ := consistent.placed m small
      · exact .inl (List.mem_append_left _ dropped)
      · by_cases same : slot = other
        · subst same
          obtain rfl : n = m := Option.some.inj (lodged.symm.trans kept)
          exact .inl (by simp)
        · exact .inr ⟨other, by simpa [same] using kept⟩
    · rcases List.mem_append.1 dropped with old | new
      · exact consistent.dropped_lt m old
      · obtain rfl : m = n := by simpa using new
        exact stands.lt
    · exact List.nodup_append.2 ⟨consistent.dropped_nodup, by simp, by
        intro m old k new same
        obtain rfl : k = n := by simpa using new
        exact absent (same ▸ old)⟩
    · refine List.perm_iff_count.2 fun m => ?_
      have before := consistent.dropped_perm.count_eq m
      simp only [waiting, free, List.count_append, Option.toList_none, List.map_nil,
        List.count_nil] at before
      simp only [waiting, Chronicle.withHost, List.count_append, Option.toList_some, List.map_cons,
        List.map_nil]
      omega

/-! ## Destructors that start and return -/

private theorem Consistent.started_append (consistent : c.Consistent config) {n : Nat}
    {call : DestructorCall} (stands : Stands c.made n call) :
    ∀ start ∈ c.started ++ [(n, call)], Stands c.made start.1 start.2 := by
  intro start member
  rcases List.mem_append.1 member with old | new
  · exact consistent.started_stands start old
  · obtain rfl : start = (n, call) := by simpa using new
    exact stands

theorem Consistent.settle (consistent : c.Consistent config)
    {n : Nat} {call : DestructorCall} (held : c.held = some (n, call)) :
    (c.settle n call).Consistent config := by
  have stands := consistent.held_stands n call held
  have account := consistent.dropped_perm
  simp only [waiting, held] at account
  unfold Chronicle.settle
  cases timing : c.machine.host.config.timing with
  | immediate =>
      simp only [Machine.settle, timing, begin]
      refine { consistent with
        frames_stand := .cons (.dropping stands) consistent.frames_stand
        held_stands := nofun
        started_stands := consistent.started_append stands
        dropped_perm := ?_
        started_perm := ?_
        immediate := fun now => ?_ }
      · refine account.trans (List.perm_iff_count.2 fun m => ?_)
        simp only [waiting, List.flatMap_cons, List.map_append, List.map_cons, List.map_nil,
          Option.toList_some, Option.toList_none, List.count_append, List.count_cons, List.count_nil]
        omega
      · refine List.perm_iff_count.2 fun m => ?_
        have before := consistent.started_perm.count_eq m
        simp only [List.count_append, List.map_append, List.map_cons, List.map_nil,
          List.count_cons, List.count_nil] at before ⊢
        omega
      · obtain ⟨queued, frames⟩ := consistent.immediate now
        exact ⟨queued, by simpa using frames⟩
  | deferred =>
      simp only [Machine.settle, timing]
      refine { consistent with
        queued_stands := ?_
        held_stands := nofun
        dropped_perm := ?_
        immediate := fun now => ?_ }
      · exact List.rel_append consistent.queued_stands (.cons stands .nil)
      · refine account.trans (List.perm_iff_count.2 fun m => ?_)
        simp only [waiting, List.map_cons, List.map_nil, Option.toList_some, Option.toList_none,
          List.count_append, List.count_cons, List.count_nil]
        omega
      · rw [consistent.config_eq, now] at timing
        cases timing

theorem Consistent.return (consistent : c.Consistent config)
    {n : Nat} {frames : List Frame} {activation : Activation} {active : List Activation}
    (frame : c.frames = ⟨n, []⟩ :: frames) (innermost : c.machine.active = activation :: active)
    (counters : Counters) :
    Consistent config
      { c with
        machine := { host := { c.machine.host with counters }, active }
        frames
        returned := c.returned ++ [n] } := by
  have stand := consistent.frames_stand
  rw [frame, innermost] at stand
  cases stand with
  | cons _ outer =>
      refine { consistent with
        frames_stand := outer
        dropped_perm := ?_
        started_perm := ?_
        immediate := fun now => ?_ }
      · simpa [waiting, frame] using consistent.dropped_perm
      · refine List.perm_iff_count.2 fun m => ?_
        have before := consistent.started_perm.count_eq m
        simp only [frame, List.map_cons, List.count_append, List.count_cons, List.count_nil]
          at before ⊢
        omega
      · obtain ⟨queued, rests⟩ := consistent.immediate now
        exact ⟨queued, fun other member => rests other (by simp [frame, member])⟩

theorem Consistent.advance (consistent : c.Consistent config)
    {n k total : Nat} {rest : List Nat} {frames : List Frame} {call next : DestructorCall}
    {calls : List DestructorCall} {active : List Activation}
    (frame : c.frames = ⟨n, k :: rest⟩ :: frames)
    (innermost : c.machine.active = .flushing call (next :: calls) total :: active)
    (counters : Counters) :
    Consistent config
      ({ c with
        machine :=
          { host := { c.machine.host with counters }, active := .flushing next calls total :: active }
        frames
        returned := c.returned ++ [n] }.begin k rest next) := by
  have stand := consistent.frames_stand
  rw [frame, innermost] at stand
  cases stand with
  | cons first outer =>
      cases first with
      | flushing _ batch =>
          cases batch with
          | cons stands batch =>
              refine { consistent with
                frames_stand := .cons (.flushing stands batch) outer
                started_stands := consistent.started_append stands
                dropped_perm := ?_
                started_perm := ?_
                immediate := fun now => ?_ }
              · refine consistent.dropped_perm.trans (List.perm_iff_count.2 fun m => ?_)
                simp only [waiting, begin, frame, List.flatMap_cons, List.map_append, List.map_cons,
                  List.map_nil, List.count_append, List.count_cons, List.count_nil]
                omega
              · refine List.perm_iff_count.2 fun m => ?_
                have before := consistent.started_perm.count_eq m
                simp only [begin, frame, List.map_append, List.map_cons, List.map_nil,
                  List.count_append, List.count_cons, List.count_nil] at before ⊢
                omega
              · have none := (consistent.immediate now).2 ⟨n, k :: rest⟩ (by simp [frame])
                cases none

theorem Consistent.nextBatch (consistent : c.Consistent config)
    (total : Nat) :
    Consistent config
      ({ c with machine := (c.machine.nextBatch total).2 }.resume []
        (c.machine.nextBatch total).1) := by
  have queued := consistent.queued_stands
  unfold Machine.nextBatch
  cases pending : c.machine.host.pending with
  | nil => simpa [resume, pending] using consistent
  | cons call calls =>
      rw [pending] at queued
      cases numbers : c.queued with
      | nil => rw [numbers] at queued; cases queued
      | cons n rest =>
          rw [numbers] at queued
          cases queued with
          | cons stands batch =>
              simp only [resume]
              refine { consistent with
                queued_stands := .nil
                frames_stand := .cons (.flushing stands batch) consistent.frames_stand
                started_stands := consistent.started_append stands
                dropped_perm := ?_
                started_perm := ?_
                immediate := fun now => ?_ }
              · refine consistent.dropped_perm.trans (List.perm_iff_count.2 fun m => ?_)
                simp only [waiting, begin, numbers, List.flatMap_cons, List.map_append,
                  List.map_cons, List.map_nil, List.count_append, List.count_cons, List.count_nil]
                omega
              · refine List.perm_iff_count.2 fun m => ?_
                have before := consistent.started_perm.count_eq m
                simp only [begin, List.map_append, List.map_cons, List.map_nil,
                  List.count_append, List.count_cons, List.count_nil] at before ⊢
                omega
              · have none := numbers.symm.trans (consistent.immediate now).1
                cases none

theorem Consistent.finish (consistent : c.Consistent config) :
    (c.perform .finish).Consistent config := by
  have stand := consistent.frames_stand
  cases frames : c.frames with
  | nil => simpa only [perform, frames] using consistent
  | cons frame outer =>
      obtain ⟨n, rest⟩ := frame
      rw [frames] at stand
      cases active : c.machine.active with
      | nil => rw [active] at stand; cases stand
      | cons activation under =>
          rw [active] at stand
          simp only [perform, frames, Machine.finish, active]
          cases stand with
          | cons first _ =>
              cases first with
              | dropping _ => exact consistent.return frames active _
              | flushing running batch =>
                  cases batch with
                  | nil => exact (consistent.return frames active _).nextBatch _
                  | cons _ _ => exact consistent.advance frames active _

/-! ## Runs -/

theorem Consistent.step (consistent : c.Consistent config)
    (request : Request) : (c.step request).Consistent config := by
  cases held : c.held with
  | some place =>
      obtain ⟨n, call⟩ := place
      cases request <;> simp only [Chronicle.step, held] <;> first
        | exact consistent.settle held
        | exact consistent
  | none =>
      simp only [Chronicle.step, held]
      cases request with
      | register mode call => exact consistent.register mode call
      | drop h => exact consistent.drop held h
      | settle => exact consistent
      | rep h => exact consistent
      | lend mode name => exact consistent.lend mode name
      | release h => exact consistent.release h
      | flush => exact consistent.nextBatch 0
      | takeFaults => exact { consistent with }
      | finish => exact consistent.finish

theorem consistent_run (config : HostConfig) (requests : List Request) :
    (run config requests).Consistent config :=
  run_induction config (consistent_start config) (fun _ request consistent => consistent.step request)
    requests

/-! ## What a step keeps -/

theorem Consistent.exists_active (consistent : c.Consistent config) {frame : Frame}
    {frames : List Frame} (innermost : c.frames = frame :: frames) :
    ∃ activation under, c.machine.active = activation :: under := by
  have stand := consistent.frames_stand
  rw [innermost] at stand
  cases active : c.machine.active with
  | nil => rw [active] at stand; cases stand
  | cons activation under => exact ⟨activation, under, rfl⟩

theorem Consistent.prefix_step (consistent : c.Consistent config) (request : Request) :
    c.made <+: (c.step request).made ∧ c.started <+: (c.step request).started := by
  cases held : c.held with
  | some place =>
      obtain ⟨n, call⟩ := place
      cases request with
      | settle =>
          obtain ⟨_, _, _, _, started, grown, settled⟩ := settle_frame c n call
          simp only [Chronicle.step, held, settled]
          exact ⟨List.prefix_rfl, grown⟩
      | _ =>
          simp only [Chronicle.step, held]
          exact ⟨List.prefix_rfl, List.prefix_rfl⟩
  | none =>
      simp only [Chronicle.step, held]
      cases request with
      | register mode call =>
          simp only [perform]
          split
          · exact ⟨List.prefix_append _ _, List.prefix_rfl⟩
          · exact ⟨List.prefix_rfl, List.prefix_rfl⟩
      | drop h | lend mode name =>
          simp only [perform]
          split <;> exact ⟨List.prefix_rfl, List.prefix_rfl⟩
      | flush =>
          obtain ⟨_, _, _, _, started, grown, flushed⟩ := flush_frame c
          rw [flushed]
          exact ⟨List.prefix_rfl, grown⟩
      | finish =>
          cases innermost : c.frames with
          | nil =>
              simp only [perform, innermost]
              exact ⟨List.prefix_rfl, List.prefix_rfl⟩
          | cons frame frames =>
              obtain ⟨_, _, running⟩ := consistent.exists_active innermost
              obtain ⟨_, _, _, _, _, grown, finished⟩ := finish_frame c innermost running
              rw [finished]
              exact ⟨List.prefix_rfl, grown⟩
      | settle | rep h | release h | takeFaults => exact ⟨List.prefix_rfl, List.prefix_rfl⟩

/-- A registration stays at its slot unless a drop request for that slot is accepted, which then has
it in hand. -/
theorem Consistent.lodged_step (consistent : c.Consistent config) {slot n : Nat}
    (lodged : c.lodged slot = some n) (request : Request) :
    (c.step request).lodged slot = some n ∨
      ∃ h call, request = .drop h ∧ c.machine.host.Names h slot (.exported call) ∧
        (c.machine.host.unregister h).1 = .ok call ∧ (c.step request).held = some (n, call) := by
  cases held : c.held with
  | some place =>
      obtain ⟨m, call⟩ := place
      cases request with
      | settle =>
          obtain ⟨_, _, _, _, _, _, settled⟩ := settle_frame c m call
          simp only [Chronicle.step, held, settled]
          exact .inl lodged
      | _ =>
          simp only [Chronicle.step, held]
          exact .inl lodged
  | none =>
      simp only [Chronicle.step, held]
      cases request with
      | register mode call =>
          refine .inl ?_
          obtain ⟨fault, refused⟩ | ⟨h, free, table, registered, inserted, _, names⟩ :=
            register_cases c.machine.host mode call consistent.sound
          · simp only [perform, refused]
            exact lodged
          · have apart : free ≠ slot := fun same => by
              obtain ⟨_, _, present⟩ := consistent.exists_stands lodged
              rw [← same, inserted.absent] at present
              cases present
            simpa [perform, registered, names.slot?_eq, apart] using lodged
      | drop h =>
          obtain ⟨fault, refused⟩ | ⟨call, named, table, taken, names, _⟩ :=
            unregister_cases c.machine.host h consistent.sound
          · simp only [perform, refused]
            exact .inl lodged
          · obtain ⟨m, there, _, performed⟩ := consistent.perform_drop taken names
            rw [performed]
            by_cases same : named = slot
            · subst same
              obtain rfl : m = n := Option.some.inj (there.symm.trans lodged)
              exact .inr ⟨h, call, rfl, names, by rw [taken], rfl⟩
            · exact .inl (by simpa [same] using lodged)
      | lend mode name =>
          refine .inl ?_
          simp only [perform]
          split <;> exact lodged
      | flush =>
          obtain ⟨_, _, _, _, _, _, flushed⟩ := flush_frame c
          rw [flushed]
          exact .inl lodged
      | finish =>
          refine .inl ?_
          cases innermost : c.frames with
          | nil => simpa only [perform, innermost] using lodged
          | cons frame frames =>
              obtain ⟨_, _, running⟩ := consistent.exists_active innermost
              obtain ⟨_, _, _, _, _, _, finished⟩ := finish_frame c innermost running
              rw [finished]
              exact lodged
      | settle | rep h | release h | takeFaults => exact .inl lodged

/-! ## One place for every registration -/

theorem Consistent.isLive_iff (consistent : c.Consistent config)
    (n : Nat) : c.IsLive n ↔ ∃ slot, c.lodged slot = some n := by
  constructor
  · rintro ⟨slot, _, lodged, _⟩
    exact ⟨slot, lodged⟩
  · rintro ⟨slot, lodged⟩
    obtain ⟨call, stands, present⟩ := consistent.exists_stands lodged
    exact ⟨slot, call, lodged, stands, present⟩

theorem Consistent.mem_dropped_iff (consistent : c.Consistent config) (n : Nat) :
    n ∈ c.dropped ↔ c.IsWaiting n ∨ c.IsStarted n := by
  rw [consistent.dropped_perm.mem_iff, List.mem_append]
  rfl

theorem Consistent.waiting_started_nodup (consistent : c.Consistent config) :
    (c.waiting ++ c.started.map Prod.fst).Nodup :=
  consistent.dropped_perm.nodup_iff.1 consistent.dropped_nodup

theorem Consistent.settled (consistent : c.Consistent config)
    (free : c.held = none) (idle : c.machine.active = []) :
    c.waiting = c.queued ∧ (c.started.map Prod.fst).Perm c.returned := by
  have stand := consistent.frames_stand
  rw [idle] at stand
  cases frames : c.frames with
  | nil => exact ⟨by simp [waiting, frames, free], by simpa [frames] using consistent.started_perm⟩
  | cons frame outer => rw [frames] at stand; cases stand

theorem Consistent.waiting_eq_nil (consistent : c.Consistent config)
    (immediate : config.timing = .immediate) (free : c.held = none) : c.waiting = [] := by
  obtain ⟨queued, rests⟩ := consistent.immediate immediate
  simp only [waiting, queued, free, Option.toList_none, List.map_nil, List.append_nil,
    List.nil_append, List.flatMap_eq_nil_iff]
  exact rests

/-- Every registration is in the table, waits for its destructor or has had it started, and moves on
from one place to the next only. -/
structure DestroysOnce (config : HostConfig) (c : Chronicle) : Prop where
  /-- A registration is in exactly one place. -/
  one_place : ∀ n < c.made.length,
    (c.IsLive n ∧ ¬c.IsWaiting n ∧ ¬c.IsStarted n) ∨
      (¬c.IsLive n ∧ c.IsWaiting n ∧ ¬c.IsStarted n) ∨
      (¬c.IsLive n ∧ ¬c.IsWaiting n ∧ c.IsStarted n)
  /-- Every entry of a guest object is the place of a registration. -/
  entries_numbered : ∀ slot call, c.machine.host.table.get? slot = some (.exported call) →
    ∃ n, c.lodged slot = some n ∧ Stands c.made n call
  /-- The queue, the calls under way and the drop request hold what the numbers stand for. -/
  waiting_numbered :
    List.Forall₂ (Stands c.made) c.queued c.machine.host.pending ∧
      List.Forall₂ (Frame.Stands c.made) c.frames c.machine.active ∧
      ∀ n call, c.held = some (n, call) → Stands c.made n call
  /-- A registration waits in one place only. -/
  waiting_once : c.waiting.Nodup
  /-- What takes a registration out of the table is an accepted drop request for its slot. -/
  leaves_by_drop : ∀ request n, c.IsLive n → ¬(c.step request).IsLive n →
    ∃ h slot call, request = .drop h ∧ c.lodged slot = some n ∧
      c.machine.host.Names h slot (.exported call) ∧
      (c.machine.host.unregister h).1 = .ok call ∧ (c.step request).held = some (n, call)
  /-- A drop request is accepted at most once, and for what has left the table. -/
  dropped_once : c.dropped.Nodup ∧
    ∀ n < c.made.length, n ∈ c.dropped ↔ ¬c.IsLive n
  /-- A destructor is started at most once, with the call that was registered. -/
  started_once : (c.started.map Prod.fst).Nodup ∧ ∀ start ∈ c.started, Stands c.made start.1 start.2
  /-- What was registered and started stays so. -/
  remembers : ∀ request, c.made <+: (c.step request).made ∧ c.started <+: (c.step request).started
  /-- With no call under way, what waits is in the queue, and all that was started has returned. -/
  settled : c.held = none → c.machine.active = [] →
    (∀ n, c.IsWaiting n ↔ n ∈ c.queued) ∧ ∀ n, c.IsStarted n ↔ n ∈ c.returned
  /-- A host that runs destructors at once lets none wait, but in the hand of a drop request. -/
  immediate : config.timing = .immediate → c.held = none → ∀ n, ¬c.IsWaiting n

/-- Destructors run at most once, whatever the guest asks for and however calls nest. -/
theorem run_destroysOnce (config : HostConfig) (requests : List Request) :
    (run config requests).DestroysOnce config := by
  have consistent := consistent_run config requests
  generalize run config requests = c at consistent
  have apart := List.nodup_append.1 consistent.waiting_started_nodup
  have kept : ∀ n, c.IsLive n → ¬c.IsWaiting n ∧ ¬c.IsStarted n := fun n live => by
    obtain ⟨slot, lodged⟩ := (consistent.isLive_iff n).1 live
    have absent := consistent.lodged_not_dropped slot n lodged
    rw [consistent.mem_dropped_iff] at absent
    exact not_or.1 absent
  refine
    { one_place := fun n small => ?_
      entries_numbered := fun slot call present => consistent.exists_lodged present
      waiting_numbered :=
        ⟨consistent.queued_stands, consistent.frames_stand, consistent.held_stands⟩
      waiting_once := apart.1
      leaves_by_drop := fun request n live gone => ?_
      dropped_once := ⟨consistent.dropped_nodup, fun n small => ?_⟩
      started_once := ⟨apart.2.1, consistent.started_stands⟩
      remembers := consistent.prefix_step
      settled := fun free idle => ?_
      immediate := fun now free n waits => ?_ }
  · obtain dropped | placed := consistent.placed n small
    · have gone : ¬c.IsLive n := fun live => by
        obtain ⟨slot, lodged⟩ := (consistent.isLive_iff n).1 live
        exact consistent.lodged_not_dropped slot n lodged dropped
      obtain waits | started := (consistent.mem_dropped_iff n).1 dropped
      · exact .inr (.inl ⟨gone, waits, fun started => apart.2.2 n waits n started rfl⟩)
      · exact .inr (.inr ⟨gone, fun waits => apart.2.2 n waits n started rfl, started⟩)
    · have live := (consistent.isLive_iff n).2 placed
      exact .inl ⟨live, kept n live⟩
  · obtain ⟨slot, lodged⟩ := (consistent.isLive_iff n).1 live
    obtain still | ⟨h, call, rfl, names, taken, held⟩ := consistent.lodged_step lodged request
    · exact absurd (((consistent.step request).isLive_iff n).2 ⟨slot, still⟩) gone
    · exact ⟨h, slot, call, rfl, lodged, names, taken, held⟩
  · constructor
    · intro dropped live
      have absent := kept n live
      exact not_or.2 absent ((consistent.mem_dropped_iff n).1 dropped)
    · intro gone
      exact (consistent.placed n small).resolve_right fun placed =>
        gone ((consistent.isLive_iff n).2 placed)
  · obtain ⟨waiting, returned⟩ := consistent.settled free idle
    exact ⟨fun n => by rw [IsWaiting, waiting], fun n => returned.mem_iff⟩
  · rw [IsWaiting, consistent.waiting_eq_nil now free] at waits
    cases waits

end Chronicle

end Custody.Host
