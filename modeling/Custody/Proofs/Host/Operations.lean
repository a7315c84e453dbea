import Custody.Host.Machine
import Custody.Proofs.Host.Slots

/-!
# What the operations of a host do

One law for each operation. An operation is refused, which only leaves a record, or it does exactly
what its law says. Whether a handle is accepted depends on its representation, its slot and the kind
of the entry there, and on nothing else.
-/

set_option autoImplicit false

namespace Custody.Host

theorem except_bind_eq_ok {ε α β : Type} {source : Except ε α}
    {continuation : α → Except ε β} {result : β}
    (success : (source >>= continuation) = .ok result) :
    ∃ value, source = .ok value ∧ continuation value = .ok result := by
  cases source with
  | error error => cases success
  | ok value => exact ⟨value, rfl, success⟩

/-! ## Looking a handle up -/

/-- A handle names an entry at a slot. -/
structure Names (host : Host) (h : Handle) (slot : Nat) (entry : Entry) : Prop where
  mode_eq : h.mode = host.config.mode
  slot?_eq : h.slot? = some slot
  get?_eq : host.table.get? slot = some entry

theorem checkMode_eq_ok_iff (host : Host) (mode : Mode) :
    host.checkMode mode = .ok () ↔ mode = host.config.mode := by
  unfold checkMode
  split <;> simp [*]

private theorem slotOf_of_slot? {host : Host} {h : Handle} {slot : Nat} (operation : String)
    (mode : h.mode = host.config.mode) (named : h.slot? = some slot) :
    host.slotOf operation h = .ok slot := by
  rw [slotOf, (checkMode_eq_ok_iff host h.mode).2 mode]
  simp [bind, Except.bind, Handle.isValid_of_slot? named, named]

theorem Names.find {host : Host} {h : Handle} {slot : Nat} {entry : Entry}
    (names : host.Names h slot entry) (operation : String) :
    host.find operation h = .ok (slot, entry) := by
  rw [Host.find, slotOf_of_slot? operation names.mode_eq names.slot?_eq]
  simp [bind, Except.bind, names.get?_eq]

theorem names_of_find {host : Host} {operation : String} {h : Handle} {slot : Nat} {entry : Entry}
    (found : host.find operation h = .ok (slot, entry)) : host.Names h slot entry := by
  obtain ⟨named, slotOf, present⟩ := except_bind_eq_ok found
  obtain ⟨_, checked, slotOf⟩ := except_bind_eq_ok slotOf
  have mode := (checkMode_eq_ok_iff host h.mode).1 checked
  split at slotOf
  · cases slot? : h.slot? with
    | none => simp [slot?] at slotOf
    | some number =>
        have same : number = named := by simpa [slot?] using slotOf
        subst same
        cases get? : host.table.get? number with
        | none => simp [get?] at present
        | some found =>
            obtain ⟨rfl, rfl⟩ : number = slot ∧ found = entry := by simpa [get?] using present
            exact ⟨mode, slot?, get?⟩
  · cases slotOf

theorem findExported_eq_ok_iff (host : Host) (operation : String) (h : Handle) (slot : Nat)
    (call : DestructorCall) :
    host.findExported operation h = .ok (slot, call) ↔ host.Names h slot (.exported call) := by
  constructor
  · intro success
    obtain ⟨⟨number, entry⟩, found, continuation⟩ := except_bind_eq_ok success
    cases entry with
    | exported registered =>
        cases continuation
        exact names_of_find found
    | imported name => cases continuation
  · intro names
    rw [findExported, names.find operation]
    rfl

theorem findImported_eq_ok_iff (host : Host) (operation : String) (h : Handle) (slot : Nat)
    (name : String) :
    host.findImported operation h = .ok (slot, name) ↔ host.Names h slot (.imported name) := by
  constructor
  · intro success
    obtain ⟨⟨number, entry⟩, found, continuation⟩ := except_bind_eq_ok success
    cases entry with
    | exported registered => cases continuation
    | imported lent =>
        cases continuation
        exact names_of_find found
  · intro names
    rw [findImported, names.find operation]
    rfl

theorem Names.handle_unique {host : Host} {left right : Handle} {slot : Nat}
    {leftEntry rightEntry : Entry} (first : host.Names left slot leftEntry)
    (second : host.Names right slot rightEntry) : left = right := by
  have first := first.mode_eq ▸ Handle.ofSlot?_of_slot? first.slot?_eq
  have second := second.mode_eq ▸ Handle.ofSlot?_of_slot? second.slot?_eq
  exact Option.some.inj (first.symm.trans second)

theorem Names.of_eq {host after : Host} {h : Handle} {slot : Nat} {entry : Entry}
    (names : host.Names h slot entry) (config : after.config = host.config)
    (table : after.table = host.table) : after.Names h slot entry :=
  ⟨names.mode_eq.trans (by rw [config]), names.slot?_eq, by rw [table, names.get?_eq]⟩

theorem Names.inserted {host : Host} {h : Handle} {slot taken : Nat} {entry new : Entry}
    {table : Table Entry} (names : host.Names h slot entry)
    (inserted : host.table.Inserted new taken table) :
    ({ host with table } : Host).Names h slot entry := by
  refine ⟨names.mode_eq, names.slot?_eq, ?_⟩
  have apart : slot ≠ taken := fun same => by
    have empty := inserted.absent
    rw [← same, names.get?_eq] at empty
    cases empty
  exact (inserted.get?_eq slot).trans ((if_neg apart).trans names.get?_eq)

theorem Names.removed {host : Host} {h : Handle} {slot freed : Nat} {entry old : Entry}
    {table : Table Entry} (names : host.Names h slot entry)
    (removed : host.table.Removed freed old table) (apart : slot ≠ freed) :
    ({ host with table } : Host).Names h slot entry :=
  ⟨names.mode_eq, names.slot?_eq,
    (removed.get?_eq slot).trans ((if_neg apart).trans names.get?_eq)⟩

/-! ## Insertion -/

/-- The fault of a table that has no room. That there are no more slots is said only by a table that
may hold more entries than there can be slots. -/
def Fault.IsExhaustion (capacity : Nat) (fault : Fault) : Prop :=
  fault = .tableFull capacity ∨
    Table.slotLimit < capacity ∧ fault = .table "resource table has no free keys"

/-- An insertion that succeeds has found a slot, and the representation of the host has a handle for
it. -/
theorem insert_eq_ok {host after : Host} {mode : Mode} {entry : Entry} {h : Handle}
    (success : host.insert mode entry = .ok (h, after)) :
    ∃ slot table, host.table.insert entry = .ok (slot, table) ∧ Handle.ofSlot? mode slot = some h ∧
      mode = host.config.mode ∧ after = { host with table } := by
  obtain ⟨_, checked, success⟩ := except_bind_eq_ok success
  obtain ⟨⟨slot, table⟩, inserted, success⟩ := except_bind_eq_ok success
  have own := (checkMode_eq_ok_iff host mode).1 checked
  cases made : Handle.ofSlot? mode slot with
  | none => simp [made] at success
  | some handle =>
      obtain ⟨rfl, rfl⟩ : handle = h ∧ { host with table } = after := by simpa [made] using success
      exact ⟨slot, table, inserted, made, own, rfl⟩

theorem names_of_insert {host after : Host} {mode : Mode} {entry : Entry} {h : Handle}
    (sound : host.table.Sound) (success : host.insert mode entry = .ok (h, after)) :
    ∃ slot table, after = { host with table } ∧ host.table.Inserted entry slot table ∧
      mode = host.config.mode ∧ after.Names h slot entry := by
  obtain ⟨slot, table, inserted, made, own, rfl⟩ := insert_eq_ok success
  have inserted := Table.inserted_of_insert sound inserted
  obtain ⟨same, named⟩ := Handle.slot?_of_ofSlot? made
  exact ⟨slot, table, rfl, inserted, own, same.trans own, named, by simp [inserted.get?_eq]⟩

theorem exhausted_of_insert {host : Host} {entry : Entry} {fault : Fault}
    (sound : host.table.Sound) (refused : host.insert host.config.mode entry = .error fault) :
    fault.IsExhaustion host.table.capacity := by
  rw [insert, (checkMode_eq_ok_iff host host.config.mode).2 rfl] at refused
  cases result : host.table.insert entry with
  | error reason =>
      have same : reason = fault := by simpa [result, bind, Except.bind] using refused
      subst same
      exact Table.full_of_insert sound result
  | ok success =>
      obtain ⟨slot, table⟩ := success
      have inserted := Table.inserted_of_insert sound result
      cases made : Handle.ofSlot? host.config.mode slot with
      | some h => simp [result, made, bind, Except.bind] at refused
      | none =>
          left
          simpa [result, made, bind, Except.bind, inserted.capacity_eq] using refused.symm

/-! ## The operations -/

theorem register_cases (host : Host) (mode : Mode) (call : DestructorCall)
    (sound : host.table.Sound) :
    (∃ fault, host.register mode call = (.error fault, host.record fault)) ∨
    ∃ h slot table,
      host.register mode call =
        (.ok h, { host with table, counters.registered := host.counters.registered + 1 }) ∧
      host.table.Inserted (.exported call) slot table ∧ mode = host.config.mode ∧
      ({ host with table } : Host).Names h slot (.exported call) := by
  unfold register
  cases result : host.insert mode (.exported call) with
  | error fault => exact .inl ⟨fault, rfl⟩
  | ok success =>
      obtain ⟨h, after⟩ := success
      obtain ⟨slot, table, rfl, inserted, same, names⟩ := names_of_insert sound result
      exact .inr ⟨h, slot, table, rfl, inserted, same, names⟩

theorem exhausted_of_register {host after : Host} {call : DestructorCall} {fault : Fault}
    (sound : host.table.Sound)
    (refused : host.register host.config.mode call = (.error fault, after)) :
    fault.IsExhaustion host.table.capacity := by
  unfold register at refused
  cases result : host.insert host.config.mode (.exported call) with
  | error reason =>
      have same : reason = fault := by
        rw [result] at refused
        cases refused
        rfl
      subst same
      exact exhausted_of_insert sound result
  | ok success => simp [result] at refused

theorem lend_cases (host : Host) (mode : Mode) (name : String) (sound : host.table.Sound) :
    (∃ fault, host.lend mode name = .error fault) ∨
    ∃ h slot table,
      host.lend mode name =
        .ok (h, { host with
          table
          counters.importsCreated := host.counters.importsCreated + 1 }) ∧
      host.table.Inserted (.imported name) slot table ∧
      ({ host with table } : Host).Names h slot (.imported name) := by
  unfold lend
  cases result : host.insert mode (.imported name) with
  | error fault => exact .inl ⟨fault, rfl⟩
  | ok success =>
      obtain ⟨h, after⟩ := success
      obtain ⟨slot, table, rfl, inserted, _, names⟩ := names_of_insert sound result
      exact .inr ⟨h, slot, table, rfl, inserted, names⟩

theorem Names.unregister {host : Host} {h : Handle} {slot : Nat} {call : DestructorCall}
    (names : host.Names h slot (.exported call)) (sound : host.table.Sound) :
    ∃ table, host.table.Removed slot (.exported call) table ∧
      host.unregister h =
        (.ok call,
          { host with table, counters.dropRequests := host.counters.dropRequests + 1 }) := by
  obtain ⟨table, removed, spec⟩ := Table.removed_of_get? sound names.get?_eq
  refine ⟨table, spec, ?_⟩
  rw [Host.unregister, (findExported_eq_ok_iff host dropOperation h slot call).2 names]
  simp [bind, Except.bind, pure, Except.pure, vacate, removed]

theorem unregister_cases (host : Host) (h : Handle) (sound : host.table.Sound) :
    (∃ fault, host.unregister h = (.error fault, host.record fault)) ∨
    ∃ call slot table,
      host.unregister h =
        (.ok call,
          { host with table, counters.dropRequests := host.counters.dropRequests + 1 }) ∧
      host.Names h slot (.exported call) ∧ host.table.Removed slot (.exported call) table := by
  cases found : host.findExported dropOperation h with
  | error fault =>
      exact .inl ⟨fault, by rw [unregister, found]; rfl⟩
  | ok place =>
      obtain ⟨slot, call⟩ := place
      have names := (findExported_eq_ok_iff host dropOperation h slot call).1 found
      obtain ⟨table, removed, taken⟩ := names.unregister sound
      exact .inr ⟨call, slot, table, taken, names, removed⟩

theorem Names.release {host : Host} {h : Handle} {slot : Nat} {name : String}
    (names : host.Names h slot (.imported name)) (sound : host.table.Sound) :
    ∃ table, host.table.Removed slot (.imported name) table ∧
      host.release h =
        (.ok (),
          { host with table, counters.importsReleased := host.counters.importsReleased + 1 }) := by
  obtain ⟨table, removed, spec⟩ := Table.removed_of_get? sound names.get?_eq
  refine ⟨table, spec, ?_⟩
  rw [Host.release, (findImported_eq_ok_iff host dropOperation h slot name).2 names]
  simp [bind, Except.bind, pure, Except.pure, vacate, removed]

theorem release_cases (host : Host) (h : Handle) (sound : host.table.Sound) :
    (∃ fault, host.release h = (.error fault, host.record fault)) ∨
    ∃ slot name table,
      host.release h =
        (.ok (),
          { host with table, counters.importsReleased := host.counters.importsReleased + 1 }) ∧
      host.Names h slot (.imported name) ∧ host.table.Removed slot (.imported name) table := by
  cases found : host.findImported dropOperation h with
  | error fault =>
      exact .inl ⟨fault, by rw [release, found]; rfl⟩
  | ok place =>
      obtain ⟨slot, name⟩ := place
      have names := (findImported_eq_ok_iff host dropOperation h slot name).1 found
      obtain ⟨table, removed, given⟩ := names.release sound
      exact .inr ⟨slot, name, table, given, names, removed⟩

theorem rep_eq_ok_iff (host : Host) (h : Handle) (rep : Rep) :
    host.rep h = .ok rep ↔
      ∃ slot call, host.Names h slot (.exported call) ∧ call.rep = rep := by
  constructor
  · intro success
    obtain ⟨⟨slot, call⟩, found, same⟩ := except_bind_eq_ok success
    cases same
    exact ⟨slot, call, (findExported_eq_ok_iff host repOperation h slot call).1 found, rfl⟩
  · rintro ⟨slot, call, names, rfl⟩
    rw [Host.rep, (findExported_eq_ok_iff host repOperation h slot call).2 names]
    rfl

/-- A drop request through a handle that names an object takes the object out of the table and goes
on with its destructor. -/
theorem Names.drop {m : Machine} {h : Handle} {slot : Nat} {call : DestructorCall}
    (names : m.host.Names h slot (.exported call)) (sound : m.host.table.Sound) :
    ∃ table, m.host.table.Removed slot (.exported call) table ∧
      m.drop h =
        Machine.settle
          { m with
            host :=
              { m.host with table, counters.dropRequests := m.host.counters.dropRequests + 1 } }
          call := by
  obtain ⟨table, removed, taken⟩ := names.unregister sound
  exact ⟨table, removed, by rw [Machine.drop, taken]⟩

end Custody.Host
