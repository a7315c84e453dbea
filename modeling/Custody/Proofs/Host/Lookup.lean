import Custody.Proofs.Host.Waiting

/-!
# What a handle has to meet

Three operations take a handle that was handed out before: a drop request, the release of a lent
resource, and the look-up of a representation. Each asks the same of it in the same order, and refuses
it with the fault of the first requirement that it does not meet. They differ in the kind of entry that
they expect and in the name that they put into one of the faults, so a representation can be looked up
exactly when a drop request would be accepted, and no handle can be both dropped and released.
-/

set_option autoImplicit false

namespace Custody.Host

/-- What an operation asks of a handle. -/
inductive Requirement where
  | representation
  | validity
  | registration
  | kind (expected : Kind)

/-- The entry behind the slot of a handle, whatever else is wrong with the handle. -/
def entry? (host : Host) (h : Handle) : Option Entry := h.slot?.bind host.table.get?

namespace Requirement

def isMet (host : Host) (h : Handle) : Requirement → Bool
  | .representation => h.mode = host.config.mode
  | .validity => h.isValid
  | .registration => (host.entry? h).isSome
  | .kind expected => (host.entry? h).all (·.kind = expected)

def fault (host : Host) (operation : String) (h : Handle) : Requirement → Fault
  | .representation => .modeMismatch host.config.mode h.mode
  | .validity => .invalidHandle operation
  | .registration => .unknownHandle (.handle h)
  | .kind expected => .kindMismatch (.handle h) expected.name

/-- The requirements of an operation on entries of one kind, the one that is checked first in front. -/
def inOrder (expected : Kind) : List Requirement :=
  [.representation, .validity, .registration, .kind expected]

end Requirement

def refusal? (host : Host) (operation : String) (expected : Kind) (h : Handle) : Option Fault :=
  ((Requirement.inOrder expected).find? fun requirement => !requirement.isMet host h).map
    (·.fault host operation h)

variable {host : Host} {h : Handle} {operation : String} {expected : Kind} {fault : Fault}

/-! ## One look-up for both kinds -/

theorem find_eq (host : Host) (operation : String) (h : Handle) :
    host.find operation h =
      if h.mode = host.config.mode then
        if h.isValid then
          match h.slot? with
          | some slot =>
              match host.table.get? slot with
              | some entry => .ok (slot, entry)
              | none => .error (.unknownHandle (.handle h))
          | none => .error (.unknownHandle (.handle h))
        else .error (.invalidHandle operation)
      else .error (.modeMismatch host.config.mode h.mode) := by
  unfold find slotOf checkMode
  by_cases same : h.mode = host.config.mode
  · cases valid : h.isValid
    · simp [same, bind, Except.bind]
    · cases h.slot? with
      | none => simp [same, bind, Except.bind]
      | some slot => cases get? : host.table.get? slot <;> simp [same, bind, Except.bind, get?]
  · simp [same, bind, Except.bind]

/-- A handle is refused when no entry is found or one of another kind. -/
theorem refusal?_eq (host : Host) (operation : String) (expected : Kind) (h : Handle) :
    host.refusal? operation expected h =
      match host.find operation h with
      | .error fault => some fault
      | .ok (_, entry) =>
          if entry.kind = expected then none else some (.kindMismatch (.handle h) expected.name) := by
  rw [find_eq]
  unfold refusal? Requirement.inOrder
  by_cases same : h.mode = host.config.mode
  · cases valid : h.isValid
    · simp [Requirement.isMet, Requirement.fault, same, valid]
    · cases slot? : h.slot? with
      | none => simp [Requirement.isMet, Requirement.fault, entry?, same, valid, slot?]
      | some slot =>
          cases get? : host.table.get? slot with
          | none => simp [Requirement.isMet, Requirement.fault, entry?, same, valid, slot?, get?]
          | some entry =>
              by_cases kind : entry.kind = expected <;>
                simp [Requirement.isMet, Requirement.fault, entry?, same, valid, slot?, get?, kind]
  · simp [Requirement.isMet, Requirement.fault, same]

theorem findExported_eq_error_iff :
    host.findExported operation h = .error fault ↔
      host.refusal? operation .exported h = some fault := by
  rw [refusal?_eq, findExported]
  cases host.find operation h with
  | error reason => simp [bind, Except.bind]
  | ok place =>
      obtain ⟨slot, entry⟩ := place
      cases entry <;> simp [bind, Except.bind, Entry.kind]

theorem findImported_eq_error_iff :
    host.findImported operation h = .error fault ↔
      host.refusal? operation .imported h = some fault := by
  rw [refusal?_eq, findImported]
  cases host.find operation h with
  | error reason => simp [bind, Except.bind]
  | ok place =>
      obtain ⟨slot, entry⟩ := place
      cases entry <;> simp [bind, Except.bind, Entry.kind]

/-- The operation is named in one of the faults and has no part in the checks. -/
def Fault.renamed (operation : String) : Fault → Fault
  | .invalidHandle _ => .invalidHandle operation
  | fault => fault

theorem refusal?_renamed (host : Host) (operation other : String) (expected : Kind) (h : Handle) :
    host.refusal? other expected h =
      (host.refusal? operation expected h).map (Fault.renamed other) := by
  unfold refusal?
  rw [Option.map_map]
  congr 1
  funext requirement
  cases requirement <;> rfl

/-- The faults that have to do with the room in a table. -/
def Fault.IsOfTable (fault : Fault) : Prop :=
  (∃ capacity, fault = .tableFull capacity) ∨ ∃ reason, fault = .table reason

theorem not_isOfTable_of_refusal? (refused : host.refusal? operation expected h = some fault) :
    ¬fault.IsOfTable := by
  obtain ⟨requirement, -, rfl⟩ := Option.map_eq_some_iff.1 refused
  cases requirement <;> rintro (⟨_, same⟩ | ⟨_, same⟩) <;> cases same

/-! ## The operations -/

theorem rep_eq_error_iff :
    host.rep h = .error fault ↔ host.refusal? repOperation .exported h = some fault := by
  rw [← findExported_eq_error_iff, rep]
  cases host.findExported repOperation h <;> simp [bind, Except.bind, pure, Except.pure]

theorem unregister_refused (refused : host.refusal? dropOperation .exported h = some fault) :
    host.unregister h = (.error fault, host.record fault) := by
  unfold unregister
  rw [findExported_eq_error_iff.2 refused]
  rfl

theorem Names.unregister_eq {slot : Nat} {call : DestructorCall} {table : Table Entry}
    (names : host.Names h slot (.exported call))
    (removed : host.table.remove slot = .ok (.exported call, table)) :
    host.unregister h =
      (.ok call, { host with table, counters.dropRequests := host.counters.dropRequests + 1 }) := by
  unfold Host.unregister
  rw [(findExported_eq_ok_iff host dropOperation h slot call).2 names]
  simp only [bind, Except.bind, vacate, removed]
  rfl

theorem release_refused (refused : host.refusal? dropOperation .imported h = some fault) :
    host.release h = (.error fault, host.record fault) := by
  unfold release
  rw [findImported_eq_error_iff.2 refused]
  rfl

theorem Names.release_eq {slot : Nat} {name : String} {table : Table Entry}
    (names : host.Names h slot (.imported name))
    (removed : host.table.remove slot = .ok (.imported name, table)) :
    host.release h =
      (.ok (),
        { host with table, counters.importsReleased := host.counters.importsReleased + 1 }) := by
  unfold Host.release
  rw [(findImported_eq_ok_iff host dropOperation h slot name).2 names]
  simp only [bind, Except.bind, vacate, removed]
  rfl

theorem Names.remove_ok {slot : Nat} {entry : Entry} (names : host.Names h slot entry) :
    ∃ table, host.table.remove slot = .ok (entry, table) := by
  unfold Table.remove
  rw [names.get?_eq]
  exact ⟨_, rfl⟩

theorem refusal?_or_exported (host : Host) (operation : String) (h : Handle) :
    (∃ fault, host.refusal? operation .exported h = some fault) ∨
      ∃ slot call, host.Names h slot (.exported call) := by
  cases found : host.findExported operation h with
  | error fault => exact .inl ⟨fault, findExported_eq_error_iff.1 found⟩
  | ok place => exact .inr ⟨place.1, place.2, (findExported_eq_ok_iff _ _ _ _ _).1 found⟩

theorem refusal?_or_imported (host : Host) (operation : String) (h : Handle) :
    (∃ fault, host.refusal? operation .imported h = some fault) ∨
      ∃ slot name, host.Names h slot (.imported name) := by
  cases found : host.findImported operation h with
  | error fault => exact .inl ⟨fault, findImported_eq_error_iff.1 found⟩
  | ok place => exact .inr ⟨place.1, place.2, (findImported_eq_ok_iff _ _ _ _ _).1 found⟩

theorem release_eq_error_iff :
    (host.release h).1 = .error fault ↔ host.refusal? dropOperation .imported h = some fault := by
  obtain ⟨reason, refused⟩ | ⟨slot, name, names⟩ := host.refusal?_or_imported dropOperation h
  · rw [release_refused refused, refused]
    simp
  · obtain ⟨table, removed⟩ := names.remove_ok
    rw [names.release_eq removed, ← findImported_eq_error_iff,
      (findImported_eq_ok_iff host dropOperation h slot name).2 names]
    simp

theorem release_eq_ok_iff :
    (host.release h).1 = .ok () ↔ ∃ slot name, host.Names h slot (.imported name) := by
  constructor
  · intro released
    obtain ⟨fault, refused⟩ | named := host.refusal?_or_imported dropOperation h
    · rw [release_refused refused] at released
      cases released
    · exact named
  · rintro ⟨slot, name, names⟩
    obtain ⟨table, removed⟩ := names.remove_ok
    rw [names.release_eq removed]

theorem Names.not_imported {slot other : Nat} {call : DestructorCall} {name : String}
    (exported : host.Names h slot (.exported call)) (imported : host.Names h other (.imported name)) :
    False := by
  have same : slot = other := Option.some.inj (exported.slot?_eq.symm.trans imported.slot?_eq)
  subst same
  have entries := exported.get?_eq.symm.trans imported.get?_eq
  cases entries

/-! ## Drop requests -/

namespace Machine

variable {m : Machine}

/-- A drop request through the handle goes on with this destructor: it is started at once, or it is
put last in the queue. -/
def Accepts (m : Machine) (h : Handle) (call : DestructorCall) : Prop :=
  match m.host.config.timing with
  | .immediate => (m.drop h).1 = .started call ∧ (m.drop h).2.active = .dropping call :: m.active
  | .deferred => (m.drop h).1 = .queued ∧ (m.drop h).2.host.pending = m.host.pending ++ [call]

theorem drop_refused (refused : m.host.refusal? dropOperation .exported h = some fault) :
    m.drop h = (.rejected fault, { m with host := m.host.record fault }) := by
  unfold drop
  rw [unregister_refused refused]

theorem drop_of_names {slot : Nat} {call : DestructorCall}
    (names : m.host.Names h slot (.exported call)) :
    m.Accepts h call ∧ ∀ fault, (m.drop h).1 ≠ .rejected fault := by
  obtain ⟨table, removed⟩ := names.remove_ok
  unfold Accepts drop settle
  rw [names.unregister_eq removed]
  dsimp only
  cases m.host.config.timing with
  | immediate => exact ⟨⟨rfl, rfl⟩, nofun⟩
  | deferred => exact ⟨⟨rfl, rfl⟩, nofun⟩

theorem drop_eq_rejected_iff :
    (m.drop h).1 = .rejected fault ↔ m.host.refusal? dropOperation .exported h = some fault := by
  constructor
  · intro rejected
    obtain ⟨reason, refused⟩ | ⟨slot, call, names⟩ := m.host.refusal?_or_exported dropOperation h
    · rw [drop_refused refused] at rejected
      cases rejected
      exact refused
    · exact absurd rejected ((drop_of_names names).2 fault)
  · intro refused
    rw [drop_refused refused]

theorem Accepts.unique {first second : DestructorCall} (left : m.Accepts h first)
    (right : m.Accepts h second) : first = second := by
  unfold Accepts at left right
  cases timing : m.host.config.timing with
  | immediate =>
      rw [timing] at left right
      exact DropOutcome.started.inj (left.1.symm.trans right.1)
  | deferred =>
      rw [timing] at left right
      have same := List.append_cancel_left (left.2.symm.trans right.2)
      exact List.singleton_inj.1 same

theorem accepts_iff {call : DestructorCall} :
    m.Accepts h call ↔ ∃ slot, m.host.Names h slot (.exported call) := by
  constructor
  · intro accepted
    obtain ⟨fault, refused⟩ | ⟨slot, named, names⟩ := m.host.refusal?_or_exported dropOperation h
    · unfold Accepts at accepted
      rw [drop_refused refused] at accepted
      cases timing : m.host.config.timing <;> rw [timing] at accepted <;> cases accepted.1
    · exact ⟨slot, (drop_of_names names).1.unique accepted ▸ names⟩
  · rintro ⟨slot, names⟩
    exact (drop_of_names names).1

end Machine

/-! ## The three operations agree -/

/-- A drop request, a release and the look-up of a representation that are given one handle. -/
structure Machine.AgreeOn (m : Machine) (h : Handle) : Prop where
  rep_refused : ∀ fault, m.host.rep h = .error fault ↔
    m.host.refusal? repOperation .exported h = some fault
  drop_refused : ∀ fault, (m.drop h).1 = .rejected fault ↔
    m.host.refusal? dropOperation .exported h = some fault
  release_refused : ∀ fault, (m.host.release h).1 = .error fault ↔
    m.host.refusal? dropOperation .imported h = some fault
  drop_accepted : (∃ call, m.Accepts h call) ↔ m.host.refusal? dropOperation .exported h = none
  rep_found : ∀ rep, m.host.rep h = .ok rep ↔ ∃ call, m.Accepts h call ∧ call.rep = rep
  /-- The fault that is recorded is the one of the look-up under the other operation's name. -/
  drop_recorded : ∀ fault, m.host.rep h = .error fault →
    m.drop h = (.rejected (fault.renamed dropOperation),
      { m with host := m.host.record (fault.renamed dropOperation) })
  one_accepted : ¬((∃ call, m.Accepts h call) ∧ (m.host.release h).1 = .ok ())
  release_accepted : (m.host.release h).1 = .ok () ↔
    ∃ slot name, m.host.Names h slot (.imported name)
  no_table_fault : ∀ fault, fault.IsOfTable → m.host.rep h ≠ .error fault ∧
    (m.drop h).1 ≠ .rejected fault ∧ (m.host.release h).1 ≠ .error fault

/-- Whatever a host has been through, the operations agree on every value that may be passed for a
handle. -/
theorem Machine.agreeOn (m : Machine) (h : Handle) : m.AgreeOn h where
  rep_refused _ := rep_eq_error_iff
  drop_refused _ := drop_eq_rejected_iff
  release_refused _ := release_eq_error_iff
  drop_accepted := by
    constructor
    · rintro ⟨call, accepted⟩
      obtain ⟨slot, names⟩ := accepts_iff.1 accepted
      rw [Option.eq_none_iff_forall_ne_some]
      intro fault refused
      exact (drop_of_names names).2 fault (drop_eq_rejected_iff.2 refused)
    · intro free
      obtain ⟨fault, refused⟩ | ⟨slot, call, names⟩ := m.host.refusal?_or_exported dropOperation h
      · cases free.symm.trans refused
      · exact ⟨call, accepts_iff.2 ⟨slot, names⟩⟩
  rep_found rep := by
    rw [rep_eq_ok_iff]
    constructor
    · rintro ⟨slot, call, names, same⟩
      exact ⟨call, accepts_iff.2 ⟨slot, names⟩, same⟩
    · rintro ⟨call, accepted, same⟩
      obtain ⟨slot, names⟩ := accepts_iff.1 accepted
      exact ⟨slot, call, names, same⟩
  drop_recorded fault unfound := by
    have refused := rep_eq_error_iff.1 unfound
    apply Machine.drop_refused
    rw [refusal?_renamed m.host repOperation dropOperation, refused]
    rfl
  one_accepted := by
    rintro ⟨⟨call, accepted⟩, released⟩
    obtain ⟨slot, exported⟩ := accepts_iff.1 accepted
    obtain ⟨other, name, imported⟩ := release_eq_ok_iff.1 released
    exact exported.not_imported imported
  release_accepted := release_eq_ok_iff
  no_table_fault fault ofTable := by
    refine ⟨fun refused => ?_, fun refused => ?_, fun refused => ?_⟩
    · exact not_isOfTable_of_refusal? (rep_eq_error_iff.1 refused) ofTable
    · exact not_isOfTable_of_refusal? (drop_eq_rejected_iff.1 refused) ofTable
    · exact not_isOfTable_of_refusal? (release_eq_error_iff.1 refused) ofTable

end Custody.Host
