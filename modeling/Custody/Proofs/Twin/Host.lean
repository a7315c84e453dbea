import Custody.Proofs.Host.Room

/-!
# Hosts of the other representation

A host of integers has a twin that uses addresses and has the same entries at the same slots. Every
handle has a twin too, which names the same slot or none. An operation of a host, asked for the twin
of a handle, answers the twin of its answer and leaves the twin of the host behind, as long as no
slot is too large for an integer.
-/

set_option autoImplicit false

namespace Custody

open Host (Activation Continuation DestructorCall DropOutcome Entry Fault Machine Subject Table)

/-! ## Handles -/

def Mode.other : Mode → Mode
  | .integer => .pointer
  | .pointer => .integer

namespace Handle

/-- The handle of the other representation with the same meaning. The address of an integer is one
more than it, and all negative integers become the null address. A host of integers refuses every
address for its representation, so of an address only the validity is kept. -/
def twin : Handle → Handle
  | .integer value =>
      if 0 ≤ value then .pointer (UInt64.ofNat (value.toInt.toNat + 1)) else .pointer 0
  | .pointer address => if address = 0 then .integer (-1) else .integer 0

@[simp]
theorem mode_twin (h : Handle) : h.twin.mode = h.mode.other := by
  cases h <;> unfold twin <;> dsimp only <;> split <;> rfl

@[simp]
theorem twin_invalid (m : Mode) : (invalid m).twin = invalid m.other := by
  cases m <;> decide

private theorem toNat_address {value : Int32} (nonneg : 0 ≤ value) :
    (UInt64.ofNat (value.toInt.toNat + 1)).toNat = value.toInt.toNat + 1 := by
  have small := value.toInt_lt
  have nonneg : 0 ≤ value.toInt := by simpa [Int32.le_iff_toInt_le] using nonneg
  have fits : value.toInt.toNat + 1 < UInt64.size := by
    unfold UInt64.size
    omega
  exact UInt64.toNat_ofNat_of_lt' fits

@[simp]
theorem isValid_twin (h : Handle) : h.twin.isValid = h.isValid := by
  cases h with
  | integer value =>
      by_cases nonneg : 0 ≤ value
      · have address : UInt64.ofNat (value.toInt.toNat + 1) ≠ 0 := fun null => by
          have zero := toNat_address nonneg
          rw [null] at zero
          cases zero
        simpa [twin, isValid, nonneg] using address
      · simp [twin, isValid, nonneg]
  | pointer address =>
      by_cases null : address = 0
      · subst null
        decide
      · simp [twin, isValid, null]

theorem slot?_twin {h : Handle} (integer : h.mode = .integer) : h.twin.slot? = h.slot? := by
  cases h with
  | integer value =>
      by_cases nonneg : 0 ≤ value
      · have small := value.toInt_lt
        have address := toNat_address nonneg
        have nonneg' : 0 ≤ value.toInt := by simpa [Int32.le_iff_toInt_le] using nonneg
        have inside : ¬0x100000000 < value.toInt.toNat + 1 := by omega
        simp only [twin, nonneg, if_true, slot?, address, inside]
        simp
      · simp [twin, slot?, nonneg]
  | pointer address => cases integer

theorem ofSlot?_twin {slot : Nat} (small : slot < 2 ^ 31) :
    ∃ h, ofSlot? .integer slot = some h ∧ ofSlot? .pointer slot = some h.twin := by
  have value : (Int32.ofNat slot).toInt = slot := Int32.toInt_ofNat_of_lt small
  have nonneg : (0 : Int32) ≤ Int32.ofNat slot := by
    rw [Int32.le_iff_toInt_le, value]
    simp
  have inside : slot < 0x100000000 := by omega
  refine ⟨.integer (Int32.ofNat slot), if_pos small, (if_pos inside).trans ?_⟩
  rw [twin, if_pos nonneg, value, Int.toNat_natCast]

end Handle

/-! ## Faults -/

namespace Host

def Subject.twin : Subject → Subject
  | .handle h => .handle h.twin
  | .slot n => .slot n

def Fault.twin : Fault → Fault
  | .unknownHandle subject => .unknownHandle subject.twin
  | .kindMismatch subject expected => .kindMismatch subject.twin expected
  | .modeMismatch expected found => .modeMismatch expected.other found.other
  | .invalidHandle operation => .invalidHandle operation
  | .tableFull capacity => .tableFull capacity
  | .table reason => .table reason

section Answers

variable {α β γ δ : Type}

def answerTwin (f : α → β) : Except Fault α → Except Fault β
  | .ok value => .ok (f value)
  | .error fault => .error fault.twin

theorem answerTwin_bind {f : α → β} {g : γ → δ} {answer : Except Fault α}
    {next : α → Except Fault γ} {twinNext : β → Except Fault δ}
    (same : ∀ value, twinNext (f value) = answerTwin g (next value)) :
    (answerTwin f answer >>= twinNext) = answerTwin g (answer >>= next) := by
  cases answer with
  | error fault => rfl
  | ok value => exact same value

end Answers

/-! ## Tables -/

namespace Table

variable {α β : Type} (f : α → β)

def map (t : Table α) : Table β :=
  { slots := t.slots.map (Option.map f), freed := t.freed, live := t.live, capacity := t.capacity }

theorem get?_map (t : Table α) (slot : Nat) : (t.map f).get? slot = (t.get? slot).map f := by
  simp only [get?, map, Array.getElem?_map]
  cases t.slots[slot]? <;> rfl

theorem insert_map (t : Table α) (entry : α) :
    (t.map f).insert (f entry) = answerTwin (Prod.map id (map f)) (t.insert entry) := by
  unfold insert
  by_cases full : t.capacity ≤ t.live
  · simp [map, full, answerTwin, Fault.twin]
  · simp only [map, full, if_false]
    cases freed : t.freed with
    | cons slot rest => simp [map, answerTwin]
    | nil =>
        by_cases fresh : t.slots.size < slotLimit
        · simp [map, fresh, answerTwin]
        · simp [fresh, answerTwin, Fault.twin]

theorem remove_map (t : Table α) (slot : Nat) :
    (t.map f).remove slot = answerTwin (Prod.map f (map f)) (t.remove slot) := by
  unfold remove
  rw [get?_map]
  cases t.get? slot with
  | none => rfl
  | some entry => simp [map, answerTwin]

end Table

/-! ## Hosts -/

section Hosts

variable (nodeType : Mode → String)

/-- The name of the type of a guest's object says what its handle is. -/
def DestructorCall.twin (call : DestructorCall) : DestructorCall :=
  match call.destructor with
  | .reclaim => { call with typeName := nodeType .pointer }
  | .note => call

def Entry.twin : Entry → Entry
  | .exported call => .exported (call.twin nodeType)
  | .imported name => .imported name

@[simp]
theorem DestructorCall.rep_twin (call : DestructorCall) : (call.twin nodeType).rep = call.rep := by
  unfold twin
  split <;> rfl

@[simp]
theorem DestructorCall.destructor_twin (call : DestructorCall) :
    (call.twin nodeType).destructor = call.destructor := by
  unfold twin
  split <;> rfl

end Hosts

end Host

def HostConfig.twin (config : HostConfig) : HostConfig :=
  { config with mode := config.mode.other }

namespace Host

section Operations

variable (nodeType : Mode → String)

def twin (host : Host) : Host :=
  { config := host.config.twin
    table := host.table.map (Entry.twin nodeType)
    pending := host.pending.map (DestructorCall.twin nodeType)
    counters := host.counters
    faults := host.faults.map Fault.twin }

theorem twin_install (config : HostConfig) :
    (install config).twin nodeType = install config.twin := by
  simp [install, twin, Table.empty, Table.map, HostConfig.twin]

/-- A host of integers whose slots all are small enough for an integer. -/
structure Narrow (host : Host) : Prop where
  mode_eq : host.config.mode = .integer
  capacity_le : host.table.capacity ≤ 2 ^ 31
  compact : host.table.Compact

theorem narrow_install {config : HostConfig} (integer : config.mode = .integer)
    (small : config.maxHandles.toNat ≤ 2 ^ 31) : (install config).Narrow :=
  ⟨integer, small, Table.compact_empty _⟩

variable {nodeType} {host after : Host}

theorem Narrow.operated (narrow : host.Narrow) (operated : host.Operated after) : after.Narrow where
  mode_eq := by rw [operated.config_eq, narrow.mode_eq]
  capacity_le := by
    rw [operated.table.capacity_eq narrow.compact.sound]
    exact narrow.capacity_le
  compact := narrow.compact.rearranged operated.table

variable (nodeType)

theorem checkMode_twin (host : Host) (mode : Mode) :
    (host.twin nodeType).checkMode mode.other = answerTwin id (host.checkMode mode) := by
  unfold checkMode
  have same : mode.other = (host.twin nodeType).config.mode ↔ mode = host.config.mode := by
    simp only [twin, HostConfig.twin]
    cases mode <;> cases host.config.mode <;> decide
  by_cases own : mode = host.config.mode
  · rw [if_pos own, if_pos (same.2 own)]
    rfl
  · rw [if_neg own, if_neg (same.not.2 own)]
    rfl

theorem Narrow.slotOf_twin (narrow : host.Narrow) (operation : String) (h : Handle) :
    (host.twin nodeType).slotOf operation h.twin = answerTwin id (host.slotOf operation h) := by
  unfold slotOf
  rw [Handle.mode_twin, checkMode_twin]
  by_cases own : h.mode = host.config.mode
  · rw [(checkMode_eq_ok_iff host h.mode).2 own]
    change (if h.twin.isValid then _ else _) = answerTwin id (if h.isValid then _ else _)
    rw [Handle.isValid_twin, Handle.slot?_twin (own.trans narrow.mode_eq)]
    cases h.isValid with
    | false => rfl
    | true => cases h.slot? <;> rfl
  · unfold checkMode
    rw [if_neg own]
    rfl

theorem Narrow.find_twin (narrow : host.Narrow) (operation : String) (h : Handle) :
    (host.twin nodeType).find operation h.twin =
      answerTwin (Prod.map id (Entry.twin nodeType)) (host.find operation h) := by
  unfold find
  rw [narrow.slotOf_twin]
  refine answerTwin_bind fun slot => ?_
  have found : (host.twin nodeType).table.get? slot = (host.table.get? slot).map _ :=
    host.table.get?_map (Entry.twin nodeType) slot
  rw [id_eq, found]
  cases host.table.get? slot <;> rfl

theorem Narrow.findExported_twin (narrow : host.Narrow) (operation : String) (h : Handle) :
    (host.twin nodeType).findExported operation h.twin =
      answerTwin (Prod.map id (DestructorCall.twin nodeType)) (host.findExported operation h) := by
  unfold findExported
  rw [narrow.find_twin]
  refine answerTwin_bind fun found => ?_
  obtain ⟨slot, entry⟩ := found
  cases entry <;> rfl

theorem Narrow.findImported_twin (narrow : host.Narrow) (operation : String) (h : Handle) :
    (host.twin nodeType).findImported operation h.twin =
      answerTwin id (host.findImported operation h) := by
  unfold findImported
  rw [narrow.find_twin]
  refine answerTwin_bind fun found => ?_
  obtain ⟨slot, entry⟩ := found
  cases entry <;> rfl

theorem vacate_twin (host : Host) (slot : Nat) :
    (host.twin nodeType).vacate slot = answerTwin (twin nodeType) (host.vacate slot) := by
  unfold vacate
  have removed := host.table.remove_map (Entry.twin nodeType) slot
  rw [show (host.twin nodeType).table = host.table.map (Entry.twin nodeType) from rfl, removed]
  exact answerTwin_bind fun _ => rfl

/-- An entry is stored only for a handle of the host's own representation, so only there the twin of
the entry counts. -/
theorem Narrow.insert_twin (narrow : host.Narrow) (mode : Mode) {entry twinEntry : Entry}
    (same : mode = .integer → twinEntry = entry.twin nodeType) :
    (host.twin nodeType).insert mode.other twinEntry =
      answerTwin (Prod.map Handle.twin (twin nodeType)) (host.insert mode entry) := by
  unfold insert
  rw [checkMode_twin]
  by_cases own : mode = host.config.mode
  · have integer := own.trans narrow.mode_eq
    rw [(checkMode_eq_ok_iff host mode).2 own, same integer]
    have inserted := host.table.insert_map (Entry.twin nodeType) entry
    change ((host.table.map (Entry.twin nodeType)).insert (entry.twin nodeType) >>= _) =
      answerTwin _ (host.table.insert entry >>= _)
    rw [inserted]
    cases result : host.table.insert entry with
    | error fault => rfl
    | ok success =>
        obtain ⟨slot, table⟩ := success
        have kept := narrow.compact.inserted result
        have small : slot < 2 ^ 31 := by
          have size := kept.1.size_le
          have capacity := (Table.inserted_of_insert narrow.compact.sound result).capacity_eq
          have limit := narrow.capacity_le
          omega
        obtain ⟨h, made, twinMade⟩ := Handle.ofSlot?_twin small
        subst integer
        simp only [bind, Except.bind, answerTwin, Prod.map, Mode.other, made, twinMade, id_eq]
        rfl
  · unfold checkMode
    rw [if_neg own]
    rfl

/-! ### What the operations answer and leave behind -/

theorem record_twin (host : Host) (fault : Fault) :
    (host.twin nodeType).record fault.twin = (host.record fault).twin nodeType := by
  simp [record, twin]

theorem Narrow.register_twin (narrow : host.Narrow) (mode : Mode) {call twinCall : DestructorCall}
    (same : mode = .integer → twinCall = call.twin nodeType) :
    (host.twin nodeType).register mode.other twinCall =
      Prod.map (answerTwin Handle.twin) (twin nodeType) (host.register mode call) := by
  have entries (integer : mode = .integer) :
      Entry.exported twinCall = (Entry.exported call).twin nodeType :=
    congrArg Entry.exported (same integer)
  unfold register
  rw [narrow.insert_twin nodeType mode entries]
  cases host.insert mode (.exported call) with
  | ok success => rfl
  | error fault => exact congrArg (Prod.mk _) (record_twin nodeType host fault)

theorem Narrow.unregister_twin (narrow : host.Narrow) (h : Handle) :
    (host.twin nodeType).unregister h.twin =
      Prod.map (answerTwin (DestructorCall.twin nodeType)) (twin nodeType) (host.unregister h) := by
  unfold unregister
  rw [narrow.findExported_twin]
  cases host.findExported dropOperation h with
  | error fault => exact congrArg (Prod.mk _) (record_twin nodeType host fault)
  | ok found =>
      obtain ⟨slot, call⟩ := found
      have vacated := vacate_twin nodeType host slot
      simp only [answerTwin, Prod.map, id_eq, bind, Except.bind] at vacated ⊢
      rw [vacated]
      cases host.vacate slot with
      | error fault => exact congrArg (Prod.mk _) (record_twin nodeType host fault)
      | ok after => rfl

theorem Narrow.rep_twin (narrow : host.Narrow) (h : Handle) :
    (host.twin nodeType).rep h.twin = answerTwin id (host.rep h) := by
  unfold rep
  rw [narrow.findExported_twin]
  refine answerTwin_bind fun found => ?_
  exact congrArg Except.ok (found.2.rep_twin nodeType)

theorem Narrow.lend_twin (narrow : host.Narrow) (mode : Mode) (name : String) :
    (host.twin nodeType).lend mode.other name =
      answerTwin (Prod.map Handle.twin (twin nodeType)) (host.lend mode name) := by
  have entries (_ : mode = .integer) :
      Entry.imported name = (Entry.imported name).twin nodeType := rfl
  unfold lend
  rw [narrow.insert_twin nodeType mode entries]
  exact answerTwin_bind fun _ => rfl

theorem Narrow.release_twin (narrow : host.Narrow) (h : Handle) :
    (host.twin nodeType).release h.twin =
      Prod.map (answerTwin id) (twin nodeType) (host.release h) := by
  unfold release
  rw [narrow.findImported_twin]
  cases host.findImported dropOperation h with
  | error fault => exact congrArg (Prod.mk _) (record_twin nodeType host fault)
  | ok found =>
      obtain ⟨slot, name⟩ := found
      have vacated := vacate_twin nodeType host slot
      simp only [answerTwin, id_eq, bind, Except.bind] at vacated ⊢
      rw [vacated]
      cases host.vacate slot with
      | error fault => exact congrArg (Prod.mk _) (record_twin nodeType host fault)
      | ok after => rfl

theorem takeFaults_twin (host : Host) :
    (host.twin nodeType).takeFaults =
      Prod.map (List.map Fault.twin) (twin nodeType) host.takeFaults := rfl

end Operations

/-! ## Destructors that run -/

section Machines

variable (nodeType : Mode → String)

def Activation.twin : Activation → Activation
  | .dropping call => .dropping (call.twin nodeType)
  | .flushing call rest total =>
      .flushing (call.twin nodeType) (rest.map (DestructorCall.twin nodeType)) total

def DropOutcome.twin : DropOutcome → DropOutcome
  | .rejected fault => .rejected fault.twin
  | .queued => .queued
  | .started call => .started (call.twin nodeType)

def Continuation.twin : Continuation → Continuation
  | .dropped => .dropped
  | .flushed count => .flushed count
  | .started call => .started (call.twin nodeType)
  | .idle => .idle

namespace Machine

def twin (m : Machine) : Machine :=
  { host := m.host.twin nodeType, active := m.active.map (Activation.twin nodeType) }

theorem settle_twin (m : Machine) (call : DestructorCall) :
    (m.twin nodeType).settle (call.twin nodeType) =
      Prod.map (DropOutcome.twin nodeType) (twin nodeType) (m.settle call) := by
  unfold settle
  have timing : (m.twin nodeType).host.config.timing = m.host.config.timing := rfl
  rw [timing]
  cases m.host.config.timing with
  | immediate => rfl
  | deferred => simp [twin, Host.twin, DropOutcome.twin]

theorem drop_twin {m : Machine} (narrow : m.host.Narrow) (h : Handle) :
    (m.twin nodeType).drop h.twin =
      Prod.map (DropOutcome.twin nodeType) (twin nodeType) (m.drop h) := by
  unfold drop
  rw [show (m.twin nodeType).host = m.host.twin nodeType from rfl, narrow.unregister_twin]
  obtain ⟨answer, host⟩ := m.host.unregister h
  cases answer with
  | error fault => rfl
  | ok call => exact settle_twin nodeType { m with host } call

theorem nextBatch_twin (m : Machine) (total : Nat) :
    (m.twin nodeType).nextBatch total =
      Prod.map (Continuation.twin nodeType) (twin nodeType) (m.nextBatch total) := by
  unfold nextBatch
  cases pending : m.host.pending with
  | nil => simp [twin, Host.twin, pending, Continuation.twin]
  | cons call rest => simp [twin, Host.twin, pending, Continuation.twin, Activation.twin]

theorem finish_twin (m : Machine) :
    (m.twin nodeType).finish =
      Prod.map (Continuation.twin nodeType) (twin nodeType) m.finish := by
  unfold finish
  cases active : m.active with
  | nil => simp [twin, active, Continuation.twin]
  | cons activation under =>
      cases activation with
      | dropping call =>
          simp [twin, active, Continuation.twin, Activation.twin, Host.twin]
      | flushing call rest total =>
          cases rest with
          | nil =>
              simp only [twin, active, List.map_cons, List.map_nil, Activation.twin]
              exact nextBatch_twin nodeType
                { host :=
                    { m.host with
                      counters.destructorsRun := m.host.counters.destructorsRun + 1 }
                  active := under }
                total
          | cons next rest =>
              simp [twin, active, Continuation.twin, Activation.twin, Host.twin]

end Machine

end Machines

end Host

end Custody
