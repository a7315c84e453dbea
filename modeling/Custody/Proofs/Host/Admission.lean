import Custody.Proofs.Host.Rejection

/-!
# How many entries a host admits

A host admits an entry when its table may hold one more and its handles can name one more slot. Slots
are dense, since a table makes a new one only when each of the others has an entry. So the number of
entries decides, whatever was registered and given back before. Integers end at the slot that a signed
number of 32 bits cannot name: an insertion that comes to it is rejected, and once an entry is given
back there is a slot with a handle again.
-/

set_option autoImplicit false

namespace Custody

/-- How many slots have a handle in a representation. -/
def Mode.slots : Mode → Nat
  | .integer => 2 ^ 31
  | .pointer => 2 ^ 32

theorem Mode.slots_le (mode : Mode) : mode.slots ≤ Host.Table.slotLimit := by
  cases mode <;> decide

theorem Handle.ofSlot?_isSome_iff (mode : Mode) (slot : Nat) :
    (∃ h, ofSlot? mode slot = some h) ↔ slot < mode.slots := by
  cases mode with
  | integer => simp [ofSlot?, Mode.slots]
  | pointer => simp [ofSlot?, Mode.slots]

theorem Handle.ofSlot?_unnameable : ofSlot? .integer (2 ^ 31) = none := by decide

namespace Host

/-! ## What is asked -/

/-- What can be asked to be put into the table. -/
inductive Insertion where
  | object (call : DestructorCall)
  | resource (name : String)

def Insertion.entry : Insertion → Entry
  | .object call => .exported call
  | .resource name => .imported name

def Insertion.into (mode : Mode) : Insertion → Call
  | .object call => .register mode call
  | .resource name => .lend mode name

def Entry.giveBack (h : Handle) : Entry → Call
  | .exported _ => .drop h
  | .imported _ => .release h

/-- Whether a call leaves the host in its place and puts no entry into its table. -/
def Call.KeepsRoom : Call → Prop
  | .register _ _ | .lend _ _ | .install _ => False
  | _ => True

def Response.inserted? : Response → Option (Except Fault Handle)
  | .registered result | .lent result => some result
  | _ => none

/-! ## Room for one more -/

/-- The most entries that a host has room for. -/
def room (host : Host) : Nat := min host.config.maxHandles.toNat host.config.mode.slots

/-- A host that fits and whose table holds as many entries as it is configured to. -/
structure Sized (host : Host) : Prop where
  fits : host.Fits
  capacity_eq : host.table.capacity = host.config.maxHandles.toNat

variable {host after : Host} {m : Machine} {entry : Entry} {h : Handle} {slot : Nat}

theorem sized_install (config : HostConfig) : (install config).Sized :=
  ⟨fits_install config, rfl⟩

theorem Sized.operated (sized : host.Sized) (operated : host.Operated after) : after.Sized where
  fits := sized.fits.operated operated
  capacity_eq := by
    rw [operated.table.capacity_eq sized.fits.compact.sound, sized.capacity_eq, operated.config_eq]

theorem Sized.live_le (sized : host.Sized) : host.live ≤ host.room := by
  have sound := sized.fits.compact.sound
  refine Nat.le_min.2 ⟨sized.capacity_eq ▸ sound.live_le, ?_⟩
  have entries : host.live ≤ host.table.slots.size :=
    sound.live_eq.le.trans host.table.length_entries_le
  refine entries.trans (Nat.le_of_not_lt fun beyond => ?_)
  exact Nat.lt_irrefl _ ((Handle.ofSlot?_isSome_iff _ _).1 (sized.fits.nameable _ beyond))

/-- The number of entries decides whether one more is admitted. -/
theorem Sized.insert_iff (sized : host.Sized) (entry : Entry) :
    (∃ h after, host.insert host.config.mode entry = .ok (h, after)) ↔ host.live < host.room := by
  have sound := sized.fits.compact.sound
  constructor
  · rintro ⟨h, after, inserted⟩
    have bound := (sized.operated (.insert inserted)).live_le
    obtain ⟨_, table, rfl, filled, _⟩ := names_of_insert sound inserted
    exact filled.live_eq.ge.trans bound
  · intro below
    obtain ⟨capacity, nameable⟩ := Nat.lt_min.1 below
    rw [← sized.capacity_eq] at capacity
    obtain ⟨slot, table, inserted, place⟩ :=
      Table.insert_ok sound capacity (nameable.trans_le host.config.mode.slots_le) entry
    obtain ⟨h, named⟩ : ∃ h, Handle.ofSlot? host.config.mode slot = some h := by
      rcases place with own | rfl
      · exact sized.fits.nameable slot own
      · exact (Handle.ofSlot?_isSome_iff _ _).2 nameable
    exact ⟨h, _, insert_of_named inserted named⟩

/-- A host rejects an entry because its table is full. Only addresses can come to the last slot of a
table that may hold more entries than there are slots. -/
theorem Sized.insert_fault (sized : host.Sized) {fault : Fault}
    (refused : host.insert host.config.mode entry = .error fault) :
    fault = .tableFull host.config.maxHandles.toNat ∨
      host.config.mode = .pointer ∧ 2 ^ 32 < host.config.maxHandles.toNat ∧
        fault = .table "resource table has no free keys" := by
  have sound := sized.fits.compact.sound
  rw [← sized.capacity_eq]
  obtain full | ⟨beyond, exhausted⟩ := exhausted_of_insert sound refused
  · exact .inl full
  · refine .inr ⟨?_, beyond, exhausted⟩
    cases mode : host.config.mode with
    | pointer => rfl
    | integer =>
        have few : host.live ≤ host.config.mode.slots := sized.live_le.trans (Nat.min_le_right _ _)
        have small : host.table.live < Table.slotLimit := by
          rw [mode] at few
          exact few.trans_lt (by decide)
        obtain ⟨slot, table, inserted, _⟩ := Table.insert_ok sound (small.trans beyond) small entry
        -- the table has a slot, so only its handle can be missing
        unfold insert at refused
        rw [(checkMode_eq_ok_iff host host.config.mode).2 rfl, inserted, exhausted] at refused
        simp only [bind, Except.bind] at refused
        split at refused <;> cases refused

/-! ## Insertions -/

theorem Response.fault?_of_inserted? {response : Response} {fault : Fault}
    (refused : response.inserted? = some (.error fault)) : response.fault? = some fault := by
  cases response with
  | registered result | lent result =>
      cases refused
      rfl
  | _ => cases refused

theorem ask_insertion (m : Machine) (mode : Mode) (insertion : Insertion) :
    (m.ask (insertion.into mode)).1.inserted? =
      some ((m.host.insert mode insertion.entry).map Prod.fst) := by
  cases insertion with
  | object call =>
      simp only [Insertion.into, Insertion.entry, Machine.ask, register]
      cases m.host.insert mode (.exported call) <;> rfl
  | resource name =>
      simp only [Insertion.into, Insertion.entry, Machine.ask, lend]
      cases m.host.insert mode (.imported name) <;> rfl

theorem ask_insertion_ok_iff {mode : Mode} {insertion : Insertion} :
    (m.ask (insertion.into mode)).1.inserted? = some (.ok h) ↔
      ∃ after, m.host.insert mode insertion.entry = .ok (h, after) := by
  rw [ask_insertion]
  cases m.host.insert mode insertion.entry with
  | error fault => simp [Except.map]
  | ok success => simp [Except.map, Prod.ext_iff, eq_comm]

theorem ask_insertion_error_iff {mode : Mode} {insertion : Insertion} {fault : Fault} :
    (m.ask (insertion.into mode)).1.inserted? = some (.error fault) ↔
      m.host.insert mode insertion.entry = .error fault := by
  rw [ask_insertion]
  cases m.host.insert mode insertion.entry <;> simp [Except.map]

/-! ## Entries that are given back -/

/-- A host later on, with no more entries than it had. -/
structure Emptied (host after : Host) : Prop where
  config_eq : after.config = host.config
  live_le : after.live ≤ host.live

theorem emptied_of_eq (config : after.config = host.config) (live : after.live = host.live) :
    host.Emptied after :=
  ⟨config, live.le⟩

theorem Emptied.trans {middle : Host} (first : host.Emptied middle) (second : middle.Emptied after) :
    host.Emptied after :=
  ⟨second.config_eq.trans first.config_eq, second.live_le.trans first.live_le⟩

theorem Names.giveBack (names : m.host.Names h slot entry) (sound : m.host.table.Sound) :
    (m.ask (entry.giveBack h)).2.host.config = m.host.config ∧
      m.host.live = (m.ask (entry.giveBack h)).2.host.live + 1 := by
  cases entry with
  | exported call =>
      obtain ⟨table, pending, active, removed, dropped, _⟩ := names.drop_frame sound
      simp only [Entry.giveBack, Machine.ask, dropped]
      exact ⟨trivial, removed.live_eq⟩
  | imported name =>
      obtain ⟨table, removed, released⟩ := names.release sound
      simp only [Entry.giveBack, Machine.ask, released]
      exact ⟨trivial, removed.live_eq⟩

theorem emptied_ask (sound : m.host.table.Sound) {call : Call} (keeps : call.KeepsRoom) :
    m.host.Emptied (m.ask call).2.host := by
  cases call with
  | register mode call => exact keeps.elim
  | lend mode name => exact keeps.elim
  | install config => exact keeps.elim
  | drop h =>
      rcases m.host.refusal?_or_exported dropOperation h with ⟨fault, refused⟩ | ⟨slot, call, names⟩
      · simp only [Machine.ask, Machine.drop_refused refused]
        exact emptied_of_eq rfl rfl
      · obtain ⟨config, live⟩ := names.giveBack sound
        exact ⟨config, live ▸ Nat.le_succ _⟩
  | release h =>
      rcases m.host.refusal?_or_imported dropOperation h with ⟨fault, refused⟩ | ⟨slot, name, names⟩
      · simp only [Machine.ask, release_refused refused]
        exact emptied_of_eq rfl rfl
      · obtain ⟨config, live⟩ := names.giveBack sound
        exact ⟨config, live ▸ Nat.le_succ _⟩
  | flush =>
      obtain ⟨pending, active, flushed⟩ := m.flush_frame
      simp only [Machine.ask, flushed]
      exact emptied_of_eq rfl rfl
  | finish =>
      cases active : m.active with
      | nil =>
          simp only [Machine.ask, Machine.finish, active]
          exact emptied_of_eq rfl rfl
      | cons activation under =>
          obtain ⟨pending, active, finished⟩ := m.finish_frame (by simp [active])
          simp only [Machine.ask, finished]
          exact emptied_of_eq rfl rfl
  | takeFaults | rep | counters | settings | census => exact emptied_of_eq rfl rfl

theorem Sized.ask (sized : m.host.Sized) (call : Call) : (m.ask call).2.host.Sized := by
  obtain operated | ⟨config, installed⟩ := m.ask_operated call
  · exact sized.operated operated
  · exact installed ▸ sized_install config

theorem Sized.asked (sized : m.host.Sized) (calls : List Call) :
    (m.asked Machine.ask calls).host.Sized := by
  induction calls generalizing m with
  | nil => exact sized
  | cons call rest ih => exact ih (sized.ask call)

theorem emptied_asked (sized : m.host.Sized) {calls : List Call}
    (keeps : ∀ call ∈ calls, call.KeepsRoom) : m.host.Emptied (m.asked Machine.ask calls).host := by
  induction calls generalizing m with
  | nil => exact emptied_of_eq rfl rfl
  | cons call rest ih =>
      obtain ⟨first, keeps⟩ := List.forall_mem_cons.1 keeps
      exact (emptied_ask sized.fits.compact.sound first).trans (ih (sized.ask call) keeps)

/-! ## Admission -/

/-- A machine whose host admits entries up to its room and no more, where calls do what `answer` says. -/
structure Admits (answer : Machine → Call → Response × Machine) (m : Machine) : Prop where
  /-- An insertion for the host's own representation succeeds as long as there is room. -/
  admitted_iff : ∀ insertion : Insertion,
    (∃ h, (answer m (insertion.into m.host.config.mode)).1.inserted? = some (.ok h)) ↔
      m.host.live < m.host.room
  /-- Otherwise it is rejected because the table is full. -/
  rejected : ∀ (insertion : Insertion) (fault : Fault),
    (answer m (insertion.into m.host.config.mode)).1.inserted? = some (.error fault) →
    fault = .tableFull m.host.config.maxHandles.toNat ∨
      m.host.config.mode = .pointer ∧ 2 ^ 32 < m.host.config.maxHandles.toNat ∧
        fault = .table "resource table has no free keys"
  /-- The new handle is valid and none of those that name an entry, and each entry has one. -/
  apart : ∀ (insertion : Insertion) (h : Handle),
    (answer m (insertion.into m.host.config.mode)).1.inserted? = some (.ok h) →
    h.isValid = true ∧ ∀ slot entry, m.host.table.get? slot = some entry →
      ∃ other, m.host.Names other slot entry ∧ other ≠ h
  /-- An insertion that comes to the slot without an integer is rejected, and to give any entry back
  makes room for the next one. -/
  last_slot : m.host.config.mode = .integer → ∀ (insertion : Insertion) (table : Table Entry),
    m.host.table.insert insertion.entry = .ok (2 ^ 31, table) →
    (answer m (insertion.into .integer)).1.inserted? =
        some (.error (.tableFull m.host.config.maxHandles.toNat)) ∧
      ∀ h slot entry, m.host.Names h slot entry → ∀ later, (∀ call ∈ later, call.KeepsRoom) →
        ∀ next : Insertion, ∃ given,
          (answer (m.asked answer (insertion.into .integer :: entry.giveBack h :: later))
            (next.into .integer)).1.inserted? = some (.ok given)

theorem Names.of_fits (fits : host.Fits) (present : host.table.get? slot = some entry) :
    ∃ h, host.Names h slot entry := by
  have inside := host.table.slot_lt ((host.table.get?_eq_some_iff slot entry).1 present)
  obtain ⟨h, named⟩ := fits.nameable slot inside
  obtain ⟨mode, slot?⟩ := Handle.slot?_of_ofSlot? named
  exact ⟨h, mode, slot?, present⟩

theorem Sized.apart (sized : host.Sized)
    (inserted : host.insert host.config.mode entry = .ok (h, after)) :
    h.isValid = true ∧ ∀ slot entry, host.table.get? slot = some entry →
      ∃ other, host.Names other slot entry ∧ other ≠ h := by
  obtain ⟨taken, table, rfl, filled, _, names⟩ := names_of_insert sized.fits.compact.sound inserted
  refine ⟨Handle.isValid_of_slot? names.slot?_eq, fun slot entry present => ?_⟩
  obtain ⟨other, also⟩ := Names.of_fits sized.fits present
  refine ⟨other, also, ?_⟩
  rintro rfl
  have same : slot = taken := Option.some.inj (also.slot?_eq.symm.trans names.slot?_eq)
  rw [same, filled.absent] at present
  cases present

/-- The table has room when an insertion comes to the slot without an integer. -/
theorem Sized.insert_last (sized : host.Sized) (integer : host.config.mode = .integer)
    {table : Table Entry} (last : host.table.insert entry = .ok (2 ^ 31, table)) :
    host.insert .integer entry = .error (.tableFull host.config.maxHandles.toNat) ∧
      host.live ≤ 2 ^ 31 ∧ host.live < host.config.maxHandles.toNat := by
  have filled := Table.inserted_of_insert sized.fits.compact.sound last
  refine ⟨?_, ?_, sized.capacity_eq ▸ filled.room⟩
  · unfold insert
    rw [(checkMode_eq_ok_iff host .integer).2 integer.symm, last]
    simp only [bind, Except.bind, Handle.ofSlot?_unnameable]
    rw [filled.capacity_eq, sized.capacity_eq]
  · refine sized.live_le.trans ((Nat.min_le_right _ _).trans ?_)
    rw [integer]
    exact Nat.le_refl _

theorem admits_ask (sized : m.host.Sized) : Admits Machine.ask m where
  admitted_iff insertion := by
    rw [← sized.insert_iff insertion.entry]
    exact exists_congr fun h => ask_insertion_ok_iff
  rejected insertion fault refused := sized.insert_fault (ask_insertion_error_iff.1 refused)
  apart insertion h given := by
    obtain ⟨after, inserted⟩ := ask_insertion_ok_iff.1 given
    exact sized.apart inserted
  last_slot integer insertion table last := by
    obtain ⟨refused, few, below⟩ := sized.insert_last integer last
    have rejected := ask_insertion_error_iff.2 refused
    refine ⟨rejected, fun h slot entry names later keeps next => ?_⟩
    have intact := Machine.intact_ask (Response.fault?_of_inserted? rejected)
    have named : (m.ask (insertion.into .integer)).2.host.Names h slot entry :=
      ⟨names.mode_eq.trans (by rw [intact.config_eq]), names.slot?_eq,
        (intact.entries_eq slot).trans names.get?_eq⟩
    have sized := sized.ask (insertion.into .integer)
    obtain ⟨config, live⟩ := named.giveBack sized.fits.compact.sound
    have sized := sized.ask (entry.giveBack h)
    have emptied := emptied_asked sized keeps
    have config := emptied.config_eq.trans (config.trans intact.config_eq)
    have fewer := emptied.live_le
    have room := ((sized.asked later).insert_iff next.entry).2 (by
      rw [Host.room, config, integer]
      have same := intact.live_eq
      exact Nat.lt_min.2 ⟨by omega, Nat.lt_of_lt_of_le (by omega) few⟩)
    rw [config, integer] at room
    obtain ⟨given, after, inserted⟩ := room
    exact ⟨given, ask_insertion_ok_iff.2 ⟨after, inserted⟩⟩

/-! ## Insertions that are undone -/

variable {padded : Table Entry}

/-- The slot left behind is taken last, and then the insertion comes to it as it came to it first. -/
theorem insert_last_padded (fits : m.host.Fits)
    (padding : m.host.table.Padded m.host.config.mode padded) (integer : m.host.config.mode = .integer)
    {table : Table Entry} (last : padded.insert entry = .ok (2 ^ 31, table)) :
    ∃ table, m.host.table.insert entry = .ok (2 ^ 31, table) := by
  have sound := fits.compact.sound
  cases inserted : m.host.table.insert entry with
  | error fault =>
      rw [padding.insert_error inserted] at last
      cases last
  | ok success =>
      obtain ⟨slot, table⟩ := success
      cases named : Handle.ofSlot? m.host.config.mode slot with
      | some h =>
          obtain ⟨_, both, _⟩ := padding.insert_ok sound inserted named
          rw [both] at last
          cases last
          rw [integer, Handle.ofSlot?_unnameable] at named
          cases named
      | none =>
          have nameable := fun slot free =>
            fits.nameable slot (m.host.table.slot_lt ((sound.mem_freed_iff slot).1 free))
          obtain ⟨_, _, both, _⟩ := padding.insert_undone nameable inserted named
          rw [both] at last
          cases last
          exact ⟨table, rfl⟩

theorem Names.unpadded (padding : m.host.table.Padded m.host.config.mode padded)
    (names : (m.withTable padded).host.Names h slot entry) : m.host.Names h slot entry :=
  ⟨names.mode_eq, names.slot?_eq, (padding.get?_eq slot).symm.trans names.get?_eq⟩

theorem admits_askUndoing (sized : m.host.Sized)
    (padding : m.host.table.Padded m.host.config.mode padded) :
    Admits Machine.askUndoing (m.withTable padded) := by
  have fits := sized.fits
  have admits := admits_ask sized
  have response : ∀ call, ((m.withTable padded).askUndoing call).1 = (m.ask call).1 := fun call => by
    obtain ⟨left, both, _⟩ := Machine.ask_padded fits padding call
    rw [both]
  have live : (m.withTable padded).host.live = m.host.live := padding.live_eq
  constructor
  case admitted_iff =>
    intro insertion
    rw [response, live]
    exact admits.admitted_iff insertion
  case rejected =>
    intro insertion fault refused
    rw [response] at refused
    exact admits.rejected insertion fault refused
  case apart =>
    intro insertion h given
    rw [response] at given
    obtain ⟨valid, apart⟩ := admits.apart insertion h given
    refine ⟨valid, fun slot entry present => ?_⟩
    obtain ⟨other, names, different⟩ := apart slot entry ((padding.get?_eq slot).symm.trans present)
    exact ⟨other, names.withTable padding, different⟩
  case last_slot =>
    intro integer insertion table last
    obtain ⟨_, last⟩ := insert_last_padded fits padding integer last
    obtain ⟨refused, more⟩ := admits.last_slot integer insertion _ last
    refine ⟨(response _).symm ▸ refused, fun h slot entry names later keeps next => ?_⟩
    obtain ⟨given, granted⟩ := more h slot entry (names.unpadded padding) later keeps next
    obtain ⟨left, both, fits, padding⟩ := Machine.asked_padded fits padding
      (insertion.into .integer :: entry.giveBack h :: later)
    obtain ⟨_, same, _⟩ := Machine.ask_padded fits padding (next.into .integer)
    rw [both, same]
    exact ⟨given, granted⟩

/-- Whatever was asked of a host before, it admits entries up to the least of what its table may hold
and what its handles can name, whether or not an insertion without a handle is undone. -/
theorem insertions_admitted (config : HostConfig) (history : List Call) :
    Admits Machine.ask ((Machine.start config).asked Machine.ask history) ∧
      Admits Machine.askUndoing ((Machine.start config).asked Machine.askUndoing history) := by
  have sized : (Machine.start config).host.Sized := sized_install config
  refine ⟨admits_ask (sized.asked history), ?_⟩
  obtain ⟨left, both, _, padding⟩ :=
    Machine.asked_padded (m := Machine.start config) sized.fits .same history
  have same : (Machine.start config).withTable (Machine.start config).host.table =
    Machine.start config := rfl
  rw [same] at both
  rw [both]
  exact admits_askUndoing (sized.asked history) padding

end Host

end Custody
