import Custody.Proofs.Host.Calls
import Custody.Proofs.Host.Lookup

/-!
# An insertion that is undone

When no handle names the slot of a new entry, the entry has to leave the table again, and the slot stays
behind: a free slot more, the last that an insertion takes. `Host.insert` lets the table be as it was.
`Host.insertUndoing` puts the entry in and takes it out. Nothing tells them apart: the slot left behind
is taken only when all others have entries, and then it is left behind again.
-/

set_option autoImplicit false

namespace Custody.Host

namespace Table

variable {α : Type} {mode : Mode} {t padded after : Table α} {entry : α} {slot : Nat}

/-- A table, and the same with one more slot that has no handle and that is taken after all others. -/
inductive Padded (mode : Mode) (t : Table α) : Table α → Prop where
  | same : Padded mode t t
  | more (fresh : t.slots.size < slotLimit) (unnameable : Handle.ofSlot? mode t.slots.size = none) :
      Padded mode t
        { t with slots := t.slots.push none, freed := t.freed ++ [t.slots.size] }

theorem Padded.get?_eq (padding : t.Padded mode padded) (slot : Nat) :
    padded.get? slot = t.get? slot := by
  cases padding with
  | same => rfl
  | more =>
      unfold get?
      rw [Array.getElem?_push]
      split <;> simp [*]

theorem Padded.live_eq (padding : t.Padded mode padded) : padded.live = t.live := by
  cases padding <;> rfl

theorem Padded.capacity_eq (padding : t.Padded mode padded) : padded.capacity = t.capacity := by
  cases padding <;> rfl

private theorem setIfInBounds_push {slots : Array (Option α)} (inside : slot < slots.size)
    (first second : Option α) :
    (slots.push first).setIfInBounds slot second = (slots.setIfInBounds slot second).push first := by
  ext other <;> grind

private theorem setIfInBounds_pushed (slots : Array (Option α)) (first second : Option α) :
    (slots.push first).setIfInBounds slots.size second = slots.push second := by
  ext other <;> grind

theorem Padded.remove (padding : t.Padded mode padded)
    (removed : t.remove slot = .ok (entry, after)) :
    ∃ table, padded.remove slot = .ok (entry, table) ∧ after.Padded mode table := by
  cases padding with
  | same => exact ⟨after, removed, .same⟩
  | more fresh unnameable =>
      have get?_eq := (Padded.more fresh unnameable).get?_eq slot
      unfold Table.remove at removed ⊢
      rw [get?_eq]
      split at removed
      · rename_i found present
        cases removed
        have inside := t.slot_lt ((t.get?_eq_some_iff slot entry).1 present)
        refine ⟨_, rfl, ?_⟩
        have size : (t.slots.setIfInBounds slot none).size = t.slots.size := Array.size_setIfInBounds
        rw [setIfInBounds_push inside, ← List.cons_append, ← size]
        apply Padded.more
        · simpa using fresh
        · simpa using unnameable
      · cases removed

theorem Padded.insert_error {fault : Fault} (padding : t.Padded mode padded)
    (refused : t.insert entry = .error fault) : padded.insert entry = .error fault := by
  cases padding with
  | same => exact refused
  | more fresh unnameable =>
      unfold Table.insert at refused ⊢
      split at refused
      · rename_i full
        rw [if_pos full]
        exact refused
      · split at refused
        · cases refused
        · cases refused

theorem Padded.insert_ok {h : Handle} (padding : t.Padded mode padded) (sound : t.Sound)
    (inserted : t.insert entry = .ok (slot, after)) (named : Handle.ofSlot? mode slot = some h) :
    ∃ table, padded.insert entry = .ok (slot, table) ∧ after.Padded mode table := by
  cases padding with
  | same => exact ⟨after, inserted, .same⟩
  | more fresh unnameable =>
      unfold Table.insert at inserted ⊢
      split at inserted
      · cases inserted
      · rename_i limited
        rw [if_neg limited]
        split at inserted
        · rename_i first freed free
          cases inserted
          have inside := t.slot_lt ((sound.mem_freed_iff slot).1 (by simp [free]))
          simp only [free, List.cons_append]
          refine ⟨_, rfl, ?_⟩
          have size : (t.slots.setIfInBounds slot (some entry)).size = t.slots.size :=
            Array.size_setIfInBounds
          rw [setIfInBounds_push inside, ← size]
          apply Padded.more
          · simpa using fresh
          · simpa using unnameable
        · cases inserted
          cases unnameable.symm.trans named

theorem Padded.insert_undone (padding : t.Padded mode padded)
    (nameable : ∀ slot, slot ∈ t.freed → ∃ h, Handle.ofSlot? mode slot = some h)
    (inserted : t.insert entry = .ok (slot, after)) (unnamed : Handle.ofSlot? mode slot = none) :
    ∃ made left, padded.insert entry = .ok (slot, made) ∧ made.remove slot = .ok (entry, left) ∧
      t.Padded mode left := by
  unfold Table.insert at inserted
  split at inserted
  · cases inserted
  · rename_i limited
    split at inserted
    · rename_i first freed free
      cases inserted
      obtain ⟨h, named⟩ := nameable slot (by simp [free])
      cases unnamed.symm.trans named
    · rename_i full
      split at inserted
      · rename_i fresh
        cases inserted
        have left : t.Padded mode
            { t with slots := t.slots.push none, freed := t.freed ++ [t.slots.size] } :=
          .more fresh unnamed
        cases padding with
        | same =>
            unfold Table.insert
            rw [if_neg limited, full]
            refine ⟨_, _, if_pos fresh, ?_, left⟩
            unfold Table.remove get?
            simp [setIfInBounds_pushed, full]
        | more =>
            unfold Table.insert
            rw [if_neg limited]
            simp only [full, List.nil_append]
            refine ⟨_, _, rfl, ?_, left⟩
            unfold Table.remove get?
            simp [setIfInBounds_pushed, full]
      · cases inserted

end Table

/-! ## The operations that insert -/

/-- An insertion that takes an entry out again when no handle names its slot. -/
def insertUndoing (host : Host) (mode : Mode) (entry : Entry) : Except Fault Handle × Host :=
  match host.checkMode mode with
  | .error fault => (.error fault, host)
  | .ok () =>
      match host.table.insert entry with
      | .error fault => (.error fault, host)
      | .ok (slot, table) =>
          match Handle.ofSlot? mode slot with
          | some h => (.ok h, { host with table })
          | none =>
              match table.remove slot with
              | .ok (_, table) => (.error (.tableFull table.capacity), { host with table })
              | .error fault => (.error fault, { host with table })

def registerUndoing (host : Host) (mode : Mode) (call : DestructorCall) :
    Except Fault Handle × Host :=
  match host.insertUndoing mode (.exported call) with
  | (.ok h, host) => (.ok h, { host with counters.registered := host.counters.registered + 1 })
  | (.error fault, host) => (.error fault, host.record fault)

def lendUndoing (host : Host) (mode : Mode) (name : String) : Except Fault Handle × Host :=
  match host.insertUndoing mode (.imported name) with
  | (.ok h, host) =>
      (.ok h, { host with counters.importsCreated := host.counters.importsCreated + 1 })
  | (.error fault, host) => (.error fault, host)

namespace Machine

/-- What a call brings about when insertions are undone. -/
def askUndoing (m : Machine) : Call → Response × Machine
  | .register mode call =>
      let (result, host) := m.host.registerUndoing mode call
      (.registered result, { m with host })
  | .lend mode name =>
      let (result, host) := m.host.lendUndoing mode name
      (.lent result, { m with host })
  | call => m.ask call

end Machine

/-! ## The slot that is left behind is never seen -/

def withTable (host : Host) (table : Table Entry) : Host := { host with table }

def Machine.withTable (m : Machine) (table : Table Entry) : Machine := m.onHost (·.withTable table)

variable {host : Host} {m : Machine} {padded : Table Entry}

theorem refusal?_padded (padding : host.table.Padded host.config.mode padded) (operation : String)
    (expected : Kind) (h : Handle) :
    (host.withTable padded).refusal? operation expected h = host.refusal? operation expected h := by
  rw [refusal?_eq, refusal?_eq, find_eq, find_eq]
  simp only [withTable, padding.get?_eq]

theorem Names.withTable {h : Handle} {slot : Nat} {entry : Entry} (names : host.Names h slot entry)
    (padding : host.table.Padded host.config.mode padded) :
    (host.withTable padded).Names h slot entry :=
  ⟨names.mode_eq, names.slot?_eq, (padding.get?_eq slot).trans names.get?_eq⟩

theorem rep_padded (padding : host.table.Padded host.config.mode padded) (h : Handle) :
    (host.withTable padded).rep h = host.rep h := by
  unfold rep findExported
  rw [find_eq, find_eq]
  simp only [withTable, padding.get?_eq]

theorem insertUndoing_padded (fits : host.Fits) (padding : host.table.Padded host.config.mode padded)
    (mode : Mode) (entry : Entry) :
    (∃ h table left, host.insert mode entry = .ok (h, host.withTable table) ∧
      (host.withTable padded).insertUndoing mode entry = (.ok h, host.withTable left) ∧
      table.Padded host.config.mode left) ∨
    ∃ fault left, host.insert mode entry = .error fault ∧
      (host.withTable padded).insertUndoing mode entry = (.error fault, host.withTable left) ∧
      host.table.Padded host.config.mode left := by
  unfold insert insertUndoing
  by_cases own : mode = host.config.mode
  · subst own
    rw [(checkMode_eq_ok_iff host _).2 rfl,
      (checkMode_eq_ok_iff (host.withTable padded) host.config.mode).2 rfl]
    simp only [bind, Except.bind]
    have sound := fits.compact.sound
    cases inserted : host.table.insert entry with
    | error fault =>
        right
        refine ⟨fault, padded, rfl, ?_, padding⟩
        simp only [withTable, padding.insert_error inserted]
    | ok success =>
        obtain ⟨slot, table⟩ := success
        cases named : Handle.ofSlot? host.config.mode slot with
        | some h =>
            left
            obtain ⟨left, both, still⟩ := padding.insert_ok sound inserted named
            refine ⟨h, table, left, ?_, ?_, still⟩
            · simp only [named]
              rfl
            · simp only [withTable, both, named]
        | none =>
            right
            have nameable := fun slot free =>
              fits.nameable slot (host.table.slot_lt ((sound.mem_freed_iff slot).1 free))
            obtain ⟨made, left, both, undone, still⟩ :=
              padding.insert_undone nameable inserted named
            have capacity : table.capacity = left.capacity :=
              (Table.inserted_of_insert sound inserted).capacity_eq.trans still.capacity_eq.symm
            refine ⟨.tableFull table.capacity, left, ?_, ?_, still⟩
            · simp only [named]
            · simp only [withTable, both, named, undone, capacity]
  · right
    have refused : host.checkMode mode = .error (.modeMismatch host.config.mode mode) := if_neg own
    have both : (host.withTable padded).checkMode mode = host.checkMode mode := rfl
    rw [both, refused]
    exact ⟨_, padded, rfl, rfl, padding⟩

theorem unregister_padded (padding : host.table.Padded host.config.mode padded)
    (h : Handle) :
    ∃ left, (host.withTable padded).unregister h =
        ((host.unregister h).1, (host.unregister h).2.withTable left) ∧
      (host.unregister h).2.table.Padded host.config.mode left := by
  obtain ⟨fault, refused⟩ | ⟨slot, call, names⟩ := host.refusal?_or_exported dropOperation h
  · refine ⟨padded, ?_, ?_⟩
    · rw [unregister_refused refused, unregister_refused ((refusal?_padded padding _ _ h).trans refused)]
      rfl
    · rw [unregister_refused refused]
      exact padding
  · obtain ⟨table, removed⟩ := names.remove_ok
    obtain ⟨left, both, still⟩ := padding.remove removed
    refine ⟨left, ?_, ?_⟩
    · rw [names.unregister_eq removed, (names.withTable padding).unregister_eq both]
      rfl
    · rw [names.unregister_eq removed]
      exact still

theorem release_padded (padding : host.table.Padded host.config.mode padded)
    (h : Handle) :
    ∃ left, (host.withTable padded).release h =
        ((host.release h).1, (host.release h).2.withTable left) ∧
      (host.release h).2.table.Padded host.config.mode left := by
  obtain ⟨fault, refused⟩ | ⟨slot, name, names⟩ := host.refusal?_or_imported dropOperation h
  · refine ⟨padded, ?_, ?_⟩
    · rw [release_refused refused, release_refused ((refusal?_padded padding _ _ h).trans refused)]
      rfl
    · rw [release_refused refused]
      exact padding
  · obtain ⟨table, removed⟩ := names.remove_ok
    obtain ⟨left, both, still⟩ := padding.remove removed
    refine ⟨left, ?_, ?_⟩
    · rw [names.release_eq removed, (names.withTable padding).release_eq both]
      rfl
    · rw [names.release_eq removed]
      exact still

theorem registerUndoing_padded (fits : host.Fits)
    (padding : host.table.Padded host.config.mode padded) (mode : Mode) (call : DestructorCall) :
    ∃ left, (host.withTable padded).registerUndoing mode call =
        ((host.register mode call).1, (host.register mode call).2.withTable left) ∧
      (host.register mode call).2.table.Padded host.config.mode left := by
  unfold registerUndoing register
  obtain ⟨h, table, left, inserted, both, still⟩ | ⟨fault, left, refused, both, still⟩ :=
    insertUndoing_padded fits padding mode (.exported call)
  · rw [inserted, both]
    exact ⟨left, rfl, still⟩
  · rw [refused, both]
    exact ⟨left, rfl, still⟩

namespace Machine

theorem aside_withTable (table : Table Entry) : Aside (·.withTable table) where
  config_eq _ := rfl
  pending_eq _ := rfl
  requeued _ _ := rfl
  counted _ := rfl

private theorem finish_keeps (m : Machine) :
    m.finish.2.host.config = m.host.config ∧ m.finish.2.host.table = m.host.table := by
  cases active : m.active with
  | nil =>
      unfold finish
      rw [active]
      exact ⟨rfl, rfl⟩
  | cons activation under =>
      obtain ⟨pending, active, finished⟩ := m.finish_frame (by simp [active])
      rw [finished]
      exact ⟨rfl, rfl⟩

/-- Whatever is asked, with or without the slot left behind the response is the same. -/
theorem ask_padded (fits : m.host.Fits)
    (padding : m.host.table.Padded m.host.config.mode padded) (call : Call) :
    ∃ left, (m.withTable padded).askUndoing call = ((m.ask call).1, (m.ask call).2.withTable left) ∧
      (m.ask call).2.host.table.Padded (m.ask call).2.host.config.mode left := by
  cases call with
  | register mode call =>
      obtain ⟨left, both, still⟩ := registerUndoing_padded fits padding mode call
      have config := (Operated.register m.host mode call).config_eq
      simp only [askUndoing, ask, Machine.withTable, onHost, both, config]
      exact ⟨left, rfl, still⟩
  | lend mode name =>
      simp only [askUndoing, ask, Machine.withTable, onHost, lendUndoing, Host.lend]
      obtain ⟨h, table, left, inserted, both, still⟩ | ⟨fault, left, refused, both, still⟩ :=
        insertUndoing_padded fits padding mode (.imported name)
      · rw [inserted, both]
        exact ⟨left, rfl, still⟩
      · rw [refused, both]
        exact ⟨left, rfl, still⟩
  | drop h =>
      obtain ⟨left, both, still⟩ := unregister_padded padding h
      have config := (Operated.unregister m.host h).config_eq
      simp only [askUndoing, ask, Machine.withTable, onHost, drop, both]
      generalize m.host.unregister h = result at config still ⊢
      obtain ⟨fault | call, host⟩ := result
      · exact ⟨left, rfl, config ▸ still⟩
      · have settled := (aside_withTable left).settle { m with host } call
        obtain ⟨pending, active, frame⟩ := settle_frame { m with host } call
        refine ⟨left, ?_, ?_⟩
        · exact congrArg (fun result => (Response.dropped result.1, result.2)) settled
        · change host.config = m.host.config at config
          rw [frame]
          exact config ▸ still
  | release h =>
      obtain ⟨left, both, still⟩ := release_padded padding h
      have config := (Operated.release m.host h).config_eq
      simp only [askUndoing, ask, Machine.withTable, onHost, both, config]
      exact ⟨left, rfl, still⟩
  | rep h =>
      refine ⟨padded, ?_, padding⟩
      simp only [askUndoing, ask, Machine.withTable, onHost, rep_padded padding]
  | flush =>
      obtain ⟨pending, active, frame⟩ := m.flush_frame
      refine ⟨padded, ?_, ?_⟩
      · exact congrArg (fun result => (Response.continued result.1, result.2))
          ((aside_withTable padded).nextBatch m 0)
      · simp only [ask, frame]
        exact padding
  | finish =>
      refine ⟨padded, ?_, ?_⟩
      · exact congrArg (fun result => (Response.continued result.1, result.2))
          ((aside_withTable padded).finish m)
      · obtain ⟨config, table⟩ := m.finish_keeps
        simp only [ask, config, table]
        exact padding
  | census =>
      refine ⟨padded, ?_, padding⟩
      simp only [askUndoing, ask, Machine.withTable, onHost, Host.withTable, live, Table.size,
        padding.live_eq]
  | takeFaults | counters | settings => exact ⟨padded, rfl, padding⟩
  | install config => exact ⟨_, rfl, .same⟩

theorem responses_padded (fits : m.host.Fits)
    (padding : m.host.table.Padded m.host.config.mode padded) (calls : List Call) :
    responses askUndoing (m.withTable padded) calls = responses ask m calls := by
  induction calls generalizing m padded with
  | nil => rfl
  | cons call rest ih =>
      obtain ⟨left, both, still⟩ := ask_padded fits padding call
      rw [responses, responses, both, ih (fits_ask fits call) still]

theorem asked_padded (fits : m.host.Fits)
    (padding : m.host.table.Padded m.host.config.mode padded) (calls : List Call) :
    ∃ left, (m.withTable padded).asked askUndoing calls = (m.asked ask calls).withTable left ∧
      (m.asked ask calls).host.Fits ∧
      (m.asked ask calls).host.table.Padded (m.asked ask calls).host.config.mode left := by
  induction calls generalizing m padded with
  | nil => exact ⟨padded, rfl, fits, padding⟩
  | cons call rest ih =>
      obtain ⟨left, both, still⟩ := ask_padded fits padding call
      have next := ih (fits_ask fits call) still
      rw [asked, List.foldl_cons, both]
      exact next

end Machine

end Custody.Host
