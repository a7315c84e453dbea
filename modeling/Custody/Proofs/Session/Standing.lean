import Mathlib.Data.List.Nodup
import Mathlib.Logic.Function.Basic
import Custody.Proofs.Session.Scripts

/-!
# Where a registration stands

A registration goes from being attached to an owner to being transferred and back, and from either to
a destructor that waits. `Standing` tells where it is. The heap, the table of the host, the owners, the
handles that were moved out and the destructors that wait must each agree with it, and each keeps
agreeing when one registration moves on.
-/

set_option autoImplicit false

namespace Custody.Session

open Guest (Heap Registration)
open Host (DestructorCall Entry Table)

/-- Where a registration stands. One that the host has refused is stranded, and one whose drop was
requested waits until its destructor takes it off the heap. -/
inductive Standing where
  | absent
  | stranded
  | attached (h : Handle)
  | transferred (h : Handle)
  | waiting

def Standing.handle? : Standing → Option Handle
  | .attached h | .transferred h => some h
  | .absent | .stranded | .waiting => none

variable {standing : Nat → Standing} {id : Nat} {new : Standing}

/-! ## The heap -/

def Standing.Cell : Standing → Option (Registration Resource) → Prop
  | .absent, cell => cell = none
  | .attached h, cell => ∃ object, cell = some { handle := h, object }
  | .stranded, cell | .transferred _, cell | .waiting, cell =>
      ∃ r, cell = some r ∧ r.isAttached = false

/-- The heap agrees with where the registrations stand. -/
def Housed (heap : Heap Resource) (standing : Nat → Standing) : Prop :=
  ∀ id, (standing id).Cell (heap.get? id)

theorem Housed.update {heap after : Heap Resource} (housed : Housed heap standing)
    (others : ∀ other, other ≠ id → after.get? other = heap.get? other)
    (cell : new.Cell (after.get? id)) : Housed after (Function.update standing id new) := by
  intro other
  by_cases same : other = id
  · subst same
    rw [Function.update_self]
    exact cell
  · rw [Function.update_of_ne same, others other same]
    exact housed other

theorem Housed.put {heap : Heap Resource} {old : Registration Resource} (housed : Housed heap standing)
    (present : heap.get? id = some old) {r : Registration Resource} (cell : new.Cell (some r)) :
    Housed (heap.put id r) (Function.update standing id new) := by
  refine housed.update (fun other apart => ?_) ?_
  · rw [Heap.get?_put present, if_neg apart]
  · rw [Heap.get?_put present, if_pos rfl]
    exact cell

theorem Housed.present {heap : Heap Resource} {h : Handle} (housed : Housed heap standing)
    (named : (standing id).handle? = some h) : ∃ r, heap.get? id = some r := by
  have cell := housed id
  cases place : standing id with
  | absent | stranded | waiting => rw [place] at named; cases named
  | attached h =>
      rw [place] at cell
      obtain ⟨object, present⟩ := cell
      exact ⟨_, present⟩
  | transferred h =>
      rw [place] at cell
      obtain ⟨r, present, _⟩ := cell
      exact ⟨r, present⟩

/-! ## The table of the host -/

structure Lodged (host : Host) (standing : Nat → Standing) : Prop where
  sound : host.table.Sound
  named : ∀ id h, (standing id).handle? = some h →
    ∃ slot typeName, host.Names h slot (.exported (reclaiming typeName id))
  held : ∀ slot call, host.table.get? slot = some (.exported call) →
    ∃ id h, (standing id).handle? = some h ∧ h.slot? = some slot

theorem Lodged.congr {host : Host} (lodged : Lodged host standing)
    (same : new.handle? = (standing id).handle?) : Lodged host (Function.update standing id new) := by
  have handles : ∀ other,
      (Function.update standing id new other).handle? = (standing other).handle? := by
    intro other
    by_cases here : other = id
    · subst here
      rw [Function.update_self, same]
    · rw [Function.update_of_ne here]
  refine ⟨lodged.sound, ?_, ?_⟩
  · intro other h named
    exact lodged.named other h ((handles other).symm.trans named)
  · intro slot call present
    obtain ⟨other, h, named, slot?⟩ := lodged.held slot call present
    exact ⟨other, h, (handles other).trans named, slot?⟩

theorem Lodged.of_eq {host after : Host} (lodged : Lodged host standing)
    (config : after.config = host.config) (table : after.table = host.table) :
    Lodged after standing := by
  refine ⟨table ▸ lodged.sound, ?_, ?_⟩
  · intro id h named
    obtain ⟨slot, typeName, names⟩ := lodged.named id h named
    exact ⟨slot, typeName, names.of_eq config table⟩
  · intro slot call present
    exact lodged.held slot call (table ▸ present)

theorem Lodged.register {host : Host} (lodged : Lodged host standing) {slot : Nat}
    {typeName : String} {table : Table Entry} {h : Handle} (unnamed : (standing id).handle? = none)
    (inserted : host.table.Inserted (.exported (reclaiming typeName id)) slot table)
    (names : ({ host with table } : Host).Names h slot (.exported (reclaiming typeName id))) :
    Lodged { host with table } (Function.update standing id (.attached h)) := by
  refine ⟨inserted.sound, ?_, ?_⟩
  · intro other handle named
    by_cases here : other = id
    · subst here
      rw [Function.update_self] at named
      cases named
      exact ⟨slot, typeName, names⟩
    · rw [Function.update_of_ne here] at named
      obtain ⟨place, name, before⟩ := lodged.named other handle named
      exact ⟨place, name, before.inserted inserted⟩
  · intro place call present
    by_cases here : place = slot
    · subst here
      exact ⟨id, h, by rw [Function.update_self]; rfl, names.slot?_eq⟩
    · have present : host.table.get? place = some (.exported call) := by
        rw [← present]
        exact ((inserted.get?_eq place).trans (if_neg here)).symm
      obtain ⟨other, handle, named, slot?⟩ := lodged.held place call present
      have apart : other ≠ id := fun same => by
        rw [same, unnamed] at named
        cases named
      exact ⟨other, handle, by rw [Function.update_of_ne apart, named], slot?⟩

theorem Lodged.unregister {host : Host} (lodged : Lodged host standing) {slot : Nat}
    {typeName : String} {table : Table Entry} {h : Handle} (named : (standing id).handle? = some h)
    (names : host.Names h slot (.exported (reclaiming typeName id)))
    (removed : host.table.Removed slot (.exported (reclaiming typeName id)) table) :
    Lodged { host with table } (Function.update standing id .waiting) := by
  refine ⟨removed.sound, ?_, ?_⟩
  · intro other handle still
    by_cases here : other = id
    · subst here
      rw [Function.update_self] at still
      cases still
    · rw [Function.update_of_ne here] at still
      obtain ⟨place, name, before⟩ := lodged.named other handle still
      have apart : place ≠ slot := fun same => by
        have entry := before.get?_eq
        rw [same, names.get?_eq] at entry
        cases entry
        exact here rfl
      exact ⟨place, name, before.removed removed apart⟩
  · intro place call present
    have entry := (removed.get?_eq place).symm.trans present
    by_cases here : place = slot
    · rw [if_pos here] at entry
      cases entry
    · rw [if_neg here] at entry
      obtain ⟨other, handle, still, slot?⟩ := lodged.held place call entry
      have apart : other ≠ id := fun same => by
        rw [same, named] at still
        cases still
        exact here (Option.some.inj (slot?.symm.trans names.slot?_eq))
      exact ⟨other, handle, by rw [Function.update_of_ne apart, still], slot?⟩

private theorem Lodged.of_exported {host : Host} (lodged : Lodged host standing)
    {table : Table Entry} (sound : table.Sound)
    (same : ∀ slot call,
      table.get? slot = some (.exported call) ↔ host.table.get? slot = some (.exported call)) :
    Lodged { host with table } standing := by
  refine ⟨sound, ?_, ?_⟩
  · intro id h named
    obtain ⟨slot, typeName, names⟩ := lodged.named id h named
    exact ⟨slot, typeName, names.mode_eq, names.slot?_eq, (same _ _).2 names.get?_eq⟩
  · intro slot call present
    exact lodged.held slot call ((same slot call).1 present)

theorem Lodged.lend {host : Host} (lodged : Lodged host standing) {slot : Nat} {name : String}
    {table : Table Entry} (inserted : host.table.Inserted (.imported name) slot table) :
    Lodged { host with table } standing := by
  refine lodged.of_exported inserted.sound fun place call => ?_
  rw [inserted.get?_eq]
  by_cases here : place = slot
  · simp [here, inserted.absent]
  · rw [if_neg here]

theorem Lodged.release {host : Host} (lodged : Lodged host standing) {slot : Nat} {name : String}
    {table : Table Entry} (removed : host.table.Removed slot (.imported name) table) :
    Lodged { host with table } standing := by
  refine lodged.of_exported removed.sound fun place call => ?_
  rw [removed.get?_eq]
  by_cases here : place = slot
  · simp [here, removed.present]
  · rw [if_neg here]

/-! ## Owners -/

structure Owning (owners : List Owner) (standing : Nat → Standing) : Prop where
  nodup : (owners.map Owner.id).Nodup
  named : ∀ owner ∈ owners, ∃ h, (standing owner.id).handle? = some h
  attached : ∀ id h, standing id = .attached h → ∃ owner ∈ owners, owner.id = id

theorem Owning.update {owners : List Owner} (owning : Owning owners standing)
    (unowned : new.handle? = none → ∀ owner ∈ owners, owner.id ≠ id)
    (detached : ∀ h, new ≠ .attached h) : Owning owners (Function.update standing id new) := by
  refine ⟨owning.nodup, ?_, ?_⟩
  · intro owner member
    by_cases here : owner.id = id
    · rw [here, Function.update_self]
      cases named : new.handle? with
      | none => exact absurd here (unowned named owner member)
      | some h => exact ⟨h, rfl⟩
    · rw [Function.update_of_ne here]
      exact owning.named owner member
  · intro other h attached
    by_cases here : other = id
    · subst here
      rw [Function.update_self] at attached
      exact absurd attached (detached h)
    · rw [Function.update_of_ne here] at attached
      exact owning.attached other h attached

theorem Owning.cons {owners : List Owner} (owning : Owning owners standing) (owner : Owner)
    {h : Handle} (unowned : ∀ other ∈ owners, other.id ≠ owner.id) :
    Owning (owner :: owners) (Function.update standing owner.id (.attached h)) := by
  refine ⟨?_, ?_, ?_⟩
  · rw [List.map_cons, List.nodup_cons]
    refine ⟨fun present => ?_, owning.nodup⟩
    obtain ⟨other, member, same⟩ := List.mem_map.1 present
    exact unowned other member same
  · intro other member
    rcases List.mem_cons.1 member with rfl | member
    · exact ⟨h, by rw [Function.update_self]; rfl⟩
    · rw [Function.update_of_ne (unowned other member)]
      exact owning.named other member
  · intro other handle attached
    by_cases here : other = owner.id
    · exact ⟨owner, List.mem_cons_self, here.symm⟩
    · rw [Function.update_of_ne here] at attached
      obtain ⟨before, member, same⟩ := owning.attached other handle attached
      exact ⟨before, List.mem_cons_of_mem _ member, same⟩

theorem mem_erase_iff_of_unshared {owners : List Owner} (unshared : (owners.map Owner.id).Nodup)
    {owner : Owner} (member : owner ∈ owners) (other : Owner) :
    other ∈ owners.erase owner ↔ other ∈ owners ∧ other.id ≠ owner.id := by
  have nodup : owners.Nodup := unshared.of_map
  rw [nodup.mem_erase_iff]
  constructor
  · rintro ⟨apart, present⟩
    exact ⟨present, fun same => apart (List.inj_on_of_nodup_map unshared present member same)⟩
  · rintro ⟨present, apart⟩
    exact ⟨fun same => apart (same ▸ rfl), present⟩

theorem Owning.mem_erase_iff {owners : List Owner} (owning : Owning owners standing)
    {owner : Owner} (member : owner ∈ owners) (other : Owner) :
    other ∈ owners.erase owner ↔ other ∈ owners ∧ other.id ≠ owner.id :=
  mem_erase_iff_of_unshared owning.nodup member other

theorem Owning.erase {owners : List Owner} (owning : Owning owners standing) {owner : Owner}
    (member : owner ∈ owners) (detached : ∀ h, new ≠ .attached h) :
    Owning (owners.erase owner) (Function.update standing owner.id new) := by
  refine ⟨?_, ?_, ?_⟩
  · exact owning.nodup.sublist (List.erase_sublist.map _)
  · intro other present
    obtain ⟨present, apart⟩ := (owning.mem_erase_iff member other).1 present
    rw [Function.update_of_ne apart]
    exact owning.named other present
  · intro other h attached
    by_cases here : other = owner.id
    · subst here
      rw [Function.update_self] at attached
      exact absurd attached (detached h)
    · rw [Function.update_of_ne here] at attached
      obtain ⟨before, present, same⟩ := owning.attached other h attached
      exact ⟨before, (owning.mem_erase_iff member before).2 ⟨present, same ▸ here⟩, same⟩

/-! ## Handles that were moved out -/

structure Transferring (transferred : List (Handle × Nat)) (standing : Nat → Standing) : Prop where
  nodup : transferred.Nodup
  mem_iff : ∀ h id, (h, id) ∈ transferred ↔ standing id = .transferred h

theorem Transferring.update {transferred : List (Handle × Nat)}
    (transferring : Transferring transferred standing) (before : ∀ h, standing id ≠ .transferred h)
    (after : ∀ h, new ≠ .transferred h) :
    Transferring transferred (Function.update standing id new) := by
  refine ⟨transferring.nodup, fun h other => ?_⟩
  rw [transferring.mem_iff]
  by_cases here : other = id
  · subst here
    rw [Function.update_self]
    exact iff_of_false (before h) (after h)
  · rw [Function.update_of_ne here]

theorem Transferring.cons {transferred : List (Handle × Nat)} {h : Handle}
    (transferring : Transferring transferred standing) (before : ∀ h, standing id ≠ .transferred h) :
    Transferring ((h, id) :: transferred) (Function.update standing id (.transferred h)) := by
  refine ⟨List.nodup_cons.2 ⟨?_, transferring.nodup⟩, fun handle other => ?_⟩
  · rw [transferring.mem_iff]
    exact before h
  · rw [List.mem_cons, transferring.mem_iff, Prod.mk.injEq]
    by_cases here : other = id
    · subst here
      rw [Function.update_self]
      have moved := before handle
      constructor
      · rintro (⟨rfl, -⟩ | held)
        · rfl
        · exact absurd held moved
      · intro same
        cases same
        exact .inl ⟨rfl, rfl⟩
    · rw [Function.update_of_ne here]
      exact or_iff_right fun same => here same.2

theorem Transferring.erase {transferred : List (Handle × Nat)} {h : Handle}
    (transferring : Transferring transferred standing) (held : standing id = .transferred h)
    (after : ∀ h, new ≠ .transferred h) :
    Transferring (transferred.erase (h, id)) (Function.update standing id new) := by
  refine ⟨transferring.nodup.erase _, fun handle other => ?_⟩
  rw [transferring.nodup.mem_erase_iff, transferring.mem_iff]
  by_cases here : other = id
  · subst here
    rw [Function.update_self, held]
    refine iff_of_false ?_ (after handle)
    rintro ⟨apart, same⟩
    cases same
    exact apart rfl
  · rw [Function.update_of_ne here]
    exact and_iff_right fun same => here (congrArg Prod.snd same)

/-! ## Destructors that wait -/

structure Awaiting (calls : List DestructorCall) (standing : Nat → Standing) : Prop where
  nodup : (calls.map DestructorCall.rep).Nodup
  reclaims : ∀ call ∈ calls, ∃ typeName id, call = reclaiming typeName id ∧ standing id = .waiting
  present : ∀ id, standing id = .waiting → ∃ typeName, reclaiming typeName id ∈ calls

theorem Awaiting.perm {calls after : List DestructorCall} (awaiting : Awaiting calls standing)
    (same : after.Perm calls) : Awaiting after standing := by
  refine ⟨(same.map _).nodup_iff.2 awaiting.nodup, ?_, ?_⟩
  · intro call member
    exact awaiting.reclaims call (same.mem_iff.1 member)
  · intro id waits
    obtain ⟨typeName, member⟩ := awaiting.present id waits
    exact ⟨typeName, same.mem_iff.2 member⟩

theorem Awaiting.update {calls : List DestructorCall} (awaiting : Awaiting calls standing)
    (before : standing id ≠ .waiting) (after : new ≠ .waiting) :
    Awaiting calls (Function.update standing id new) := by
  refine ⟨awaiting.nodup, ?_, ?_⟩
  · intro call member
    obtain ⟨typeName, other, rfl, waits⟩ := awaiting.reclaims call member
    have apart : other ≠ id := fun same => before (same ▸ waits)
    exact ⟨typeName, other, rfl, by rw [Function.update_of_ne apart, waits]⟩
  · intro other waits
    by_cases here : other = id
    · subst here
      rw [Function.update_self] at waits
      exact absurd waits after
    · rw [Function.update_of_ne here] at waits
      exact awaiting.present other waits

theorem Awaiting.cons {calls : List DestructorCall} (awaiting : Awaiting calls standing)
    (typeName : String) (before : standing id ≠ .waiting) :
    Awaiting (reclaiming typeName id :: calls) (Function.update standing id .waiting) := by
  refine ⟨?_, ?_, ?_⟩
  · rw [List.map_cons, List.nodup_cons]
    refine ⟨fun present => ?_, awaiting.nodup⟩
    obtain ⟨call, member, same⟩ := List.mem_map.1 present
    obtain ⟨_, other, rfl, waits⟩ := awaiting.reclaims call member
    cases same
    exact before waits
  · intro call member
    rcases List.mem_cons.1 member with rfl | member
    · exact ⟨typeName, id, rfl, Function.update_self ..⟩
    · obtain ⟨name, other, rfl, waits⟩ := awaiting.reclaims call member
      have apart : other ≠ id := fun same => before (same ▸ waits)
      exact ⟨name, other, rfl, by rw [Function.update_of_ne apart, waits]⟩
  · intro other waits
    by_cases here : other = id
    · subst here
      exact ⟨typeName, List.mem_cons_self⟩
    · rw [Function.update_of_ne here] at waits
      obtain ⟨name, member⟩ := awaiting.present other waits
      exact ⟨name, List.mem_cons_of_mem _ member⟩

theorem Awaiting.tail {calls : List DestructorCall} {typeName : String}
    (awaiting : Awaiting (reclaiming typeName id :: calls) standing) :
    Awaiting calls (Function.update standing id .absent) := by
  have nodup := awaiting.nodup
  rw [List.map_cons, List.nodup_cons] at nodup
  have once : ∀ name, reclaiming name id ∉ calls := fun name member =>
    nodup.1 (List.mem_map.2 ⟨_, member, rfl⟩)
  refine ⟨nodup.2, ?_, ?_⟩
  · intro call member
    obtain ⟨name, other, rfl, waits⟩ := awaiting.reclaims call (List.mem_cons_of_mem _ member)
    have apart : other ≠ id := fun same => once name (same ▸ member)
    exact ⟨name, other, rfl, by rw [Function.update_of_ne apart, waits]⟩
  · intro other waits
    by_cases here : other = id
    · subst here
      rw [Function.update_self] at waits
      cases waits
    · rw [Function.update_of_ne here] at waits
      obtain ⟨name, member⟩ := awaiting.present other waits
      rcases List.mem_cons.1 member with same | member
      · cases same
        exact absurd rfl here
      · exact ⟨name, member⟩

/-! ## Handles of the host -/

/-- The host knows each handle that it has lent. -/
structure Lending (lent : List Handle) (host : Host) : Prop where
  nodup : lent.Nodup
  named : ∀ h ∈ lent, ∃ slot name, host.Names h slot (.imported name)

theorem Lending.of_eq {lent : List Handle} {host after : Host} (lending : Lending lent host)
    (config : after.config = host.config) (table : after.table = host.table) :
    Lending lent after := by
  refine ⟨lending.nodup, fun h member => ?_⟩
  obtain ⟨slot, name, names⟩ := lending.named h member
  exact ⟨slot, name, names.of_eq config table⟩

theorem Lending.insert {lent : List Handle} {host : Host} {entry : Entry} {slot : Nat}
    {table : Table Entry} (lending : Lending lent host)
    (inserted : host.table.Inserted entry slot table) : Lending lent { host with table } := by
  refine ⟨lending.nodup, fun h member => ?_⟩
  obtain ⟨place, name, names⟩ := lending.named h member
  exact ⟨place, name, names.inserted inserted⟩

theorem Lending.unregister {lent : List Handle} {host : Host} {call : DestructorCall} {slot : Nat}
    {table : Table Entry} (lending : Lending lent host)
    (removed : host.table.Removed slot (.exported call) table) : Lending lent { host with table } := by
  refine ⟨lending.nodup, fun h member => ?_⟩
  obtain ⟨place, name, names⟩ := lending.named h member
  have apart : place ≠ slot := fun same => by
    have entry := names.get?_eq
    rw [same, removed.present] at entry
    cases entry
  exact ⟨place, name, names.removed removed apart⟩

theorem Lending.lend {lent : List Handle} {host : Host} {h : Handle} {name : String} {slot : Nat}
    {table : Table Entry} (lending : Lending lent host)
    (inserted : host.table.Inserted (.imported name) slot table)
    (names : ({ host with table } : Host).Names h slot (.imported name)) :
    Lending (h :: lent) { host with table } := by
  have kept := lending.insert inserted
  refine ⟨List.nodup_cons.2 ⟨fun member => ?_, lending.nodup⟩, fun other member => ?_⟩
  · obtain ⟨place, _, before⟩ := lending.named h member
    have same : place = slot := Option.some.inj (before.slot?_eq.symm.trans names.slot?_eq)
    have entry := before.get?_eq
    rw [same, inserted.absent] at entry
    cases entry
  · rcases List.mem_cons.1 member with rfl | member
    · exact ⟨slot, name, names⟩
    · exact kept.named other member

theorem Lending.release {lent : List Handle} {host : Host} {h : Handle} {name : String} {slot : Nat}
    {table : Table Entry} (lending : Lending lent host)
    (names : host.Names h slot (.imported name))
    (removed : host.table.Removed slot (.imported name) table) :
    Lending (lent.erase h) { host with table } := by
  refine ⟨lending.nodup.erase h, fun other member => ?_⟩
  obtain ⟨apart, member⟩ := lending.nodup.mem_erase_iff.1 member
  obtain ⟨place, lentName, before⟩ := lending.named other member
  have elsewhere : place ≠ slot := fun same => by
    subst same
    exact apart (before.handle_unique names)
  exact ⟨place, lentName, before.removed removed elsewhere⟩

/-! ## Refused registrations -/

def Refusing (refused : List Nat) (standing : Nat → Standing) : Prop :=
  ∀ id, id ∈ refused ↔ standing id = .stranded

theorem Refusing.update {refused : List Nat} (refusing : Refusing refused standing)
    (before : standing id ≠ .stranded) (after : new ≠ .stranded) :
    Refusing refused (Function.update standing id new) := by
  intro other
  rw [refusing other]
  by_cases here : other = id
  · subst here
    rw [Function.update_self]
    exact iff_of_false before after
  · rw [Function.update_of_ne here]

theorem Refusing.cons {refused : List Nat} (refusing : Refusing refused standing) (id : Nat) :
    Refusing (id :: refused) (Function.update standing id .stranded) := by
  intro other
  rw [List.mem_cons, refusing other]
  by_cases here : other = id
  · subst here
    rw [Function.update_self]
    exact iff_of_true (.inl rfl) rfl
  · rw [Function.update_of_ne here]
    exact or_iff_right here

end Custody.Session
