import Custody.Proofs.Session.Scripts

/-!
# Attachments

A registration is attached under a handle when the host has answered, and again each time that an owner
adopts it. Its cell has the handle while the attachment lasts. Whatever the handles are and in whatever
order they are looked at, moved out, adopted and dropped, an attachment ends once: the handle is moved
out, or the owner goes away and the host is asked to drop it. The cell is empty before the host is
asked, so nothing that goes on inside the request finds the handle a second time.
-/

set_option autoImplicit false

namespace Custody.Guest

variable {ρ : Type}

/-! ## What happens to a registration -/

/-- What guest code saw or did at the cell of a registration. -/
inductive Mark where
  | attached (h : Handle)
  | looked (h : Handle)
  /-- A transfer returned this. -/
  | moved (h : Handle)
  /-- The owner went away, and the host was asked to drop this. -/
  | requested (h : Handle)
  /-- The owner went away, and the host was asked for nothing. -/
  | left
deriving DecidableEq

/-- What can be done next. A new object has a place before the host has answered with its handle.
Guest code looks at a handle or moves it out through the registration, with or without an owner at
hand, and a handle is also moved out when its owner is used up. The host destroys an object. -/
inductive Act (ρ : Type) where
  | place (mode : Mode) (object : ρ)
  | answer (id : Nat) (h : Handle)
  | look (id : Nat)
  | detach (id : Nat)
  | consume (id : Nat)
  | release (id : Nat)
  | reattach (id : Nat) (h : Handle)
  | destroy (id : Nat)

/-- The registrations of a guest, with the owners that there are and all that happened so far. -/
structure Attachments (ρ : Type) where
  heap : Heap ρ := {}
  /-- The registrations that the host was asked for and that have no handle yet. -/
  unanswered : List Nat := []
  owners : List Nat := []
  /-- What happened to which registration, the latest in the end. -/
  history : List (Nat × Mark) := []

namespace Attachments

def mark (s : Attachments ρ) (id : Nat) (m : Mark) : Attachments ρ :=
  { s with history := s.history ++ [(id, m)] }

def course (s : Attachments ρ) (id : Nat) : List Mark :=
  (s.history.filter (·.1 = id)).map Prod.snd

def detach (s : Attachments ρ) (id : Nat) : Attachments ρ :=
  match s.heap.takeHandle id with
  | some (h, heap) => { s with heap }.mark id (.moved h)
  | none => s

/-- An owner goes away. Its handle is taken out first, and the host is asked to drop it if it is valid.
What goes on inside that request comes after this. -/
def release (s : Attachments ρ) (id : Nat) : Attachments ρ :=
  match s.heap.takeHandle id with
  | some (h, heap) =>
      { s with heap, owners := s.owners.erase id }.mark id (if h.isValid then .requested h else .left)
  | none => s

def perform (s : Attachments ρ) : Act ρ → Attachments ρ
  | .place mode object =>
      { s with
        heap := (s.heap.add mode object).2
        unanswered := (s.heap.add mode object).1 :: s.unanswered }
  | .answer id h =>
      { s with
        heap := s.heap.attach id h
        unanswered := s.unanswered.erase id
        owners := id :: s.owners }.mark id (.attached h)
  | .look id =>
      match s.heap.get? id with
      | some r => s.mark id (.looked r.handle)
      | none => s
  | .detach id => s.detach id
  -- an owner that is used up goes away once its handle is moved out
  | .consume id => (s.detach id).release id
  | .release id => s.release id
  | .reattach id h =>
      match s.heap.reattach h (some id) with
      | .ok heap => { s with heap, owners := id :: s.owners }.mark id (.attached h)
      | .error _ => s
  | .destroy id =>
      match s.heap.remove id with
      | some (_, heap) => { s with heap }
      | none => s

/-- The contract of each operation. An object is there when it is used, there is one owner of it at
most, and it is destroyed only when its owner is gone. The host answers with any valid handle, and with
none of them when it refuses. -/
def Permitted (s : Attachments ρ) : Act ρ → Prop
  | .place _ _ => True
  | .answer id h => id ∈ s.unanswered ∧ h.isValid = true
  | .look id | .detach id => ∃ r, s.heap.get? id = some r
  | .consume id | .release id => id ∈ s.owners
  | .reattach id _ =>
      (∃ r, s.heap.get? id = some r ∧ r.isAttached = false) ∧ id ∉ s.owners ∧ id ∉ s.unanswered
  | .destroy id => (∃ r, s.heap.get? id = some r) ∧ id ∉ s.owners ∧ id ∉ s.unanswered

/-- The states that permitted acts lead to from nothing. -/
inductive Reachable : Attachments ρ → Prop where
  | start : Reachable {}
  | step {s : Attachments ρ} (reachable : Reachable s) (act : Act ρ) :
      s.Permitted act → Reachable (s.perform act)

end Attachments

/-! ## What a cell goes through -/

/-- What a mark says about the handle in the cell before it and after it. -/
inductive Next : Handle → Mark → Handle → Prop where
  | attached {cell h : Handle} : cell.isValid = false → h.isValid = true → Next cell (.attached h) h
  | looked {cell : Handle} : Next cell (.looked cell) cell
  | moved {cell : Handle} : Next cell (.moved cell) (.invalid cell.mode)
  | requested {cell : Handle} : cell.isValid = true → Next cell (.requested cell) (.invalid cell.mode)
  | left {cell : Handle} : cell.isValid = false → Next cell .left (.invalid cell.mode)

/-- What a list of marks, the latest in the end, says about the cell before them and after them. -/
inductive Follows : Handle → List Mark → Handle → Prop where
  | nil {cell : Handle} : Follows cell [] cell
  | cons {cell next last : Handle} {m : Mark} {rest : List Mark} :
      Next cell m next → Follows next rest last → Follows cell (m :: rest) last

theorem Follows.append {first middle last : Handle} {front back : List Mark}
    (before : Follows first front middle) (after : Follows middle back last) :
    Follows first (front ++ back) last := by
  induction before with
  | nil => exact after
  | cons next _ ih => exact .cons next (ih after)

theorem Follows.split {first last : Handle} {front back : List Mark}
    (follows : Follows first (front ++ back) last) :
    ∃ middle, Follows first front middle ∧ Follows middle back last := by
  induction front generalizing first with
  | nil => exact ⟨first, .nil, follows⟩
  | cons m front ih =>
      cases follows with
      | cons next rest =>
          obtain ⟨middle, before, after⟩ := ih rest
          exact ⟨middle, .cons next before, after⟩

theorem Follows.snoc {first cell last : Handle} {marks : List Mark} {m : Mark}
    (before : Follows first marks cell) (next : Next cell m last) :
    Follows first (marks ++ [m]) last :=
  before.append (.cons next .nil)

def Mark.IsIdle (mode : Mode) (m : Mark) : Prop :=
  m = .looked (.invalid mode) ∨ m = .moved (.invalid mode) ∨ m = .left

/-- An attachment that lasts: its handle was seen, and nothing else happened. -/
def Lasts (h : Handle) (marks : List Mark) : Prop := ∀ m ∈ marks, m = .looked h

/-- An attachment that ended once: its handle was seen until it was moved out or its drop was requested,
whichever came first, and from then on there was none until the next attachment. -/
def Ended (h : Handle) (marks : List Mark) : Prop :=
  ∃ looks ending idle later, marks = looks ++ ending :: (idle ++ later) ∧ Lasts h looks ∧
    (ending = .moved h ∨ ending = .requested h) ∧ (∀ m ∈ idle, m.IsIdle h.mode) ∧
    (later = [] ∨ ∃ k more, later = .attached k :: more)

/-- Nothing happens at an empty cell until the next attachment. -/
theorem Follows.idle {mode : Mode} {last : Handle} {marks : List Mark}
    (follows : Follows (.invalid mode) marks last) :
    ∃ idle later, marks = idle ++ later ∧ (∀ m ∈ idle, m.IsIdle mode) ∧
      (later = [] ∨ ∃ h more, later = .attached h :: more) := by
  induction marks with
  | nil => exact ⟨[], [], rfl, nofun, .inl rfl⟩
  | cons m rest ih =>
      cases follows with
      | cons next rest =>
          cases next with
          | attached _ _ => exact ⟨[], _, rfl, nofun, .inr ⟨_, _, rfl⟩⟩
          | requested valid => simp at valid
          | looked =>
              obtain ⟨idle, later, split, quiet, ends⟩ := ih rest
              exact ⟨_ :: idle, later, congrArg _ split, List.forall_mem_cons.2 ⟨.inl rfl, quiet⟩, ends⟩
          | moved =>
              rw [Handle.mode_invalid] at rest
              obtain ⟨idle, later, split, quiet, ends⟩ := ih rest
              exact ⟨_ :: idle, later, congrArg _ split,
                List.forall_mem_cons.2 ⟨.inr (.inl rfl), quiet⟩, ends⟩
          | left _ =>
              rw [Handle.mode_invalid] at rest
              obtain ⟨idle, later, split, quiet, ends⟩ := ih rest
              exact ⟨_ :: idle, later, congrArg _ split,
                List.forall_mem_cons.2 ⟨.inr (.inr rfl), quiet⟩, ends⟩

theorem Follows.ends {h last : Handle} {marks : List Mark} (valid : h.isValid = true)
    (follows : Follows h marks last) : Lasts h marks ∧ last = h ∨ Ended h marks := by
  induction marks with
  | nil =>
      cases follows
      exact .inl ⟨nofun, rfl⟩
  | cons m rest ih =>
      cases follows with
      | cons next rest =>
          cases next with
          | attached invalid _ => cases valid.symm.trans invalid
          | left invalid => cases valid.symm.trans invalid
          | looked =>
              obtain ⟨lasts, same⟩ | ⟨looks, ending, idle, later, split, seen, ends⟩ := ih rest
              · exact .inl ⟨List.forall_mem_cons.2 ⟨rfl, lasts⟩, same⟩
              · exact .inr ⟨_ :: looks, ending, idle, later, congrArg _ split,
                  List.forall_mem_cons.2 ⟨rfl, seen⟩, ends⟩
          | moved =>
              obtain ⟨idle, later, split, quiet, ends⟩ := rest.idle
              exact .inr ⟨[], _, idle, later, congrArg _ split, nofun, .inl rfl, quiet, ends⟩
          | requested _ =>
              obtain ⟨idle, later, split, quiet, ends⟩ := rest.idle
              exact .inr ⟨[], _, idle, later, congrArg _ split, nofun, .inr rfl, quiet, ends⟩

/-! ## Runs -/

namespace Attachments

variable {s : Attachments ρ} {id : Nat}

theorem course_mark (s : Attachments ρ) (id : Nat) (m : Mark) (other : Nat) :
    (s.mark id m).course other = if other = id then s.course other ++ [m] else s.course other := by
  by_cases same : other = id
  · simp [course, mark, same]
  · simp [course, mark, same, Ne.symm same]

/-- The cell of a registration has the handle that its marks leave there, and an owner looks after
each handle in a cell. -/
structure Traced (s : Attachments ρ) : Prop where
  present : ∀ id, id ∈ s.owners ∨ id ∈ s.unanswered → ∃ r, s.heap.get? id = some r
  owners_nodup : s.owners.Nodup
  unanswered_nodup : s.unanswered.Nodup
  apart : ∀ id ∈ s.owners, id ∉ s.unanswered
  old : ∀ entry ∈ s.history, entry.1 < s.heap.next
  traced : ∀ id, ∃ mode cell, Follows (.invalid mode) (s.course id) cell ∧
    (∀ r, s.heap.get? id = some r → r.handle = cell) ∧ (cell.isValid = true → id ∈ s.owners)

theorem traced_start : Traced ({} : Attachments ρ) where
  present := by simp
  owners_nodup := List.nodup_nil
  unanswered_nodup := List.nodup_nil
  apart := nofun
  old := nofun
  traced _ := ⟨.integer, .invalid .integer, .nil, nofun, by simp⟩

private theorem Traced.invalid (traced : s.Traced) {r : Registration ρ}
    (present : s.heap.get? id = some r) (unowned : id ∉ s.owners) : r.handle.isValid = false := by
  obtain ⟨_, cell, -, here, owned⟩ := traced.traced id
  rw [here r present]
  exact Bool.eq_false_iff.2 fun valid => unowned (owned valid)

private theorem Traced.mark (traced : s.Traced) {r after : Registration ρ} {m : Mark}
    (present : s.heap.get? id = some r) (next : Next r.handle m after.handle) {heap : Heap ρ}
    (places : ∀ other, heap.get? other = if other = id then some after else s.heap.get? other)
    (same : heap.next = s.heap.next) {unanswered owners : List Nat}
    (fewer : unanswered.Sublist s.unanswered) (nodup : owners.Nodup)
    (others : ∀ other, other ≠ id → (other ∈ owners ↔ other ∈ s.owners))
    (apart : id ∈ owners → id ∉ unanswered) (owned : after.handle.isValid = true → id ∈ owners) :
    ({ s with heap, unanswered, owners }.mark id m).Traced where
  present other member := by
    refine (em (other = id)).elim (fun here => ⟨after, ?_⟩) fun elsewhere => ?_
    · exact (places other).trans (if_pos here)
    · obtain ⟨r, found⟩ := traced.present other
        (member.imp (others other elsewhere).1 fun kept => fewer.subset kept)
      exact ⟨r, (places other).trans ((if_neg elsewhere).trans found)⟩
  owners_nodup := nodup
  unanswered_nodup := traced.unanswered_nodup.sublist fewer
  apart other member := by
    by_cases here : other = id
    · subst here
      exact apart member
    · exact fun kept =>
        traced.apart other ((others other here).1 member) (fewer.subset kept)
  old entry member := by
    rcases List.mem_append.1 member with before | now
    · exact same ▸ traced.old entry before
    · rw [List.mem_singleton.1 now]
      exact same ▸ Heap.lt_next present
  traced other := by
    obtain ⟨mode, cell, follows, here, kept⟩ := traced.traced other
    rw [course_mark]
    by_cases own : other = id
    · subst own
      rw [if_pos rfl]
      rw [here r present] at next
      refine ⟨mode, after.handle, follows.snoc next, fun found there => ?_, owned⟩
      cases ((places other).symm.trans there).symm.trans (if_pos rfl)
      rfl
    · rw [if_neg own]
      refine ⟨mode, cell, follows, fun found there => ?_, fun valid => ?_⟩
      · exact here found ((if_neg own).symm.trans ((places other).symm.trans there))
      · exact (others other own).2 (kept valid)

theorem detach_eq {r : Registration ρ} (present : s.heap.get? id = some r) :
    s.detach id =
      { s with heap := s.heap.put id { r with handle := .invalid r.mode } }.mark id
        (.moved r.handle) := by
  rw [detach, Heap.takeHandle_eq present]

theorem release_eq {r : Registration ρ} (present : s.heap.get? id = some r) :
    s.release id =
      { s with
        heap := s.heap.put id { r with handle := .invalid r.mode }
        owners := s.owners.erase id }.mark id
        (if r.handle.isValid then .requested r.handle else .left) := by
  rw [release, Heap.takeHandle_eq present]

private theorem Traced.detach (traced : s.Traced) {r : Registration ρ}
    (present : s.heap.get? id = some r) : (s.detach id).Traced := by
  rw [detach_eq present]
  exact traced.mark present .moved (Heap.get?_put present _) rfl (.refl _) traced.owners_nodup
    (fun _ _ => Iff.rfl) (traced.apart id) (by simp)

private theorem Traced.release (traced : s.Traced) {r : Registration ρ}
    (present : s.heap.get? id = some r) : (s.release id).Traced := by
  have next : Next r.handle (if r.handle.isValid then .requested r.handle else .left)
      (.invalid r.mode) := by
    cases valid : r.handle.isValid with
    | true => exact .requested valid
    | false => exact .left valid
  rw [release_eq present]
  exact traced.mark present next (Heap.get?_put present _) rfl (.refl _)
    (traced.owners_nodup.erase id) (fun _ elsewhere => List.mem_erase_of_ne elsewhere)
    (fun member => traced.apart id (List.mem_of_mem_erase member)) (by simp)

private theorem Traced.place (traced : s.Traced) (mode : Mode) (object : ρ) :
    (s.perform (.place mode object)).Traced := by
  have fresh : ∀ other r, s.heap.get? other = some r → other ≠ s.heap.next := fun other r present =>
    Nat.ne_of_lt (Heap.lt_next present)
  have places := s.heap.get?_add mode object
  refine
    { present := fun other member => ?_
      owners_nodup := traced.owners_nodup
      unanswered_nodup := List.nodup_cons.2 ⟨fun member => ?_, traced.unanswered_nodup⟩
      apart := fun other owned member => ?_
      old := fun entry member => Nat.lt_succ_of_lt (traced.old entry member)
      traced := fun other => ?_ }
  · by_cases new : other = s.heap.next
    · exact ⟨_, (places other).trans (if_pos new)⟩
    · obtain ⟨r, present⟩ := traced.present other
        (member.imp_right fun member => (List.mem_cons.1 member).resolve_left new)
      exact ⟨r, (places other).trans ((if_neg new).trans present)⟩
  · obtain ⟨r, present⟩ := traced.present _ (.inr member)
    exact fresh _ r present rfl
  · obtain ⟨r, present⟩ := traced.present other (.inl owned)
    rcases List.mem_cons.1 member with new | old
    · exact fresh other r present new
    · exact traced.apart other owned old
  · by_cases new : other = s.heap.next
    · -- nothing has happened to a number that was not given yet
      have untouched : s.course other = [] := by
        rw [course, List.map_eq_nil_iff, List.filter_eq_nil_iff]
        intro entry member
        simpa [new] using Nat.ne_of_lt (traced.old entry member)
      refine ⟨mode, .invalid mode, ?_, fun r present => ?_, by simp⟩
      · change Follows _ (s.course other) _
        rw [untouched]
        exact .nil
      · cases ((places other).symm.trans present).symm.trans (if_pos new)
        rfl
    · obtain ⟨first, cell, follows, here, owned⟩ := traced.traced other
      exact ⟨first, cell, follows, fun r present =>
        here r ((if_neg new).symm.trans ((places other).symm.trans present)), owned⟩

private theorem Traced.attach (traced : s.Traced) {r : Registration ρ} {h : Handle}
    (present : s.heap.get? id = some r) (valid : h.isValid = true) (unowned : id ∉ s.owners)
    {unanswered : List Nat} (fewer : unanswered.Sublist s.unanswered) (answered : id ∉ unanswered) :
    ({ s with
        heap := s.heap.put id { r with handle := h }
        unanswered
        owners := id :: s.owners }.mark id (.attached h)).Traced :=
  traced.mark present (.attached (traced.invalid present unowned) valid) (Heap.get?_put present _) rfl
    fewer (List.nodup_cons.2 ⟨unowned, traced.owners_nodup⟩)
    (fun _ elsewhere => List.mem_cons.trans (or_iff_right elsewhere)) (fun _ => answered)
    (fun _ => List.mem_cons_self)

private theorem Traced.destroy (traced : s.Traced) {r : Registration ρ}
    (present : s.heap.get? id = some r) (unowned : id ∉ s.owners) (answered : id ∉ s.unanswered) :
    (s.perform (.destroy id)).Traced := by
  obtain ⟨heap, removed, places⟩ := Heap.remove_of_get? present
  have same : heap.next = s.heap.next := by
    rw [Heap.remove, present] at removed
    cases removed
    rfl
  simp only [perform, removed]
  refine { traced with
    present := fun other member => ?_
    old := fun entry member => same ▸ traced.old entry member
    traced := fun other => ?_ }
  · have elsewhere : other ≠ id := fun here => by
      subst here
      exact member.elim unowned answered
    obtain ⟨found, there⟩ := traced.present other member
    exact ⟨found, (places other).trans ((if_neg elsewhere).trans there)⟩
  · obtain ⟨mode, cell, follows, here, owned⟩ := traced.traced other
    refine ⟨mode, cell, follows, fun found there => ?_, owned⟩
    have kept := (places other).symm.trans there
    by_cases gone : other = id
    · rw [if_pos gone] at kept
      cases kept
    · rw [if_neg gone] at kept
      exact here found kept

private theorem Traced.perform (traced : s.Traced) {act : Act ρ} (permitted : s.Permitted act) :
    (s.perform act).Traced := by
  cases act with
  | place mode object => exact traced.place mode object
  | answer id h =>
      obtain ⟨waits, valid⟩ := permitted
      obtain ⟨r, present⟩ := traced.present id (.inr waits)
      have unowned : id ∉ s.owners := fun owned => traced.apart id owned waits
      simp only [Attachments.perform, Heap.attach_eq present]
      exact traced.attach present valid unowned List.erase_sublist
        traced.unanswered_nodup.not_mem_erase
  | look id =>
      obtain ⟨r, present⟩ := permitted
      simp only [Attachments.perform, present]
      refine traced.mark present .looked (fun other => ?_) rfl (.refl _) traced.owners_nodup
        (fun _ _ => Iff.rfl) (traced.apart id) fun valid => ?_
      · split
        · rename_i here
          rw [here, present]
        · rfl
      · exact by_contra fun unowned => by simp [traced.invalid present unowned] at valid
  | detach id =>
      obtain ⟨r, present⟩ := permitted
      exact traced.detach present
  | consume id =>
      obtain ⟨r, present⟩ := traced.present id (.inl permitted)
      have after : (s.detach id).heap.get? id = some { r with handle := .invalid r.mode } := by
        rw [detach_eq present]
        exact (Heap.get?_put present _ id).trans (if_pos rfl)
      exact (traced.detach present).release after
  | release id =>
      obtain ⟨r, present⟩ := traced.present id (.inl permitted)
      exact traced.release present
  | reattach id h =>
      obtain ⟨⟨r, present, detached⟩, unowned, answered⟩ := permitted
      simp only [Attachments.perform]
      cases valid : h.isValid with
      | true =>
          rw [Heap.reattach_eq present valid detached]
          exact traced.attach present valid unowned (.refl _) answered
      | false =>
          simp only [Heap.reattach, valid, Bool.not_false, if_true]
          exact traced
  | destroy id =>
      obtain ⟨⟨r, present⟩, unowned, answered⟩ := permitted
      exact traced.destroy present unowned answered

theorem Reachable.traced (reachable : s.Reachable) : s.Traced := by
  induction reachable with
  | start => exact traced_start
  | step _ act permitted ih => exact ih.perform permitted

/-! ## The scripts of a session -/

section Scripts

open Session (Owner Resource World)

variable {s : Attachments Resource} {world : World} {owner : Owner} {r : Registration Resource}

/-- The script that lets an owner of an attached registration go is one drop request, made when the
handle is out of the cell. -/
theorem releaseOwner_requests (same : world.heap = s.heap)
    (present : s.heap.get? owner.id = some r) (valid : r.handle.isValid = true) :
    Session.releaseOwner owner world =
      Session.startDrop r.handle
        { world with
          heap := (s.release owner.id).heap
          log := r.object.requests r.handle ++ world.log } := by
  rw [Session.releaseOwner_attached (same ▸ present) valid, release_eq present, same]
  rfl

theorem releaseOwner_leaves (same : world.heap = s.heap)
    (present : s.heap.get? owner.id = some r) (invalid : r.handle.isValid = false) :
    Session.releaseOwner owner world = .ok none { world with heap := (s.release owner.id).heap } := by
  rw [Session.releaseOwner_detached (same ▸ present) invalid, release_eq present, same]
  rfl

theorem ownerHandle_looks (same : world.heap = s.heap)
    (present : s.heap.get? owner.id = some r) :
    Session.ownerHandle owner world = .ok r.handle world := by
  rw [← same] at present
  unfold Session.ownerHandle
  rw [Session.Script.get_bind, present]
  rfl

theorem takeHandle_moves (same : world.heap = s.heap) (present : s.heap.get? owner.id = some r) :
    Session.takeHandle owner world = .ok r.handle { world with heap := (s.detach owner.id).heap } := by
  rw [Session.takeHandle_eq (same ▸ present), detach_eq present, same]
  rfl

theorem reattach_attaches {h : Handle} {id : Nat} (same : world.heap = s.heap)
    (permitted : s.Permitted (.reattach id h)) (valid : h.isValid = true) :
    Session.reattach h (some id) world =
      .ok { id, mode := h.mode } { world with heap := (s.perform (.reattach id h)).heap } := by
  obtain ⟨⟨r, present, detached⟩, -, -⟩ := permitted
  simp only [perform, Heap.reattach_eq present valid detached]
  rw [Session.reattach_eq (same ▸ present) valid detached, same]
  rfl

theorem register_attaches {entryName : String} {mode : Mode} {h : Handle} {host : Host}
    (typeName : String) (object : Resource) (same : world.heap = s.heap)
    (registered : world.machine.host.register mode (Session.reclaiming entryName s.heap.next) =
      (.ok h, host)) :
    Session.register typeName entryName mode object world =
      .ok { id := s.heap.next, mode }
        { world with
          machine := { world.machine with host }
          heap := ((s.perform (.place mode object)).perform (.answer s.heap.next h)).heap } := by
  rw [← same] at registered
  rw [Session.register_ok typeName object registered, same]
  rfl

/-! ## Each attachment ends once -/

/-- What becomes of the attachments of one registration, whatever an owner or guest code does next. -/
structure EndsOnce (s : Attachments Resource) (id : Nat) : Prop where
  /-- An attachment ended once, or it lasts with its owner and with its handle in the cell. -/
  ends : ∀ {before after : List Mark} {h : Handle}, s.course id = before ++ .attached h :: after →
    h.isValid = true ∧
      (Ended h after ∨
        Lasts h after ∧ id ∈ s.owners ∧ ∃ r, s.heap.get? id = some r ∧ r.handle = h)
  /-- The host has answered with a handle for the next object. -/
  registers : ∀ {typeName entryName : String} {mode : Mode} {object : Resource} {h : Handle}
    {host : Host} {world : World}, s.heap.next = id → world.heap = s.heap →
    world.machine.host.register mode (Session.reclaiming entryName id) = (.ok h, host) →
    ((s.perform (.place mode object)).perform (.answer id h)).course id =
        s.course id ++ [.attached h] ∧
      Session.register typeName entryName mode object world =
        .ok { id, mode }
          { world with
            machine := { world.machine with host }
            heap := ((s.perform (.place mode object)).perform (.answer id h)).heap }
  adopts : ∀ {h : Handle} {world : World}, world.heap = s.heap → s.Permitted (.reattach id h) →
    h.isValid = true →
    (s.perform (.reattach id h)).course id = s.course id ++ [.attached h] ∧
      Session.reattach h (some id) world =
        .ok { id, mode := h.mode } { world with heap := (s.perform (.reattach id h)).heap }
  looks : ∀ {owner : Owner} {r : Registration Resource} {world : World}, owner.id = id →
    world.heap = s.heap → s.heap.get? id = some r →
    (s.perform (.look id)).course id = s.course id ++ [.looked r.handle] ∧
      Session.ownerHandle owner world = .ok r.handle world
  moves : ∀ {owner : Owner} {r : Registration Resource} {world : World}, owner.id = id →
    world.heap = s.heap → s.heap.get? id = some r →
    (s.detach id).course id = s.course id ++ [.moved r.handle] ∧
      Session.takeHandle owner world = .ok r.handle { world with heap := (s.detach id).heap }
  /-- An owner that is used up for its handle asks for nothing and leaves the heap as it is once the
  handle is moved out. -/
  consumes : ∀ {owner : Owner} {r : Registration Resource} {world : World}, owner.id = id →
    world.heap = s.heap → s.heap.get? id = some r →
    (s.perform (.consume id)).course id = s.course id ++ [.moved r.handle, .left] ∧
      (s.perform (.consume id)).heap = (s.detach id).heap ∧
      Session.intoHandle owner world =
        .ok (r.handle, none) { world with heap := (s.perform (.consume id)).heap }
  /-- When an owner with a handle goes away, one drop of that handle is requested, and the request
  starts with an empty cell. -/
  requests : ∀ {owner : Owner} {r : Registration Resource} {world : World}, owner.id = id →
    world.heap = s.heap → s.heap.get? id = some r → r.handle.isValid = true →
    (s.release id).course id = s.course id ++ [.requested r.handle] ∧
      (s.release id).heap.get? id = some { r with handle := .invalid r.mode } ∧
      Session.releaseOwner owner world =
        Session.startDrop r.handle
          { world with
            heap := (s.release id).heap
            log := r.object.requests r.handle ++ world.log }
  /-- When an owner without a handle goes away, nothing is requested. -/
  leaves : ∀ {owner : Owner} {r : Registration Resource} {world : World}, owner.id = id →
    world.heap = s.heap → s.heap.get? id = some r → r.handle.isValid = false →
    (s.release id).course id = s.course id ++ [.left] ∧
      Session.releaseOwner owner world = .ok none { world with heap := (s.release id).heap }

theorem course_mark_self (s : Attachments ρ) (id : Nat) (m : Mark) :
    (s.mark id m).course id = s.course id ++ [m] := by
  rw [course_mark, if_pos rfl]

theorem course_reattach {h : Handle} (permitted : s.Permitted (.reattach id h))
    (valid : h.isValid = true) :
    (s.perform (.reattach id h)).course id = s.course id ++ [.attached h] := by
  obtain ⟨⟨r, present, detached⟩, -, -⟩ := permitted
  simp only [perform, Heap.reattach_eq present valid detached]
  exact course_mark_self _ id _

theorem course_look {r : Registration Resource} (present : s.heap.get? id = some r) :
    (s.perform (.look id)).course id = s.course id ++ [.looked r.handle] := by
  simp only [perform, present]
  exact course_mark_self _ id _

theorem course_detach {r : Registration Resource} (present : s.heap.get? id = some r) :
    (s.detach id).course id = s.course id ++ [.moved r.handle] := by
  rw [detach_eq present]
  exact course_mark_self _ id _

theorem get?_detach {r : Registration Resource} (present : s.heap.get? id = some r) :
    (s.detach id).heap.get? id = some { r with handle := .invalid r.mode } := by
  rw [detach_eq present]
  exact (Heap.get?_put present _ id).trans (if_pos rfl)

theorem course_release {r : Registration Resource} (present : s.heap.get? id = some r) :
    (s.release id).course id =
      s.course id ++ [if r.handle.isValid then .requested r.handle else .left] := by
  rw [release_eq present]
  exact course_mark_self _ id _

theorem get?_release {r : Registration Resource} (present : s.heap.get? id = some r) :
    (s.release id).heap.get? id = some { r with handle := .invalid r.mode } := by
  rw [release_eq present]
  exact (Heap.get?_put present _ id).trans (if_pos rfl)

theorem course_consume {r : Registration Resource} (present : s.heap.get? id = some r) :
    (s.perform (.consume id)).course id = s.course id ++ [.moved r.handle, .left] := by
  rw [perform, course_release (get?_detach present), course_detach present, List.append_assoc,
    if_neg (by simp)]
  rfl

theorem heap_consume {r : Registration Resource} (present : s.heap.get? id = some r) :
    (s.perform (.consume id)).heap = (s.detach id).heap := by
  rw [perform, release_eq (get?_detach present), detach_eq present]
  change (s.heap.put id _).put id _ = s.heap.put id _
  rw [Heap.put_put, Registration.mode, Handle.mode_invalid]

theorem intoHandle_consumes (same : world.heap = s.heap)
    (present : s.heap.get? owner.id = some r) :
    Session.intoHandle owner world =
      .ok (r.handle, none) { world with heap := (s.perform (.consume owner.id)).heap } := by
  rw [Session.intoHandle_eq (same ▸ present), heap_consume present, detach_eq present, same]
  rfl

theorem Reachable.endsOnce (reachable : s.Reachable) (id : Nat) : s.EndsOnce id where
  ends := by
    intro before after h split
    obtain ⟨mode, last, follows, here, owned⟩ := reachable.traced.traced id
    rw [split] at follows
    obtain ⟨cell, -, rest⟩ := follows.split
    cases rest with
    | cons next rest =>
        cases next with
        | attached _ valid =>
            refine ⟨valid, ?_⟩
            obtain ⟨lasts, rfl⟩ | ended := rest.ends valid
            · have member := owned valid
              obtain ⟨r, present⟩ := reachable.traced.present id (.inl member)
              exact .inr ⟨lasts, member, r, present, here r present⟩
            · exact .inl ended
  registers := by
    rintro typeName entryName mode object h host world rfl same registered
    exact ⟨course_mark_self _ _ _, register_attaches typeName object same registered⟩
  adopts := by
    intro h world same permitted valid
    exact ⟨course_reattach permitted valid, reattach_attaches same permitted valid⟩
  looks := by
    rintro owner r world rfl same present
    exact ⟨course_look present, ownerHandle_looks same present⟩
  moves := by
    rintro owner r world rfl same present
    exact ⟨course_detach present, takeHandle_moves same present⟩
  consumes := by
    rintro owner r world rfl same present
    exact ⟨course_consume present, heap_consume present, intoHandle_consumes same present⟩
  requests := by
    rintro owner r world rfl same present valid
    refine ⟨?_, get?_release present, releaseOwner_requests same present valid⟩
    rw [course_release present, if_pos valid]
  leaves := by
    rintro owner r world rfl same present invalid
    refine ⟨?_, releaseOwner_leaves same present invalid⟩
    rw [course_release present, if_neg (Bool.eq_false_iff.1 invalid)]

/-- The handle of an object is moved out, then its owner goes away. Another owner adopts it under another
handle and is dropped. -/
theorem endsOnce_of_readopted :
    ∃ s : Attachments Resource, s.EndsOnce 0 ∧
      s.course 0 =
        [ .attached (.pointer 4096), .looked (.pointer 4096), .moved (.pointer 4096),
          .moved (.pointer 0), .left, .attached (.pointer 7), .looked (.pointer 7),
          .requested (.pointer 7), .looked (.pointer 0) ] := by
  have first := Reachable.start.step (.place .pointer (Resource.probe [])) trivial
    |>.step (.answer 0 (.pointer 4096)) ⟨.head _, rfl⟩
    |>.step (.look 0) ⟨_, rfl⟩
    |>.step (.detach 0) ⟨_, rfl⟩
    |>.step (.detach 0) ⟨_, rfl⟩
    |>.step (.release 0) (.head _)
  have second := first.step (.reattach 0 (.pointer 7)) ⟨⟨_, rfl, rfl⟩, nofun, nofun⟩
    |>.step (.look 0) ⟨_, rfl⟩
    |>.step (.release 0) (.head _)
    |>.step (.look 0) ⟨_, rfl⟩
    |>.step (.destroy 0) ⟨⟨_, rfl⟩, nofun, nofun⟩
  exact ⟨_, second.endsOnce 0, rfl⟩

end Scripts

end Attachments

end Custody.Guest
