import Custody.Session.Run
import Custody.Proofs.Host.Dues
import Custody.Proofs.Session.Scripts

/-!
# The stages of a session

A session goes from one stage to the next by what guest code and its host do between two destructors:
the guest changes its own affairs, it asks the host for something, it registers an object, and a
destructor that the host has started takes its object off the heap. A path adds up what its moves
register, what they run and how often they replace the host.
-/

set_option autoImplicit false

namespace Custody

/-! ## Weights of a ledger -/

namespace Ledger

variable {α : Type} (weight : α → Nat)

def total (l : Ledger α) : Nat := (l.entries.map fun entry => weight entry.2).sum

theorem total_add (l : Ledger α) (value : α) :
    (l.add value).2.total weight = l.total weight + weight value := by
  simp only [total, add, List.map_cons, List.sum_cons, Nat.add_comm]

theorem total_replace (l : Ledger α) {n : Nat} {old value : α} (present : l.get? n = some old)
    (same : weight value = weight old) : (l.replace n value).total weight = l.total weight := by
  unfold total replace
  unfold get? at present
  dsimp only
  generalize l.entries = entries at present ⊢
  induction entries with
  | nil => rfl
  | cons entry rest ih =>
      obtain ⟨k, kept⟩ := entry
      rw [List.lookup_cons] at present
      by_cases here : n = k
      · subst here
        rw [beq_self_eq_true] at present
        cases present
        simp [replaceIn, same]
      · rw [beq_false_of_ne here] at present
        simp [replaceIn, Ne.symm here, ih present]

theorem total_erase (l : Ledger α) {n : Nat} {value : α} (present : l.get? n = some value) :
    l.total weight = (l.erase n).total weight + weight value := by
  unfold total erase
  unfold get? at present
  dsimp only
  generalize l.entries = entries at present ⊢
  induction entries with
  | nil => cases present
  | cons entry rest ih =>
      obtain ⟨k, kept⟩ := entry
      rw [List.lookup_cons] at present
      by_cases here : n = k
      · subst here
        rw [beq_self_eq_true] at present
        cases present
        simp [Nat.add_comm]
      · rw [beq_false_of_ne here] at present
        simp [Ne.symm here, ih present, Nat.add_assoc]

end Ledger

namespace Session

open Host (DestructorCall)

/-! ## Programs of destructors -/

mutual

/-- Whether a step is ordinary business between guest and host, now and when a node of its own is
destroyed. Work in memory, the audit and the replacement of the host are special. -/
def Step.IsOrdinary : Step → Prop
  | .memory _ | .install _ | .audit _ _ => False
  | .create _ _ _ _ onDrop _ _ => AreOrdinary onDrop
  | _ => True

def AreOrdinary : List Step → Prop
  | [] => True
  | step :: rest => step.IsOrdinary ∧ AreOrdinary rest

end

def Resource.program : Resource → List Step
  | .node content => content.onDrop
  | .probe _ => []

/-- The largest number of objects that an object registers when it is destroyed. -/
def Resource.burden (object : Resource) : Nat := registrationsOf object.program

/-- An object whose program takes special steps only where that is allowed. -/
def Resource.Admitted (special : Bool) (object : Resource) : Prop :=
  special = false → AreOrdinary object.program

def noting (typeName : String) (value : UInt64) : DestructorCall :=
  { rep := .number value, destructor := .note, typeName }

/-! ## Moves -/

/-- A world, with the destructor that the host has started and that has done nothing yet. -/
structure Stage where
  world : World
  entering : Option DestructorCall := none

namespace Stage

def due (s : Stage) : List DestructorCall := s.entering.toList ++ s.world.machine.due

/-- The largest number of destructors that can still run before guest code registers anything else. -/
def prospects (s : Stage) : Nat := s.due.length + s.world.heap.places.total (·.object.burden)

end Stage

/-- What a path comes to: how many objects were registered, how many destructors have run, and how
often the host was replaced. -/
@[ext]
structure Tally where
  registered : Nat := 0
  run : Nat := 0
  installed : Nat := 0

namespace Tally

instance : Add Tally where
  add t u :=
    { registered := t.registered + u.registered
      run := t.run + u.run
      installed := t.installed + u.installed }

@[simp]
theorem registered_add (t u : Tally) : (t + u).registered = t.registered + u.registered := rfl

@[simp]
theorem run_add (t u : Tally) : (t + u).run = t.run + u.run := rfl

@[simp]
theorem installed_add (t u : Tally) : (t + u).installed = t.installed + u.installed := rfl

theorem empty_add (t : Tally) : {} + t = t :=
  Tally.ext (Nat.zero_add _) (Nat.zero_add _) (Nat.zero_add _)

theorem add_assoc (t u v : Tally) : t + u + v = t + (u + v) :=
  Tally.ext (Nat.add_assoc ..) (Nat.add_assoc ..) (Nat.add_assoc ..)

end Tally

/-- A call that registers no object of the guest; a number has no place on the heap. -/
def IsPlain : Host.Call → Prop
  | .register _ call => ∃ typeName value, call = noting typeName value
  | _ => True

/-- What can happen next. An object that is registered has a place on the heap first, whether the host
accepts it or not. -/
inductive Stage.Move (special : Bool) : Stage → Tally → Stage → Prop where
  /-- The guest changes its registers, its memory or its log. -/
  | aside {world after : World} {entering : Option DestructorCall}
      (machine_eq : after.machine = world.machine) (heap_eq : after.heap = world.heap) :
      Stage.Move special ⟨world, entering⟩ {} ⟨after, entering⟩
  | ask {world : World} (call : Host.Call) (plain : IsPlain call) :
      Stage.Move special ⟨world, none⟩
        { registered := (world.machine.lodged call).toList.length
          installed := call.installs }
        ⟨{ world with machine := (world.machine.ask call).2 },
          (world.machine.ask call).1.started?⟩
  | register {world : World} (typeName : String) (mode : Mode) {object : Resource}
      (admitted : object.Admitted special) {call : Host.Call}
      (call_eq : call = .register mode (reclaiming typeName world.heap.next)) :
      Stage.Move special ⟨world, none⟩ { registered := (world.machine.lodged call).toList.length }
        ⟨{ world with
            machine := (world.machine.ask call).2
            heap := (world.heap.add mode object).2 }, none⟩
  /-- Another handle or other contents, but the same program. -/
  | revise {world : World} {id : Nat} {old new : Guest.Registration Resource}
      (present : world.heap.get? id = some old)
      (program_eq : new.object.program = old.object.program) :
      Stage.Move special ⟨world, none⟩ {} ⟨{ world with heap := world.heap.put id new }, none⟩
  | note {world : World} (typeName : String) (value : UInt64) :
      Stage.Move special ⟨world, some (noting typeName value)⟩ { run := 1 } ⟨world, none⟩
  | reclaim {world : World} {heap : Guest.Heap Resource} {id : Nat} {object : Resource}
      (typeName : String) (removed : world.heap.remove id = some (object, heap)) :
      Stage.Move special ⟨world, some (reclaiming typeName id)⟩ { run := 1 }
        ⟨{ world with heap }, none⟩

inductive Path (special : Bool) (s : Stage) : Tally → Stage → Prop where
  | refl : Path special s {} s
  | step {t u : Tally} {middle after : Stage} (path : Path special s t middle)
      (move : Stage.Move special middle u after) : Path special s (t + u) after

variable {special : Bool} {s middle after : Stage} {t u : Tally}

theorem Path.single (move : Stage.Move special s t after) : Path special s t after :=
  t.empty_add ▸ .step .refl move

theorem Path.trans (first : Path special s t middle) (second : Path special middle u after) :
    Path special s (t + u) after := by
  induction second with
  | refl => exact first
  | step _ move ih =>
      rw [← Tally.add_assoc]
      exact .step ih move

/-! ## Tidy stages -/

/-- The destructors that are due call for objects on the heap, each for an object of its own, and for
numbers. -/
structure Stage.Tidy (special : Bool) (s : Stage) : Prop where
  fits : s.world.machine.host.Fits
  formed : ∀ call ∈ s.due, ∃ typeName,
    (∃ value, call = noting typeName value) ∨ ∃ id, call = reclaiming typeName id
  once : ∀ id, s.due.countP (·.rep = .registration id) ≤
    if (s.world.heap.get? id).isSome then 1 else 0
  admitted : ∀ id r, s.world.heap.get? id = some r → r.object.Admitted special

namespace Stage.Tidy

variable {world : World} {entering : Option DestructorCall}

theorem sound (tidy : s.Tidy special) : s.world.machine.host.table.Sound := tidy.fits.compact.sound

theorem present (tidy : s.Tidy special) {typeName : String} {id : Nat}
    (due : reclaiming typeName id ∈ s.due) : ∃ r, s.world.heap.get? id = some r := by
  have counted : 0 < s.due.countP (·.rep = .registration id) :=
    List.countP_pos_iff.2 ⟨_, due, by simp [reclaiming]⟩
  have once := tidy.once id
  rw [← Option.isSome_iff_exists]
  by_contra absent
  rw [if_neg absent] at once
  omega

theorem aside (tidy : (Stage.mk world entering).Tidy special) {after : World}
    (machine_eq : after.machine = world.machine) (heap_eq : after.heap = world.heap) :
    (Stage.mk after entering).Tidy special := by
  have due_eq : (Stage.mk after entering).due = (Stage.mk world entering).due := by
    simp only [due, machine_eq]
  refine ⟨?_, ?_, fun id => ?_, ?_⟩
  · simpa only [machine_eq] using tidy.fits
  · simpa only [due_eq] using tidy.formed
  · simpa only [due_eq, heap_eq] using tidy.once id
  · simpa only [heap_eq] using tidy.admitted

theorem revise (tidy : (Stage.mk world none).Tidy special) {id : Nat}
    {old new : Guest.Registration Resource} (present : world.heap.get? id = some old)
    (program_eq : new.object.program = old.object.program) :
    (Stage.mk { world with heap := world.heap.put id new } none).Tidy special where
  fits := tidy.fits
  formed := tidy.formed
  once other := by
    have before := tidy.once other
    have same : ((world.heap.put id new).get? other).isSome = (world.heap.get? other).isSome := by
      rw [Guest.Heap.get?_put present]
      split
      · rename_i here
        rw [here, present]
        rfl
      · rfl
    rwa [← same] at before
  admitted other r found := by
    have found : (world.heap.put id new).get? other = some r := found
    rw [Guest.Heap.get?_put present] at found
    split at found
    · cases found
      intro ordinary
      rw [program_eq]
      exact tidy.admitted id old present ordinary
    · exact tidy.admitted other r found

/-- The host is asked for something, and what it is asked to register is well formed and has an object
of its own. -/
theorem ask (tidy : (Stage.mk world none).Tidy special) (call : Host.Call)
    {heap : Guest.Heap Resource}
    (formed : ∀ new ∈ world.machine.lodged call, ∃ typeName,
      (∃ value, new = noting typeName value) ∨ ∃ id, new = reclaiming typeName id)
    (once : ∀ id, (world.machine.lodged call).toList.countP (·.rep = .registration id) +
        (if (world.heap.get? id).isSome then 1 else 0) ≤ if (heap.get? id).isSome then 1 else 0)
    (admitted : ∀ id r, heap.get? id = some r → r.object.Admitted special)
    {entering : Option DestructorCall}
    (started : entering = (world.machine.ask call).1.started?) :
    (Stage.mk { world with machine := (world.machine.ask call).2, heap } entering).Tidy special := by
  have fewer := Host.Machine.ask_due tidy.sound call
  rw [← started] at fewer
  refine ⟨Host.Machine.fits_ask tidy.fits call, ?_, fun id => ?_, admitted⟩
  · intro due member
    rcases List.mem_append.1 (fewer.subset member) with new | old
    · exact formed due (by simpa using new)
    · exact tidy.formed due old
  · refine (fewer.countP_le (·.rep = .registration id)).trans ?_
    rw [List.countP_append]
    exact (Nat.add_le_add_left (tidy.once id) _).trans (once id)

/-- A destructor that was started begins, and from now on it is not due any more. -/
theorem enter {call : DestructorCall} (tidy : (Stage.mk world (some call)).Tidy special)
    {heap : Guest.Heap Resource}
    (kept : ∀ id, heap.get? id = if call.rep = .registration id then none else world.heap.get? id) :
    (Stage.mk { world with heap } none).Tidy special where
  fits := tidy.fits
  formed due member := tidy.formed due (List.mem_cons_of_mem call member)
  once id := by
    have before : (call :: world.machine.due).countP _ ≤ _ := tidy.once id
    change world.machine.due.countP _ ≤ if (heap.get? id).isSome then 1 else 0
    rw [kept id]
    rw [List.countP_cons] at before
    by_cases own : call.rep = .registration id
    · have one : (if (world.heap.get? id).isSome then 1 else 0) ≤ 1 := by split <;> decide
      simp only [own, decide_true, if_true, Option.isSome_none, Bool.false_eq_true, if_false]
        at before ⊢
      omega
    · simpa [own] using before
  admitted id r found := by
    have found : heap.get? id = some r := found
    rw [kept id] at found
    split at found
    · cases found
    · exact tidy.admitted id r found

end Stage.Tidy

namespace Stage.Tidy

variable {world : World}

theorem askPlain (tidy : (Stage.mk world none).Tidy special) {call : Host.Call}
    (plain : IsPlain call) :
    (Stage.mk { world with machine := (world.machine.ask call).2 }
      (world.machine.ask call).1.started?).Tidy special := by
  have number : ∀ new ∈ world.machine.lodged call,
      ∃ typeName value, new = noting typeName value := by
    intro new lodged
    obtain ⟨mode, rfl⟩ := Host.Machine.register_of_lodged lodged
    exact plain
  refine tidy.ask call ?_ (fun id => ?_) tidy.admitted rfl
  · intro new lodged
    obtain ⟨typeName, value, same⟩ := number new lodged
    exact ⟨typeName, .inl ⟨value, same⟩⟩
  · have none : (world.machine.lodged call).toList.countP (·.rep = .registration id) = 0 := by
      rw [List.countP_eq_zero]
      intro new lodged
      obtain ⟨typeName, value, rfl⟩ := number new (by simpa using lodged)
      simp [noting]
    rw [none, Nat.zero_add]

theorem askPlaced (tidy : (Stage.mk world none).Tidy special) (typeName : String) (mode : Mode)
    {object : Resource} (admitted : object.Admitted special) :
    (Stage.mk
      { world with
        machine := (world.machine.ask (.register mode (reclaiming typeName world.heap.next))).2
        heap := (world.heap.add mode object).2 } none).Tidy special := by
  have lodged_eq : ∀ new ∈
      world.machine.lodged (.register mode (reclaiming typeName world.heap.next)),
      new = reclaiming typeName world.heap.next := by
    intro new lodged
    obtain ⟨_, same⟩ := Host.Machine.register_of_lodged lodged
    cases same
    rfl
  refine tidy.ask _ ?_ (fun id => ?_) (fun id r found => ?_) rfl
  · exact fun new lodged => ⟨typeName, .inr ⟨_, lodged_eq new lodged⟩⟩
  · rw [Guest.Heap.get?_add]
    by_cases own : id = world.heap.next
    · subst own
      rw [world.heap.get?_next, if_pos rfl]
      exact List.countP_le_length.trans Option.length_toList_le
    · have none : (world.machine.lodged
          (.register mode (reclaiming typeName world.heap.next))).toList.countP
            (·.rep = .registration id) = 0 := by
        rw [List.countP_eq_zero]
        intro new lodged
        rw [lodged_eq new (by simpa using lodged)]
        simpa [reclaiming] using Ne.symm own
      rw [none, if_neg own, Nat.zero_add]
  · rw [Guest.Heap.get?_add] at found
    split at found
    · cases found
      exact admitted
    · exact tidy.admitted id r found

end Stage.Tidy

theorem Stage.Move.tidy (move : Stage.Move special s t after) (tidy : s.Tidy special) :
    after.Tidy special := by
  cases move with
  | aside machine_eq heap_eq => exact tidy.aside machine_eq heap_eq
  | revise present program_eq => exact tidy.revise present program_eq
  | ask call plain => exact tidy.askPlain plain
  | register typeName mode admitted call_eq =>
      subst call_eq
      exact tidy.askPlaced typeName mode admitted
  | @note world typeName value =>
      have kept : ∀ id, world.heap.get? id =
          if (noting typeName value).rep = .registration id then none else world.heap.get? id :=
        fun id => (if_neg (by simp [noting])).symm
      exact tidy.enter kept
  | @reclaim world heap id object typeName removed =>
      obtain ⟨r, present⟩ := tidy.present List.mem_cons_self
      obtain ⟨left, taken, kept⟩ := Guest.Heap.remove_of_get? present
      rw [removed] at taken
      cases taken
      refine tidy.enter fun other => ?_
      rw [kept]
      by_cases own : other = id
      · rw [if_pos own, if_pos (by rw [own]; rfl)]
      · rw [if_neg own, if_neg (by simpa [reclaiming] using Ne.symm own)]

theorem Path.tidy (path : Path special s t after) (tidy : s.Tidy special) : after.Tidy special := by
  induction path with
  | refl => exact tidy
  | step _ move ih => exact move.tidy ih

/-! ## What a path comes to -/

private theorem length_due_ask {world : World} (tidy : (Stage.mk world none).Tidy special)
    (call : Host.Call) {asked : World} {entering : Option DestructorCall}
    (machine_eq : asked.machine = (world.machine.ask call).2)
    (started : entering = (world.machine.ask call).1.started?) :
    (Stage.mk asked entering).due.length ≤
      (Stage.mk world none).due.length + (world.machine.lodged call).toList.length := by
  have fewer := (Host.Machine.ask_due tidy.sound call).length_le
  rw [List.length_append, Nat.add_comm] at fewer
  unfold Stage.due
  rw [machine_eq, started]
  simpa [Nat.add_comm] using fewer

/-- Only what is registered is added to what is due, and what runs was due. -/
theorem Stage.Move.due_le (move : Stage.Move special s t after) (tidy : s.Tidy special) :
    after.due.length + t.run ≤ s.due.length + t.registered := by
  cases move with
  | aside machine_eq => simp [Stage.due, machine_eq]
  | revise => exact Nat.le_refl _
  | ask call => exact length_due_ask tidy call rfl rfl
  | register _ _ _ call_eq => exact length_due_ask tidy _ rfl (by rw [call_eq]; rfl)
  | note => exact Nat.le_refl _
  | reclaim => exact Nat.le_refl _

theorem Path.due_le (path : Path special s t after) (tidy : s.Tidy special) :
    after.due.length + t.run ≤ s.due.length + t.registered := by
  induction path with
  | refl => exact Nat.le_refl _
  | step path move ih =>
      have moved := move.due_le (path.tidy tidy)
      simp only [Tally.run_add, Tally.registered_add]
      omega

/-- The counters of a host agree with a path on which it was not replaced. A destructor that is under
way has been started and has not returned. -/
structure Tally.IsCounted (t : Tally) (s after : Stage) : Prop where
  registered_eq : after.world.machine.host.counters.registered =
    s.world.machine.host.counters.registered + t.registered
  returned_eq : after.world.machine.host.counters.destructorsRun +
      after.world.machine.active.length + s.entering.toList.length =
    s.world.machine.host.counters.destructorsRun + s.world.machine.active.length +
      after.entering.toList.length + t.run

theorem Stage.Move.counted (move : Stage.Move special s t after) (tidy : s.Tidy special)
    (kept : t.installed = 0) : t.IsCounted s after := by
  cases move with
  | aside machine_eq => exact ⟨by simp [machine_eq], by simp [machine_eq]⟩
  | revise => exact ⟨rfl, rfl⟩
  | ask call =>
      have counted := Host.Machine.ask_counted tidy.sound kept
      exact ⟨counted.registered_eq, counted.returned_eq⟩
  | @register world typeName mode object admitted call call_eq =>
      have kept : call.installs = 0 := by
        rw [call_eq]
        rfl
      have counted := Host.Machine.ask_counted tidy.sound kept
      refine ⟨counted.registered_eq, counted.returned_eq.trans ?_⟩
      rw [call_eq]
      rfl
  | note => exact ⟨rfl, rfl⟩
  | reclaim => exact ⟨rfl, rfl⟩

theorem Path.counted (path : Path special s t after) (tidy : s.Tidy special)
    (kept : t.installed = 0) : t.IsCounted s after := by
  induction path with
  | refl => exact ⟨rfl, rfl⟩
  | step path move ih =>
      rw [Tally.installed_add] at kept
      have before := ih (by omega)
      have last := move.counted (path.tidy tidy) (by omega)
      constructor
      · rw [last.registered_eq, before.registered_eq, Tally.registered_add, Nat.add_assoc]
      · have := before.returned_eq
        have := last.returned_eq
        rw [Tally.run_add]
        omega

end Session

end Custody
