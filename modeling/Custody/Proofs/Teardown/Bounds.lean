import Custody.Proofs.Teardown.Settling

/-!
# Teardown within bounds

A drop request runs one destructor at most before it returns, and each destructor that a flush starts
was due before it. So the scripts that let owners and handles go cost nothing, registering costs what
the object may register, and a destructor is paid for by the object that it takes off the heap.
-/

set_option autoImplicit false

namespace Custody

namespace Host

variable {base : List Activation}

/-- A flush that goes on so has nothing under way but what was under way before it, and its own call
while a destructor of it runs. -/
def Continuation.Flushes (base : List Activation) (m : Machine) : Continuation → Prop
  | .flushed _ => m.active = base
  | .started _ => ∃ call rest total, m.active = .flushing call rest total :: base
  | .dropped | .idle => False

namespace Machine

theorem drop_active_eq (m : Machine) (h : Handle) :
    (m.drop h).2.active = ((m.drop h).1.started?.map .dropping).toList ++ m.active := by
  unfold drop
  rcases m.host.unregister h with ⟨fault | call, host⟩
  · rfl
  · unfold settle
    dsimp only
    cases host.config.timing <;> rfl

theorem nextBatch_flushes (m : Machine) (total : Nat) :
    (m.nextBatch total).1.Flushes m.active (m.nextBatch total).2 := by
  unfold nextBatch
  split
  · rfl
  · exact ⟨_, _, _, rfl⟩

theorem finish_flushes {m : Machine} {call : DestructorCall} {rest : List DestructorCall} {total : Nat}
    (active : m.active = .flushing call rest total :: base) : m.finish.1.Flushes base m.finish.2 := by
  cases rest with
  | nil =>
      simp only [finish, active]
      exact nextBatch_flushes _ total
  | cons next rest =>
      simp only [finish, active]
      exact ⟨_, _, _, rfl⟩

theorem finish_dropping {m : Machine} {call : DestructorCall}
    (active : m.active = .dropping call :: base) :
    m.finish.1.started? = none ∧ m.finish.2.active = base := by
  simp [finish, active, Continuation.started?]

end Machine

end Host

namespace Session

open Host (Activation Continuation DestructorCall Machine)
open Script

variable {special calm : Bool} {room cost : Nat} {control other : Control}

/-- Two controls under which destructors settle as long as there is room for what can still run. A
destructor uses up at least the place of its own call. -/
structure Suffices (special : Bool) (room : Nat) (control other : Control) : Prop where
  bound_le : room ≤ control.flushBound
  other_le : room ≤ other.flushBound
  runs : ∀ world call,
    SettlesAt special room true 0
      (fun _ now => (Stage.mk now none).prospects < (Stage.mk world (some call)).prospects)
      (control.runDestructor call) (other.runDestructor call) ⟨world, some call⟩

/-! ## Events and calls of the host -/

theorem settles_emit (event : Event) : Settles special room calm 0 (emit event) (emit event) :=
  fun _ => .aside rfl rfl rfl trivial

theorem settles_rejected (fault : Host.Fault) :
    Settles special room calm 0 (rejected fault) (rejected fault) := settles_emit _

theorem settles_host : Settles special room calm cost host host := fun _ => .pure trivial

theorem settles_ask {α : Type} {answer : Machine → α × Machine} (call : Host.Call)
    (plain : IsPlain call) (kept : special = false → call.installs = 0)
    (asks : ∀ m, (answer m).2 = (m.ask call).2)
    (cheap : ∀ m : Machine, (m.lodged call).toList.length ≤ cost)
    (silent : ∀ m : Machine, (m.ask call).1.started? = none ∧ (m.ask call).2.active = m.active) :
    Settles special room calm cost (callMachine answer) (callMachine answer) := by
  intro world
  refine .of_ok rfl (fun tidy => ?_) ?_ trivial
  · have course := course_ask tidy call plain kept (cheap world.machine)
    rwa [(silent world.machine).1, ← asks] at course
  · exact (congrArg Machine.active (asks world.machine)).trans (silent world.machine).2

theorem settles_askHost {α : Type} {answer : Host → α × Host} (call : Host.Call)
    (plain : IsPlain call) (kept : call.installs = 0)
    (asks : ∀ m : Machine, (m.ask call).2 = { m with host := (answer m.host).2 })
    (cheap : ∀ m : Machine, (m.lodged call).toList.length ≤ cost)
    (silent : ∀ m : Machine, (m.ask call).1.started? = none) :
    Settles special room calm cost (callHost answer) (callHost answer) :=
  settles_ask call plain (fun _ => kept) (fun m => (asks m).symm) cheap
    fun m => ⟨silent m, by rw [asks]⟩

theorem settles_lend (mode : Mode) (name : String) :
    Settles special room calm 0 (lend mode name) (lend mode name) := by
  refine settles_askHost (.lend mode name) trivial rfl (fun m => ?_) (fun _ => Nat.le_refl _)
    fun m => ?_
  · cases lent : m.host.lend mode name <;> simp [Machine.ask, lent]
  · cases lent : m.host.lend mode name <;> simp [Machine.ask, lent, Host.Response.started?]

theorem settles_releaseImport (h : Handle) :
    Settles special room calm 0 (releaseImport h) (releaseImport h) := by
  refine Settles.andThen (settles_askHost (.release h) trivial rfl (fun _ => rfl)
    (fun _ => Nat.le_refl _) fun _ => rfl) fun answer => ?_
  cases answer with
  | ok => exact .pure _
  | error fault => exact settles_rejected fault

theorem settles_takeFaults :
    Settles special room calm 0 (callHost Host.takeFaults) (callHost Host.takeFaults) :=
  settles_askHost .takeFaults trivial rfl (fun _ => rfl) (fun _ => Nat.le_refl _) fun _ => rfl

theorem course_finish {world : World} (tidy : (Stage.mk world none).Tidy special) :
    Course special 0 ⟨world, none⟩
      ⟨{ world with machine := world.machine.finish.2 }, world.machine.finish.1.started?⟩ :=
  course_ask tidy .finish trivial (fun _ => rfl) (Nat.le_refl 0)

theorem course_flush {world : World} (tidy : (Stage.mk world none).Tidy special) :
    Course special 0 ⟨world, none⟩
      ⟨{ world with machine := world.machine.flush.2 }, world.machine.flush.1.started?⟩ :=
  course_ask tidy .flush trivial (fun _ => rfl) (Nat.le_refl 0)

/-! ## Drop requests -/

/-- A script has asked the host for a drop, and the host may have started the destructor. -/
structure Begun (special : Bool) (world now : World) (started : Option DestructorCall) : Prop where
  course : Course special 0 ⟨world, none⟩ ⟨now, started⟩
  active_eq : now.machine.active =
    (started.map Activation.dropping).toList ++ world.machine.active

theorem startDrop_begun {world : World} (tidy : (Stage.mk world none).Tidy special) (h : Handle) :
    ∃ started now, startDrop h world = .ok started now ∧ Begun special world now started := by
  refine ⟨_, _, startDrop_eq h world, ?_, world.machine.drop_active_eq h⟩
  have asked := course_ask tidy (.drop h) trivial (fun _ => rfl) (Nat.le_refl 0)
  exact asked.trans (course_aside rfl rfl) (Nat.le_refl 0)

theorem releaseOwner_begun {world : World} (tidy : (Stage.mk world none).Tidy special)
    (owner : Owner) :
    ∃ started now, releaseOwner owner world = .ok started now ∧ Begun special world now started := by
  cases present : world.heap.get? owner.id with
  | none =>
      refine ⟨none, world, ?_, .refl _, rfl⟩
      unfold releaseOwner
      rw [get_bind, present]
      rfl
  | some r =>
      have detached : Course special 0 ⟨world, none⟩
          ⟨{ world with heap := world.heap.put owner.id { r with handle := .invalid r.mode } }, none⟩ :=
        course_revise present rfl
      cases valid : r.handle.isValid with
      | false => exact ⟨none, _, releaseOwner_detached present valid, detached, rfl⟩
      | true =>
          rw [releaseOwner_attached present valid]
          have asking : Course special 0 ⟨world, none⟩
              ⟨{ world with
                  heap := world.heap.put owner.id { r with handle := .invalid r.mode }
                  log := r.object.requests r.handle ++ world.log }, none⟩ :=
            detached.trans (course_aside rfl rfl) (Nat.le_refl 0)
          obtain ⟨started, now, ran, begun⟩ := startDrop_begun (asking.tidy tidy) r.handle
          exact ⟨started, now, ran, asking.trans begun.course (Nat.le_refl 0), begun.active_eq⟩

theorem settles_begun (controls : Suffices special room control other)
    {script : Script (Option DestructorCall)}
    (begins : ∀ {world : World}, (Stage.mk world none).Tidy special →
      ∃ started now, script world = .ok started now ∧ Begun special world now started) :
    Settles special room true 0 (script >>= runStarted control) (script >>= runStarted other) := by
  intro world tidy budget
  obtain ⟨started, now, ran, begun⟩ := begins tidy
  dsimp only
  rw [bind_ok ran, bind_ok ran]
  cases started with
  | none => exact ⟨rfl, .ok begun.course begun.active_eq trivial⟩
  | some call =>
      have left := begun.course.prospects_le
      obtain ⟨same, concludes⟩ := controls.runs now call (begun.course.tidy tidy) (by omega)
      have active : now.machine.active = .dropping call :: world.machine.active := begun.active_eq
      simp only [runStarted, Bind.bind, EStateM.bind]
      rw [same]
      dsimp only at concludes
      generalize control.runDestructor call now = result at concludes ⊢
      refine ⟨rfl, ?_⟩
      cases concludes with
      | @ok _ done course active_eq _ =>
          have stack := active_eq.trans active
          obtain ⟨silent, popped⟩ := Machine.finish_dropping stack
          have finish := course_finish (course.tidy (begun.course.tidy tidy))
          rw [silent] at finish
          have whole := (begun.course.trans course (Nat.le_refl 0)).trans finish (Nat.le_refl 0)
          exact .ok whole popped trivial
      | panic excited => cases excited
      | fatal works fatal => exact .fatal works fatal

theorem settles_requestDrop (controls : Suffices special room control other) (h : Handle) :
    Settles special room true 0 (requestDrop control h) (requestDrop other h) :=
  settles_begun controls fun tidy => startDrop_begun tidy h

theorem settles_dropOwner (controls : Suffices special room control other) (owner : Owner) :
    Settles special room true 0 (dropOwner control owner) (dropOwner other owner) :=
  settles_begun controls fun tidy => releaseOwner_begun tidy owner

/-! ## Flushes -/

section Flushing

variable {base : List Activation} {bound otherBound : Nat} {world : World}
  {continuation : Continuation}

/-- A flush under two bounds does the same and comes to an end, with these calls under way. -/
def FlushSettles (special : Bool) (control other : Control) (base : List Activation)
    (bound otherBound : Nat) (continuation : Continuation) (world : World) : Prop :=
  flushOn other otherBound continuation world = flushOn control bound continuation world ∧
    Concludes special true 0 base (fun _ _ => True) ⟨world, continuation.started?⟩
      (flushOn control bound continuation world)

private theorem flushSettles_flushed {count : Nat} (active : world.machine.active = base) :
    FlushSettles special control other base bound otherBound (.flushed count) world := by
  have flushed : ∀ (control : Control) (bound : Nat),
      flushOn control bound (.flushed count) = pure count := by
    intro control bound
    cases bound <;> rfl
  unfold FlushSettles
  rw [flushed, flushed]
  exact ⟨rfl, .ok (.refl _) active trivial⟩

/-- Each destructor that a flush starts uses up one of those that were due, so the induction is on the
number of those. -/
private theorem flushSettles (controls : Suffices special room control other) {due : Nat} :
    ∀ {bound otherBound : Nat} {world : World} {continuation : Continuation},
      (Stage.mk world continuation.started?).Tidy special →
      continuation.Flushes base world.machine →
      (Stage.mk world continuation.started?).prospects ≤ due →
      due ≤ room → due ≤ bound → due ≤ otherBound →
      FlushSettles special control other base bound otherBound continuation world := by
  induction due with
  | zero =>
      intro bound otherBound world continuation tidy flushes spent _ _ _
      cases continuation with
      | flushed count => exact flushSettles_flushed flushes
      | started call => exact absurd spent (by simp [Stage.prospects, Stage.due, Continuation.started?])
      | dropped | idle => exact flushes.elim
  | succ due ih =>
      intro bound otherBound world continuation tidy flushes spent small below otherBelow
      cases continuation with
      | flushed count => exact flushSettles_flushed flushes
      | dropped | idle => exact flushes.elim
      | started call =>
          obtain ⟨bound, rfl⟩ : ∃ less, bound = less + 1 := ⟨bound - 1, by omega⟩
          obtain ⟨otherBound, rfl⟩ : ∃ less, otherBound = less + 1 := ⟨otherBound - 1, by omega⟩
          obtain ⟨_, rest, total, active⟩ := flushes
          change (Stage.mk world (some call)).Tidy special at tidy
          change (Stage.mk world (some call)).prospects ≤ _ at spent
          obtain ⟨same, concludes⟩ := controls.runs world call tidy (by omega)
          unfold FlushSettles
          simp only [flushOn, Bind.bind, EStateM.bind]
          rw [same]
          dsimp only at concludes ⊢
          generalize control.runDestructor call world = result at concludes ⊢
          cases concludes with
          | @ok _ done course active_eq fewer =>
              have finish := course_finish (course.tidy tidy)
              have left := finish.prospects_le
              obtain ⟨same, concludes⟩ := ih (finish.tidy (course.tidy tidy))
                (Machine.finish_flushes (active_eq.trans active)) (by omega) (by omega)
                (show due ≤ bound by omega) (show due ≤ otherBound by omega)
              obtain ⟨_, path, spent, kept⟩ := course.trans finish (Nat.le_refl 0)
              rw [Nat.add_zero] at spent
              exact ⟨same, concludes.prepend path spent kept⟩
          | panic excited => cases excited
          | fatal works fatal => exact ⟨rfl, .fatal works fatal⟩

end Flushing

theorem settles_flush (controls : Suffices special room control other) :
    Settles special room true 0 (flush control) (flush other) := by
  intro world tidy budget
  have taken := course_flush tidy
  have left := taken.prospects_le
  have bound_le := controls.bound_le
  have other_le := controls.other_le
  obtain ⟨same, concludes⟩ := flushSettles controls (taken.tidy tidy)
    (world.machine.nextBatch_flushes 0) left (by omega) (show _ ≤ control.flushBound by omega)
    (show _ ≤ other.flushBound by omega)
  obtain ⟨_, path, spent, kept⟩ := taken
  exact ⟨same, concludes.prepend path (by omega) kept⟩

/-! ## Registration -/

theorem settlesAt_register (typeName entryName : String) (mode : Mode) {object : Resource}
    (admitted : object.Admitted special) (world : World) :
    SettlesAt special room false (object.burden + 1)
      (fun owner now => owner.mode = mode ∧ ∃ r, now.heap.get? owner.id = some r)
      (register typeName entryName mode object) (register typeName entryName mode object)
      ⟨world, none⟩ := by
  intro tidy _
  refine ⟨rfl, ?_⟩
  have course := course_register tidy entryName mode admitted rfl
  cases result : world.machine.host.register mode (reclaiming entryName world.heap.next) with
  | mk answer host =>
      have asked : (world.machine.ask (.register mode (reclaiming entryName world.heap.next))).2 =
          { world.machine with host } := by
        simp only [Machine.ask, result]
      rw [asked] at course
      cases answer with
      | error fault =>
          dsimp only
          rw [register_refused typeName object result]
          exact .panic rfl (course.trans (course_aside rfl rfl) (Nat.le_refl _)) rfl
      | ok h =>
          have added : (world.heap.add mode object).2.get? world.heap.next =
              some { handle := .invalid mode, object } :=
            (world.heap.get?_add mode object _).trans (if_pos rfl)
          dsimp only
          rw [register_ok typeName object result, Guest.Heap.attach_eq added]
          have attached : Course special 0
              ⟨{ world with
                  machine := { world.machine with host }
                  heap := (world.heap.add mode object).2 }, none⟩
              ⟨{ world with
                  machine := { world.machine with host }
                  heap := (world.heap.add mode object).2.put world.heap.next { handle := h, object } },
                none⟩ :=
            course_revise added rfl
          refine .ok (course.trans attached (Nat.le_refl _)) rfl ⟨rfl, { handle := h, object }, ?_⟩
          exact (Guest.Heap.get?_put added _ _).trans (if_pos rfl)

/-! ## Owners -/

section Owners

variable {world : World} {owner : Owner} {r : Guest.Registration Resource}

theorem settlesAt_ownerHandle (present : world.heap.get? owner.id = some r) :
    SettlesAt special room calm 0 (fun _ _ => True) (ownerHandle owner) (ownerHandle owner)
      ⟨world, none⟩ := by
  unfold ownerHandle
  apply SettlesAt.get
  rw [present]
  exact .pure trivial

theorem settlesAt_takeHandle (present : world.heap.get? owner.id = some r) :
    SettlesAt special room calm 0 (fun _ _ => True) (takeHandle owner) (takeHandle owner)
      ⟨world, none⟩ :=
  .of_ok (takeHandle_eq present) (fun _ => course_revise present rfl) rfl trivial

theorem settlesAt_consumeOwner (control other : Control)
    (present : world.heap.get? owner.id = some r) :
    SettlesAt special room calm 0 (fun _ _ => True) (consumeOwner control owner)
      (consumeOwner other owner) ⟨world, none⟩ := by
  intro tidy budget
  dsimp only
  rw [consumeOwner_eq control present, consumeOwner_eq other present]
  exact settlesAt_takeHandle present tidy budget

theorem settlesAt_reattach (h : Handle) {id : Nat} (present : world.heap.get? id = some r) :
    SettlesAt special room false 0 (fun owner now => ∃ r, now.heap.get? owner.id = some r)
      (reattach h (some id)) (reattach h (some id)) ⟨world, none⟩ := by
  cases valid : h.isValid with
  | false =>
      unfold reattach
      apply SettlesAt.get
      simp only [Guest.Heap.reattach, valid]
      exact .panic _
  | true =>
      cases attached : r.isAttached with
      | true =>
          unfold reattach
          apply SettlesAt.get
          simp only [Guest.Heap.reattach, valid, present, attached]
          exact .panic _
      | false =>
          refine .of_ok (reattach_eq present valid attached) (fun _ => course_revise present rfl) rfl
            ⟨{ r with handle := h }, ?_⟩
          exact (Guest.Heap.get?_put present _ _).trans (if_pos rfl)

theorem settlesAt_reattach_none (h : Handle) :
    SettlesAt special room false cost (fun _ _ => False) (reattach h none) (reattach h none)
      ⟨world, none⟩ := by
  unfold reattach
  apply SettlesAt.get
  cases valid : h.isValid <;>
    · simp only [Guest.Heap.reattach, valid]
      exact .panic _

end Owners

/-! ## Destructors -/

theorem registrationsOf_eq_sum (steps : List Step) :
    registrationsOf steps = (steps.map Step.registrations).sum := by
  induction steps with
  | nil => rfl
  | cons step rest ih => rw [registrationsOf, ih, List.map_cons, List.sum_cons]

theorem areOrdinary_iff {steps : List Step} :
    AreOrdinary steps ↔ ∀ step ∈ steps, step.IsOrdinary := by
  induction steps with
  | nil => simp [AreOrdinary]
  | cons step rest ih => rw [AreOrdinary, ih, List.forall_mem_cons]

theorem settles_forM_free {γ : Type} {act otherAct : γ → Script PUnit} (items : List γ)
    (each : ∀ item, Settles special room calm 0 (act item) (otherAct item)) :
    Settles special room calm 0 (items.forM act) (items.forM otherAct) := by
  have free : (items.map fun _ => 0).sum = 0 := by simp
  exact free ▸ .forM (fun _ => 0) items fun item _ => each item

theorem settles_dropCell (cell : Guest.Cell) :
    Settles special room calm 0 (dropCell cell) (dropCell cell) := by
  unfold dropCell
  cases cell.lost? with
  | none => exact .pure _
  | some h => exact settles_emit _

theorem settles_dropOwned {giveBack : Handle → Script Unit}
    (gives : ∀ h, Settles special room calm 0 (giveBack h) (giveBack h)) (owned : Guest.OwnedImport) :
    Settles special room calm 0 (dropOwned giveBack owned) (dropOwned giveBack owned) := by
  rw [dropOwned_eq]
  cases owned.released? with
  | none => exact .pure _
  | some h => exact gives h

theorem settles_dropImport (owned : Guest.OwnedImport) :
    Settles special room calm 0 (dropImport owned) (dropImport owned) :=
  settles_dropOwned (fun h => (settles_emit _).andThen fun _ => settles_releaseImport h) owned

variable {act otherAct : Step → Script Answer}

/-- Every step that may be taken settles, for what it may register. -/
def StepsSettle (special : Bool) (room : Nat) (act otherAct : Step → Script Answer) : Prop :=
  ∀ step : Step, (special = false → step.IsOrdinary) →
    Settles special room true step.registrations (act step) (otherAct step)

theorem settles_destroyNode (controls : Suffices special room control other)
    (steps : StepsSettle special room act otherAct) {node : Node}
    (admitted : special = false → AreOrdinary node.onDrop) :
    Settles special room true (registrationsOf node.onDrop) (destroyNode control act node)
      (destroyNode other otherAct node) := by
  unfold destroyNode
  refine (settles_emit _).andThen fun _ => ?_
  rw [registrationsOf_eq_sum]
  refine Settles.bind (.forM Step.registrations node.onDrop fun step member => ?_) (fun _ => ?_)
    (Nat.le_of_eq (Nat.add_zero _))
  · refine (steps step fun ordinary => ?_).bind (fun _ => settles_emit _) (Nat.le_refl _)
    exact areOrdinary_iff.1 (admitted ordinary) step member
  · refine (settles_forM_free _ (settles_dropOwner controls)).andThen fun _ => ?_
    exact settles_forM_free _ settles_dropImport

private theorem prospects_reclaim {world : World} {heap : Guest.Heap Resource} {id : Nat}
    {object : Resource} (typeName : String) (removed : world.heap.remove id = some (object, heap)) :
    (Stage.mk { world with heap } none).prospects + 1 + object.burden =
      (Stage.mk world (some (reclaiming typeName id))).prospects := by
  unfold Guest.Heap.remove at removed
  split at removed
  · rename_i r present
    cases removed
    have weighed := Ledger.total_erase (fun r => r.object.burden) world.heap.places present
    rw [Stage.prospects_entering]
    unfold Stage.prospects
    dsimp only
    rw [weighed]
    simp only [Stage.due]
    omega
  · cases removed

/-- The object that a destructor takes off the heap pays for what the destructor registers. -/
private theorem settles_reclaimed {world : World} {heap : Guest.Heap Resource} {id : Nat}
    {object : Resource} {typeName : String} (removed : world.heap.remove id = some (object, heap))
    {body otherBody : Script Unit} (settles : Settles special room true object.burden body otherBody)
    (tidy : (Stage.mk world (some (reclaiming typeName id))).Tidy special)
    (budget : (Stage.mk world (some (reclaiming typeName id))).prospects ≤ room + 1) :
    otherBody { world with heap } = body { world with heap } ∧
      Concludes special true 0 world.machine.active
        (fun _ now => (Stage.mk now none).prospects <
          (Stage.mk world (some (reclaiming typeName id))).prospects)
        ⟨world, some (reclaiming typeName id)⟩ (body { world with heap }) := by
  have move := @Stage.Move.reclaim special world heap id object typeName removed
  have left := prospects_reclaim typeName removed
  obtain ⟨same, concludes⟩ := settles { world with heap } (move.tidy tidy) (by omega)
  refine ⟨same, .prepend ?_ (.single move) (Nat.le_of_eq left) fun _ => rfl⟩
  apply concludes.mono (fun calm => calm)
  intro _ now course _
  have fewer := course.prospects_le
  omega

theorem settlesAt_destroy (controls : Suffices special room control other)
    (steps : StepsSettle special room act otherAct) (world : World) (call : DestructorCall) :
    SettlesAt special (room + 1) true 0
      (fun _ now => (Stage.mk now none).prospects < (Stage.mk world (some call)).prospects)
      (destroy control act call) (destroy other otherAct call) ⟨world, some call⟩ := by
  intro tidy budget
  obtain ⟨typeName, ⟨value, rfl⟩ | ⟨id, rfl⟩⟩ := tidy.formed call List.mem_cons_self
  · have entered := Stage.prospects_entering world (noting typeName value)
    have spent : (Stage.mk world none).prospects + 1 ≤
        (Stage.mk world (some (noting typeName value))).prospects := by omega
    have noted : Course special 0 ⟨world, some (noting typeName value)⟩ ⟨world, none⟩ :=
      ⟨_, .single (.note typeName value), spent, fun _ => rfl⟩
    exact ⟨rfl, .ok (noted.trans (course_aside rfl rfl) (Nat.le_refl _)) rfl spent⟩
  · obtain ⟨r, present⟩ := tidy.present List.mem_cons_self
    obtain ⟨heap, removed, _⟩ := Guest.Heap.remove_of_get? present
    have admitted := tidy.admitted id r present
    simp only [destroy, reclaiming]
    rw [bind_ok (reclaim_eq removed), bind_ok (reclaim_eq removed)]
    cases object : r.object with
    | node node =>
        rw [object] at removed admitted
        exact settles_reclaimed removed (settles_destroyNode controls steps admitted) tidy budget
    | probe children =>
        rw [object] at removed
        have drops := settles_forM_free children (settles_dropOwner controls)
        exact settles_reclaimed removed drops tidy budget

end Session

end Custody
