import Custody.Proofs.Teardown.Progress
import Custody.Proofs.Teardown.Programs

/-!
# Termination of teardown

Whatever guest code has registered, a drop and a flush come to an end: a destructor that runs was due
when it was asked for or was registered since, and what it may register is bounded by the programs of
the objects that are on the heap. So bounds that are as large as the prospects of a world are never
reached, and larger ones change nothing.
-/

set_option autoImplicit false

namespace Custody

namespace Session

open Script

variable {special : Bool} {nodeType : Mode → String} {control other : Control} {world : World}

/-! ## Enough room -/

/-- Destructors may be nested as deep as there is room: each one that runs uses up a place, so the
induction is on the room. -/
theorem suffices_nested (room : Nat) :
    ∀ {bound otherBound depth otherDepth : Nat}, room ≤ bound → room ≤ otherBound → room ≤ depth →
      room ≤ otherDepth →
      Suffices special room (nestedControl nodeType bound depth)
        (nestedControl nodeType otherBound otherDepth) := by
  induction room with
  | zero =>
      intro bound otherBound depth otherDepth below otherBelow _ _
      refine ⟨below, otherBelow, fun world call _ budget => ?_⟩
      rw [Stage.prospects_entering] at budget
      omega
  | succ room ih =>
      intro bound otherBound depth otherDepth below otherBelow deep otherDeep
      obtain ⟨depth, rfl⟩ : ∃ less, depth = less + 1 := ⟨depth - 1, by omega⟩
      obtain ⟨otherDepth, rfl⟩ : ∃ less, otherDepth = less + 1 := ⟨otherDepth - 1, by omega⟩
      have controls : Suffices special room (nestedControl nodeType bound depth)
          (nestedControl nodeType otherBound otherDepth) :=
        ih (by omega) (by omega) (by omega) (by omega)
      refine ⟨below, otherBelow, fun world call => ?_⟩
      exact settlesAt_destroy controls (stepsSettle_answerOf nodeType controls) world call

theorem suffices_self (nodeType : Mode → String) (room : Nat) :
    Suffices special room (nestedControl nodeType room room) (nestedControl nodeType room room) :=
  suffices_nested room (Nat.le_refl _) (Nat.le_refl _) (Nat.le_refl _) (Nat.le_refl _)

/-! ## Worlds that are reached -/

/-- A world that guest code can come to between two calls of the host, also inside of destructors. -/
def IsReached (special : Bool) (world : World) : Prop :=
  ∃ config t, Path special ⟨World.start config, none⟩ t ⟨world, none⟩

theorem Stage.tidy_start (config : HostConfig) :
    (Stage.mk (World.start config) none).Tidy special where
  fits := Host.fits_install config
  formed := nofun
  once _ := Nat.zero_le _
  admitted := nofun

theorem IsReached.tidy (reached : IsReached special world) : (Stage.mk world none).Tidy special := by
  obtain ⟨config, _, path⟩ := reached
  exact path.tidy (Stage.tidy_start config)

theorem IsReached.course {cost : Nat} {after : World} (reached : IsReached special world)
    (course : Course special cost ⟨world, none⟩ ⟨after, none⟩) : IsReached special after := by
  obtain ⟨config, _, before⟩ := reached
  obtain ⟨_, path, _, _⟩ := course
  exact ⟨config, _, before.trans path⟩

def Script.leaves {α : Type} (script : Script α) (world : World) : World :=
  match script world with
  | .ok _ after => after
  | .error _ after => after

/-- Ordinary steps do not stop a session, and they lead from reached worlds to reached worlds. -/
theorem IsReached.leaves {bound : Nat} (reached : IsReached false world) {step : Step}
    (ordinary : step.IsOrdinary)
    (enough : (Stage.mk world none).prospects + step.registrations ≤ bound) :
    IsReached false ((answerOf (nestedControl nodeType bound bound) nodeType step).leaves world) ∧
      (Stage.mk ((answerOf (nestedControl nodeType bound bound) nodeType step).leaves world)
          none).prospects ≤ (Stage.mk world none).prospects + step.registrations := by
  have controls := @suffices_self false nodeType bound
  have settles := stepsSettle_answerOf nodeType controls step fun _ => ordinary
  have concludes := (settles world reached.tidy enough).2
  unfold Script.leaves
  dsimp only at concludes
  generalize answerOf (nestedControl nodeType bound bound) nodeType step world = result
    at concludes ⊢
  cases concludes with
  | ok course => exact ⟨reached.course course, course.prospects_le⟩
  | panic excited => cases excited
  | fatal works => cases works

/-! ## Requests -/

/-- What makes a host call destructors. -/
inductive Request where
  | dropOwner (owner : Owner)
  | dropHandle (h : Handle)
  | flush

def Request.run (control : Control) : Request → Script Unit
  | .dropOwner owner => Session.dropOwner control owner
  | .dropHandle h => requestDrop control h
  | .flush => do let _ ← Session.flush control

theorem settles_request {room : Nat} (controls : Suffices special room control other)
    (request : Request) :
    Settles special room true 0 (request.run control) (request.run other) := by
  cases request with
  | dropOwner owner => exact settles_dropOwner controls owner
  | dropHandle h => exact settles_requestDrop controls h
  | flush => exact (settles_flush controls).andThen fun _ => .pure _

/-- How a request ends. The destructors that have run belong to registrations that were live or waiting
at the call or were made since, and the counters of the host agree, unless a special step has replaced
it. Only a special step can stop the program. -/
inductive Subsides (special : Bool) (world : World) : EStateM.Result Stop World Unit → Prop where
  | ok {after : World} {t : Tally} (path : Path special ⟨world, none⟩ t ⟨after, none⟩)
      (active_eq : after.machine.active = world.machine.active)
      (run_le : t.run ≤
        world.machine.host.liveOf .exported + world.machine.waiting.length + t.registered)
      (kept : special = false → t.installed = 0)
      (registered_eq : t.installed = 0 → after.machine.host.counters.registered =
        world.machine.host.counters.registered + t.registered)
      (destructorsRun_eq : t.installed = 0 → after.machine.host.counters.destructorsRun =
        world.machine.host.counters.destructorsRun + t.run) :
      Subsides special world (.ok () after)
  | fatal {stop : Stop} {after : World} (works : special = true) (fatal : stop.IsFatal) :
      Subsides special world (.error stop after)

theorem subsides_of_concludes {cost : Nat} {Q : Unit → World → Prop}
    {result : EStateM.Result Stop World Unit} (tidy : (Stage.mk world none).Tidy special)
    (concludes : Concludes special true cost world.machine.active Q ⟨world, none⟩ result) :
    Subsides special world result := by
  cases concludes with
  | @ok _ after course active_eq _ =>
      obtain ⟨t, path, _, kept⟩ := course
      have due := path.due_le tidy
      have before : (Stage.mk world none).due.length =
          world.machine.host.liveOf .exported + world.machine.waiting.length :=
        world.machine.length_due
      refine .ok path active_eq (by omega) kept (fun same => ?_) fun same => ?_
      · exact (path.counted tidy same).registered_eq
      · have returned := (path.counted tidy same).returned_eq
        rw [active_eq] at returned
        simp only [Option.toList_none, List.length_nil] at returned
        omega
  | panic excited => cases excited
  | fatal works fatal => exact .fatal works fatal

/-- Bounds that are as large as the prospects of a world are large enough for every request in it, and
larger ones make no difference. -/
theorem IsReached.request_subsides (reached : IsReached special world) (nodeType : Mode → String)
    (request : Request) :
    ∃ result, Subsides special world result ∧
      ∀ bound depth, (Stage.mk world none).prospects ≤ bound →
        (Stage.mk world none).prospects ≤ depth →
        request.run (nestedControl nodeType bound depth) world = result := by
  have enough : ∀ {bound depth : Nat}, (Stage.mk world none).prospects ≤ bound →
      (Stage.mk world none).prospects ≤ depth →
      Settles special (Stage.mk world none).prospects true 0
        (request.run (nestedControl nodeType (Stage.mk world none).prospects
          (Stage.mk world none).prospects))
        (request.run (nestedControl nodeType bound depth)) := by
    intro bound depth wide deep
    exact settles_request (suffices_nested _ (Nat.le_refl _) wide (Nat.le_refl _) deep) request
  have concludes := (enough (Nat.le_refl _) (Nat.le_refl _) world reached.tidy (Nat.le_refl _)).2
  refine ⟨_, subsides_of_concludes reached.tidy concludes, fun bound depth wide deep => ?_⟩
  exact (enough wide deep world reached.tidy (Nat.le_refl _)).1

/-- A node is dropped whose destructor creates another one, lets go of it and flushes. -/
def nestedFlush : World :=
  [.create "outer" .integer "outer" 0
      [.create "inner" .integer "inner" 0 [] [] [], .dropOwner "inner", .flush] [] [],
    .dropOwner "outer"].foldl
    (fun world step => (answerOf (nestedControl Mode.name 2 2) Mode.name step).leaves world)
    (World.start { timing := .deferred })

theorem nestedFlush_reached :
    IsReached false nestedFlush ∧ (Stage.mk nestedFlush none).prospects ≤ 2 := by
  have start : IsReached false (World.start { timing := .deferred }) := ⟨_, _, .refl⟩
  obtain ⟨created, more⟩ := @IsReached.leaves Mode.name _ 2 start
    (.create "outer" .integer "outer" 0
      [.create "inner" .integer "inner" 0 [] [] [], .dropOwner "inner", .flush] [] [])
    (by simp [Step.IsOrdinary, AreOrdinary]) (by decide)
  obtain ⟨dropped, same⟩ := @IsReached.leaves Mode.name _ 2 created (.dropOwner "outer") trivial more
  exact ⟨dropped, same.trans more⟩

/-- One destructor waits, and another one is registered while it runs: both of them run. -/
theorem nestedFlush_subsides :
    (nestedFlush.machine.waiting.length = 1 ∧
      ((Request.flush.run (nestedControl Mode.name 2 2)).leaves
        nestedFlush).machine.host.counters.destructorsRun = 2) ∧
      Subsides false nestedFlush (Request.flush.run (nestedControl Mode.name 2 2) nestedFlush) := by
  obtain ⟨reached, few⟩ := nestedFlush_reached
  obtain ⟨result, subsides, ran⟩ := reached.request_subsides Mode.name .flush
  rw [ran 2 2 few few]
  exact ⟨⟨by cbv, by cbv⟩, subsides⟩

/-! ## Sessions -/

inductive Ends (special : Bool) : Except Stop (List Record) → Prop where
  | ok (records : List Record) : Ends special (.ok records)
  | fatal {stop : Stop} (works : special = true) (fatal : stop.IsFatal) : Ends special (.error stop)

theorem Ends.record {outcome : Except Stop (List Record)} (ends : Ends special outcome)
    (record : Record) : Ends special (do return record :: (← outcome)) := by
  cases ends with
  | ok records => exact .ok (record :: records)
  | fatal works fatal => exact .fatal works fatal

/-- The steps of a session are paid for one by one, each with what the ones before have left. -/
theorem runFrom_ends {room : Nat} (controls : Suffices special room control control)
    (steps : List Step) :
    ∀ world, (special = false → AreOrdinary steps) → (Stage.mk world none).Tidy special →
      (Stage.mk world none).prospects + registrationsOf steps ≤ room →
      Ends special (runFrom (answerOf control nodeType) world steps) := by
  induction steps with
  | nil => exact fun _ _ _ _ => .ok []
  | cons step rest ih =>
      intro world ordinary tidy enough
      rw [registrationsOf] at enough
      have settles := stepsSettle_answerOf nodeType controls step fun only => (ordinary only).1
      have concludes := (settles world tidy (by omega)).2
      unfold runFrom
      dsimp only at concludes
      generalize answerOf control nodeType step world = result at concludes ⊢
      cases concludes with
      | @ok answer after course =>
          have logged : Course special step.registrations ⟨world, none⟩ ⟨after.takeLog.2, none⟩ :=
            course.trans (course_aside rfl rfl) (Nat.le_of_eq (Nat.add_zero _))
          have left := logged.prospects_le
          have ends := ih after.takeLog.2 (fun only => (ordinary only).2) (logged.tidy tidy)
            (by omega)
          exact ends.record _
      | panic excited => cases excited
      | fatal works fatal => exact .fatal works fatal

/-- A session is given bounds that it never reaches. -/
theorem run_ends (nodeType : Mode → String) (config : HostConfig) {steps : List Step}
    (ordinary : special = false → AreOrdinary steps) : Ends special (run nodeType config steps) := by
  have controls := @suffices_self special nodeType (registrationsOf steps + 1)
  have start : (Stage.mk (World.start config) none).prospects = 0 := rfl
  exact runFrom_ends controls steps _ ordinary (Stage.tidy_start config) (by omega)

end Session

end Custody
