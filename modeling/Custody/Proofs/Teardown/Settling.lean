import Custody.Proofs.Memory.Stops
import Custody.Proofs.Teardown.Stages

/-!
# Scripts that settle

A script settles when it comes to an end on a budget. The budget is counted in registrations: the
destructors that run on the way could run before or belong to objects that the script was to register.
A script that calls the host and its destructors is given a bound on them from outside; with room for
the whole budget it does not matter which bound that is, so a script is always looked at together with
the same script under other bounds.
-/

set_option autoImplicit false

namespace Custody

open Host (Activation DestructorCall)

/-- The ends that no guest code can catch, apart from running out of bounds. -/
def Stop.IsFatal : Stop → Prop
  | .abort _ | .misuse => True
  | .panic _ | .exhausted => False

namespace Session

open Script

variable {special : Bool} {s middle after : Stage} {cost first second : Nat}

theorem Stage.prospects_entering (world : World) (call : DestructorCall) :
    (Stage.mk world (some call)).prospects = (Stage.mk world none).prospects + 1 := by
  simp only [Stage.prospects, Stage.due, Option.toList_some, List.singleton_append, List.length_cons,
    Option.toList_none, List.nil_append]
  omega

/-! ## Courses -/

/-- A path on a budget: what can still run at its end, and what has run on it, could run at its start
or was paid for. The host is replaced by special steps only. -/
def Course (special : Bool) (cost : Nat) (s after : Stage) : Prop :=
  ∃ t, Path special s t after ∧ after.prospects + t.run ≤ s.prospects + cost ∧
    (special = false → t.installed = 0)

theorem Course.refl (s : Stage) : Course special cost s s :=
  ⟨{}, .refl, Nat.le_add_right _ _, fun _ => rfl⟩

theorem Course.trans (one : Course special first s middle) (other : Course special second middle after)
    (enough : first + second ≤ cost) : Course special cost s after := by
  obtain ⟨t, path, spent, kept⟩ := one
  obtain ⟨u, rest, left, keeps⟩ := other
  refine ⟨t + u, path.trans rest, ?_, fun ordinary => ?_⟩
  · rw [Tally.run_add]
    omega
  · rw [Tally.installed_add, kept ordinary, keeps ordinary]

theorem Course.tidy (course : Course special cost s after) (tidy : s.Tidy special) :
    after.Tidy special := by
  obtain ⟨_, path, _⟩ := course
  exact path.tidy tidy

theorem Course.prospects_le (course : Course special cost s after) :
    after.prospects ≤ s.prospects + cost := by
  obtain ⟨_, _, spent, _⟩ := course
  omega

section Moves

variable {world now : World} {entering : Option DestructorCall}

theorem course_aside (machine_eq : now.machine = world.machine) (heap_eq : now.heap = world.heap) :
    Course special 0 ⟨world, entering⟩ ⟨now, entering⟩ := by
  refine ⟨{}, .single (.aside machine_eq heap_eq), ?_, fun _ => rfl⟩
  simp [Stage.prospects, Stage.due, machine_eq, heap_eq]

theorem course_revise {id : Nat} {old new : Guest.Registration Resource}
    (present : world.heap.get? id = some old)
    (program_eq : new.object.program = old.object.program) :
    Course special 0 ⟨world, none⟩ ⟨{ world with heap := world.heap.put id new }, none⟩ := by
  refine ⟨{}, .single (.revise present program_eq), ?_, fun _ => rfl⟩
  have same : new.object.burden = old.object.burden := congrArg registrationsOf program_eq
  have total := Ledger.total_replace (fun r => r.object.burden) world.heap.places present same
  simp only [Stage.prospects, Stage.due, Guest.Heap.put, total]
  omega

theorem course_ask (tidy : (Stage.mk world none).Tidy special) (call : Host.Call)
    (plain : IsPlain call) (kept : special = false → call.installs = 0)
    (cheap : (world.machine.lodged call).toList.length ≤ cost) :
    Course special cost ⟨world, none⟩
      ⟨{ world with machine := (world.machine.ask call).2 },
        (world.machine.ask call).1.started?⟩ := by
  have move := @Stage.Move.ask special world call plain
  have due := move.due_le tidy
  refine ⟨_, .single move, ?_, kept⟩
  unfold Stage.prospects
  dsimp only at due ⊢
  omega

theorem course_register (tidy : (Stage.mk world none).Tidy special) (typeName : String) (mode : Mode)
    {object : Resource} (admitted : object.Admitted special) {call : Host.Call}
    (call_eq : call = .register mode (reclaiming typeName world.heap.next)) :
    Course special (object.burden + 1) ⟨world, none⟩
      ⟨{ world with
          machine := (world.machine.ask call).2
          heap := (world.heap.add mode object).2 }, none⟩ := by
  have move := @Stage.Move.register special world typeName mode object admitted call call_eq
  have due := move.due_le tidy
  have total : (world.heap.add mode object).2.places.total (·.object.burden) =
      world.heap.places.total (·.object.burden) + object.burden := Ledger.total_add ..
  have one : (world.machine.lodged call).toList.length ≤ 1 := Option.length_toList_le
  refine ⟨_, .single move, ?_, fun _ => rfl⟩
  unfold Stage.prospects
  dsimp only at due ⊢
  omega

end Moves

/-! ## Results -/

variable {α β : Type} {room : Nat} {calm : Bool} {base : List Activation} {Q : α → World → Prop}
  {R : β → World → Prop}

/-- What becomes of a script: it comes to an end on a budget, with these calls under way and nothing
entering. A calm script fails no assertion, and nothing else stops a script but work in memory. -/
inductive Concludes (special calm : Bool) (cost : Nat) (base : List Activation) (Q : α → World → Prop)
    (s : Stage) : EStateM.Result Stop World α → Prop where
  | ok {value : α} {after : World} (course : Course special cost s ⟨after, none⟩)
      (active_eq : after.machine.active = base) (post : Q value after) :
      Concludes special calm cost base Q s (.ok value after)
  | panic {message : String} {after : World} (excited : calm = false)
      (course : Course special cost s ⟨after, none⟩) (active_eq : after.machine.active = base) :
      Concludes special calm cost base Q s (.error (.panic message) after)
  | fatal {stop : Stop} {after : World} (works : special = true) (fatal : stop.IsFatal) :
      Concludes special calm cost base Q s (.error stop after)

theorem Concludes.prepend {result : EStateM.Result Stop World α}
    (concludes : Concludes special calm second base Q middle result) {t : Tally}
    (path : Path special s t middle)
    (spent : middle.prospects + t.run + second ≤ s.prospects + cost)
    (kept : special = false → t.installed = 0) :
    Concludes special calm cost base Q s result := by
  have whole : ∀ {now : World}, Course special second middle ⟨now, none⟩ →
      Course special cost s ⟨now, none⟩ := by
    rintro now ⟨u, rest, left, keeps⟩
    refine ⟨t + u, path.trans rest, ?_, fun ordinary => ?_⟩
    · rw [Tally.run_add]
      omega
    · rw [Tally.installed_add, kept ordinary, keeps ordinary]
  cases concludes with
  | ok course active_eq post => exact .ok (whole course) active_eq post
  | panic excited course active_eq => exact .panic excited (whole course) active_eq
  | fatal works fatal => exact .fatal works fatal

theorem Concludes.weaken {result : EStateM.Result Stop World α}
    (concludes : Concludes special calm first base Q s result) (enough : first ≤ cost) :
    Concludes special calm cost base Q s result :=
  concludes.prepend .refl (Nat.add_le_add_left enough _) fun _ => rfl

theorem Concludes.mono {P : α → World → Prop} {result : EStateM.Result Stop World α} {excited : Bool}
    (concludes : Concludes special excited cost base P s result)
    (calmer : calm = true → excited = true)
    (weaker : ∀ value after, Course special cost s ⟨after, none⟩ → P value after → Q value after) :
    Concludes special calm cost base Q s result := by
  cases concludes with
  | ok course active_eq post => exact .ok course active_eq (weaker _ _ course post)
  | panic wild course active_eq =>
      refine .panic (Bool.eq_false_iff.2 fun silent => ?_) course active_eq
      rw [calmer silent] at wild
      cases wild
  | fatal works fatal => exact .fatal works fatal

/-- With room for its budget a script and the same script under other bounds do the same, and they come
to an end. -/
def SettlesAt (special : Bool) (room : Nat) (calm : Bool) (cost : Nat) (Q : α → World → Prop)
    (script other : Script α) (s : Stage) : Prop :=
  s.Tidy special → s.prospects + cost ≤ room →
    other s.world = script s.world ∧
      Concludes special calm cost s.world.machine.active Q s (script s.world)

def Settles (special : Bool) (room : Nat) (calm : Bool) (cost : Nat) (script other : Script α) :
    Prop :=
  ∀ world, SettlesAt special room calm cost (fun _ _ => True) script other ⟨world, none⟩

/-! ## Scripts put together -/

section Scripts

variable {script other : Script α} {next otherNext : α → Script β}

theorem SettlesAt.of_ok {value : α} {now : World} (ran : script s.world = .ok value now)
    (course : s.Tidy special → Course special cost s ⟨now, none⟩)
    (active_eq : now.machine.active = s.world.machine.active) (post : Q value now) :
    SettlesAt special room calm cost Q script script s := by
  intro tidy _
  rw [ran]
  exact ⟨rfl, .ok (course tidy) active_eq post⟩

theorem SettlesAt.mono {P : α → World → Prop} {excited : Bool}
    (settles : SettlesAt special room excited first P script other s)
    (calmer : calm = true → excited = true) (enough : first ≤ cost)
    (weaker : ∀ value now, P value now → Q value now) :
    SettlesAt special room calm cost Q script other s := by
  intro tidy budget
  obtain ⟨same, concludes⟩ := settles tidy (by omega)
  refine ⟨same, (concludes.weaken enough).mono calmer ?_⟩
  exact fun value now _ => weaker value now

theorem SettlesAt.pure {value : α} {world : World} (post : Q value world) :
    SettlesAt special room calm cost Q (pure value) (pure value) ⟨world, none⟩ :=
  .of_ok rfl (fun _ => .refl _) rfl post

theorem SettlesAt.panic (message : String) {world : World} :
    SettlesAt special room false cost Q (throw (.panic message)) (throw (.panic message))
      ⟨world, none⟩ :=
  fun _ _ => ⟨rfl, .panic rfl (.refl _) rfl⟩

theorem SettlesAt.of_error {stop : Stop} {now : World} (stopped : script s.world = .error stop now)
    (alike : other s.world = .error stop now) (fatal : stop.IsFatal) :
    SettlesAt true room calm cost Q script other s := by
  intro _ _
  rw [stopped, alike]
  exact ⟨rfl, .fatal rfl fatal⟩

theorem SettlesAt.fatal {stop : Stop} (fatal : stop.IsFatal) :
    SettlesAt true room calm cost Q (throw stop) (throw stop) s := .of_error rfl rfl fatal

/-- What is done after a course is paid for with what the course has left. -/
theorem SettlesAt.resume {now : World}
    (settles : SettlesAt special room calm second Q script other ⟨now, none⟩)
    (course : Course special first s ⟨now, none⟩)
    (active_eq : now.machine.active = s.world.machine.active)
    (tidy : s.Tidy special) (enough : first + second ≤ cost) (budget : s.prospects + cost ≤ room) :
    other now = script now ∧
      Concludes special calm cost s.world.machine.active Q s (script now) := by
  have left := course.prospects_le
  obtain ⟨same, concludes⟩ := settles (course.tidy tidy) (by omega)
  obtain ⟨_, path, spent, kept⟩ := course
  rw [active_eq] at concludes
  exact ⟨same, concludes.prepend path (by omega) kept⟩

theorem SettlesAt.bind (here : SettlesAt special room calm first Q script other s)
    (there : ∀ value now, Q value now →
      SettlesAt special room calm second R (next value) (otherNext value) ⟨now, none⟩)
    (enough : first + second ≤ cost) :
    SettlesAt special room calm cost R (script >>= next) (other >>= otherNext) s := by
  intro tidy budget
  obtain ⟨same, concludes⟩ := here tidy (by omega)
  simp only [Bind.bind, EStateM.bind]
  rw [same]
  generalize script s.world = result at concludes ⊢
  cases concludes with
  | ok course active_eq post =>
      exact (there _ _ post).resume course active_eq tidy enough budget
  | panic excited course active_eq =>
      exact ⟨rfl, .panic excited (course.trans (.refl _) enough) active_eq⟩
  | fatal works fatal => exact ⟨rfl, .fatal works fatal⟩

/-- A first part that costs nothing leaves the budget to the rest. -/
theorem SettlesAt.andThen (here : SettlesAt special room calm 0 Q script other s)
    (there : ∀ value now, Q value now →
      SettlesAt special room calm cost R (next value) (otherNext value) ⟨now, none⟩) :
    SettlesAt special room calm cost R (script >>= next) (other >>= otherNext) s :=
  here.bind there (Nat.le_of_eq (Nat.zero_add cost))

theorem SettlesAt.get {next otherNext : World → Script β}
    (there : SettlesAt special room calm cost R (next s.world) (otherNext s.world) s) :
    SettlesAt special room calm cost R (get >>= next) (get >>= otherNext) s := there

theorem SettlesAt.set {next otherNext : PUnit → Script β} {world now : World}
    (machine_eq : now.machine = world.machine) (heap_eq : now.heap = world.heap)
    (there : SettlesAt special room calm cost R (next ⟨⟩) (otherNext ⟨⟩) ⟨now, none⟩) :
    SettlesAt special room calm cost R (set now >>= next) (set now >>= otherNext) ⟨world, none⟩ :=
  fun tidy budget =>
    there.resume (course_aside machine_eq heap_eq) (congrArg Host.Machine.active machine_eq) tidy
      (Nat.le_of_eq (Nat.zero_add cost)) budget

theorem SettlesAt.aside {value : α} {world now : World} (ran : script world = .ok value now)
    (machine_eq : now.machine = world.machine) (heap_eq : now.heap = world.heap)
    (post : Q value now) : SettlesAt special room calm 0 Q script script ⟨world, none⟩ :=
  .of_ok ran (fun _ => course_aside machine_eq heap_eq) (congrArg Host.Machine.active machine_eq) post

theorem Settles.bind (here : Settles special room calm first script other)
    (there : ∀ value, Settles special room calm second (next value) (otherNext value))
    (enough : first + second ≤ cost) :
    Settles special room calm cost (script >>= next) (other >>= otherNext) := fun world =>
  (here world).bind (fun value now _ => there value now) enough

theorem Settles.andThen (here : Settles special room calm 0 script other)
    (there : ∀ value, Settles special room calm cost (next value) (otherNext value)) :
    Settles special room calm cost (script >>= next) (other >>= otherNext) :=
  here.bind there (Nat.le_of_eq (Nat.zero_add cost))

theorem Settles.pure (value : α) : Settles special room calm cost (pure value) (pure value) :=
  fun _ => .pure trivial

theorem Settles.weaken (settles : Settles special room true first script other)
    (enough : first ≤ cost) : Settles special room calm cost script other := fun world =>
  (settles world).mono (fun _ => rfl) enough fun _ _ => id

theorem Settles.forM {γ : Type} {act otherAct : γ → Script PUnit} (costs : γ → Nat) (items : List γ)
    (each : ∀ item ∈ items, Settles special room calm (costs item) (act item) (otherAct item)) :
    Settles special room calm (items.map costs).sum (items.forM act) (items.forM otherAct) := by
  induction items with
  | nil => exact .pure _
  | cons item rest ih =>
      obtain ⟨here, there⟩ := List.forall_mem_cons.1 each
      exact here.bind (fun _ => ih there) (Nat.le_of_eq (List.sum_cons ..).symm)

/-- Whatever a script does, it is calm when its failed assertions are caught. -/
theorem Settles.attempt (settles : Settles special room false cost script other) :
    Settles special room true cost (attempt script) (attempt other) := by
  intro world tidy budget
  obtain ⟨same, concludes⟩ := settles world tidy budget
  unfold Script.attempt
  dsimp only at same concludes ⊢
  rw [same]
  generalize script world = result at concludes ⊢
  refine ⟨rfl, ?_⟩
  cases concludes with
  | ok course active_eq _ => exact .ok course active_eq trivial
  | panic _ course active_eq => exact .ok course active_eq trivial
  | @fatal stop _ works fatal =>
      cases stop with
      | abort | misuse => exact .fatal works fatal
      | panic | exhausted => exact fatal.elim

/-- A computation that stops for a reason of its own settles: a guest that works in memory may break
its rules or find it full. -/
theorem settlesAt_ofExcept {outcome : Except Stop α} (ends : Unexhausted outcome) (world : World) :
    SettlesAt true room false 0 (fun value now => outcome = .ok value ∧ now = world)
      (Script.ofExcept outcome) (Script.ofExcept outcome) ⟨world, none⟩ := by
  cases outcome with
  | ok value => exact .of_ok rfl (fun _ => .refl _) rfl ⟨rfl, rfl⟩
  | error stop =>
      cases stop with
      | panic message => exact .panic message
      | abort | misuse => exact fun _ _ => ⟨rfl, .fatal rfl trivial⟩
      | exhausted => exact absurd rfl ends

section Cleanup

variable {cleanup otherCleanup : Script Unit}

/-- A script that has failed an assertion fails it still when it has cleaned up. -/
private theorem Concludes.panicking {P : Unit → World → Prop} (message : String)
    {result : EStateM.Result Stop World Unit} :
    Concludes special false cost base P s result →
      Concludes special false cost base Q s
        (match result with
          | .ok () after => .error (.panic message) after
          | .error stop after => .error stop after) := by
  intro concludes
  cases concludes with
  | ok course active_eq _ => exact .panic rfl course active_eq
  | panic excited course active_eq => exact .panic excited course active_eq
  | fatal works fatal => exact .fatal works fatal

/-- What is run at the end of a script, whatever becomes of it, is paid for as well. -/
theorem Settles.andFinally (body : Settles special room false first script other)
    (ends : Settles special room false second cleanup otherCleanup) :
    Settles special room false (first + second) (andFinally script cleanup)
      (andFinally other otherCleanup) := by
  intro world tidy budget
  obtain ⟨same, concludes⟩ := body world tidy (by omega)
  unfold Script.andFinally
  dsimp only at same concludes ⊢
  rw [same]
  generalize script world = result at concludes ⊢
  cases concludes with
  | @ok value now course active_eq _ =>
      obtain ⟨same, concludes⟩ := (ends now).resume course active_eq tidy (Nat.le_refl _) budget
      dsimp only
      rw [same]
      generalize cleanup now = result at concludes ⊢
      refine ⟨rfl, ?_⟩
      cases concludes with
      | ok course active_eq _ => exact .ok course active_eq trivial
      | panic excited course active_eq => exact .panic excited course active_eq
      | fatal works fatal => exact .fatal works fatal
  | @panic message now excited course active_eq =>
      obtain ⟨same, concludes⟩ := (ends now).resume course active_eq tidy (Nat.le_refl _) budget
      dsimp only
      rw [same]
      exact ⟨rfl, Concludes.panicking message concludes⟩
  | @fatal stop _ works fatal =>
      cases stop with
      | abort | misuse => exact ⟨rfl, .fatal works fatal⟩
      | panic | exhausted => exact fatal.elim

theorem Settles.onPanic (body : Settles special room false first script other)
    (ends : Settles special room false second cleanup otherCleanup) :
    Settles special room false (first + second) (onPanic script cleanup)
      (onPanic other otherCleanup) := by
  intro world tidy budget
  obtain ⟨same, concludes⟩ := body world tidy (by omega)
  unfold Script.onPanic
  dsimp only at same concludes ⊢
  rw [same]
  have more := concludes.weaken (Nat.le_add_right first second)
  generalize script world = result at concludes more ⊢
  cases concludes with
  | ok => exact ⟨rfl, more⟩
  | @panic message now excited course active_eq =>
      obtain ⟨same, concludes⟩ := (ends now).resume course active_eq tidy (Nat.le_refl _) budget
      dsimp only
      rw [same]
      exact ⟨rfl, Concludes.panicking message concludes⟩
  | @fatal stop _ works fatal =>
      cases stop with
      | abort | misuse => exact ⟨rfl, more⟩
      | panic | exhausted => exact fatal.elim

end Cleanup

end Scripts

end Session

end Custody
