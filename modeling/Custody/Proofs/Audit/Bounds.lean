import Custody.Audit.Run
import Custody.Proofs.Teardown.Bounds

/-!
# The audit within bounds

An iteration of the audit registers seven objects of its own, and nothing else in it costs anything.
Whatever the host and the memory make of its scenarios, the audit comes to an end on that budget.
-/

set_option autoImplicit false

namespace Custody

namespace Session

open Script

variable {α : Type} {memory calm : Bool} {room cost : Nat}

theorem settles_callMemory {call : Memory → Except Stop (α × Memory)}
    (ends : ∀ m, Unexhausted (call m)) :
    Settles true room false 0 (callMemory call) (callMemory call) := by
  intro world
  unfold callMemory
  apply SettlesAt.get
  apply SettlesAt.andThen (settlesAt_ofExcept (ends world.workspace.memory) world)
  rintro ⟨answer, memory⟩ _ ⟨_, rfl⟩
  exact .aside rfl rfl rfl trivial

end Session

namespace Audit

open Session (Control Owner Script Settles SettlesAt Suffices)
open Session.Script (andFinally attempt callHost callMemory onPanic)

variable {α β : Type} {room cost first second : Nat} {control other : Control} {mode : Mode}

/-! ## Scenarios on a budget -/

def Plays (room cost : Nat) (scenario other : Scenario α) : Prop :=
  Settles true room false cost scenario.run other.run

section Rules

variable {scenario otherScenario : Scenario α} {next otherNext : α → Scenario β}

theorem Plays.pure (value : α) : Plays room cost (pure value) (pure value) := Settles.pure _

theorem Plays.throw (detail : String) :
    Plays room cost (throw detail : Scenario α) (throw detail) := Settles.pure _

theorem plays_ensure (condition : Bool) (detail : String) :
    Plays room cost (ensure condition detail) (ensure condition detail) := by
  cases condition with
  | true => exact .pure ()
  | false => exact .throw detail

theorem Plays.bind (here : Plays room first scenario otherScenario)
    (there : ∀ value, Plays room second (next value) (otherNext value))
    (enough : first + second ≤ cost) :
    Plays room cost (scenario >>= next) (otherScenario >>= otherNext) := by
  refine Settles.bind here (fun result => ?_) enough
  cases result with
  | ok value => exact there value
  | error detail => exact Settles.pure _

/-- A first part that costs nothing leaves the budget to the rest. -/
theorem Plays.andThen (here : Plays room 0 scenario otherScenario)
    (there : ∀ value, Plays room cost (next value) (otherNext value)) :
    Plays room cost (scenario >>= next) (otherScenario >>= otherNext) :=
  here.bind there (Nat.le_of_eq (Nat.zero_add cost))

theorem Plays.lift {script twin : Script α} (settles : Settles true room false cost script twin) :
    Plays room cost (liftM script) (liftM twin) := by
  unfold Plays
  change Settles _ _ _ _ (Except.ok <$> script) (Except.ok <$> twin)
  rw [map_eq_pure_bind, map_eq_pure_bind]
  exact settles.bind (fun _ => .pure _) (Nat.le_of_eq (Nat.add_zero cost))

theorem Plays.free {script twin : Script α} (settles : Settles true room false 0 script twin)
    (there : ∀ value, Plays room cost (next value) (otherNext value)) :
    Plays room cost (liftM script >>= next) (liftM twin >>= otherNext) :=
  (Plays.lift settles).andThen there

theorem Plays.ensure {next otherNext : Unit → Scenario β} (condition : Bool) (detail : String)
    (there : Plays room cost (next ()) (otherNext ())) :
    Plays room cost (Audit.ensure condition detail >>= next)
      (Audit.ensure condition detail >>= otherNext) :=
  (plays_ensure condition detail).andThen fun _ => there

variable {cleanup twinCleanup : Script Unit}

theorem Plays.holding (plays : Plays room cost scenario otherScenario)
    (ends : Settles true room false 0 cleanup twinCleanup) :
    Plays room cost (holding scenario cleanup) (holding otherScenario twinCleanup) :=
  Settles.andFinally plays ends

theorem Plays.keeping (plays : Plays room cost scenario otherScenario)
    (ends : Settles true room false 0 cleanup twinCleanup) :
    Plays room cost (keeping scenario cleanup) (keeping otherScenario twinCleanup) := by
  refine (Settles.onPanic plays ends).bind (fun result => ?_) (Nat.le_of_eq (Nat.add_zero _))
  cases result with
  | ok value => exact .pure _
  | error detail => exact ends.andThen fun _ => .pure _

end Rules

/-! ## What a scenario looks at -/

theorem settles_hostCounters :
    Settles true room false cost hostCounters hostCounters := fun _ => .pure trivial

theorem settles_liveHandles :
    Settles true room false cost liveHandles liveHandles := fun _ => .pure trivial

theorem settles_isDestroyed (owner : Owner) :
    Settles true room false cost (isDestroyed owner) (isDestroyed owner) := fun _ => .pure trivial

theorem settles_memoryCounters :
    Settles true room false cost memoryCounters memoryCounters := fun _ => .pure trivial

theorem settles_releasedSince (earlier : Memory.Counters) :
    Settles true room false cost (releasedSince earlier) (releasedSince earlier) :=
  fun _ => .pure trivial

theorem plays_repOf (h : Handle) : Plays room cost (repOf h) (repOf h) := by
  unfold repOf
  apply Plays.free Session.settles_host
  intro host
  cases host.rep h with
  | ok rep => exact .pure rep
  | error fault => exact .throw fault.message

/-! ## Buffers and vectors -/

theorem settles_bufferOf (bytes : List UInt8) :
    Settles true room false 0 (bufferOf bytes) (bufferOf bytes) :=
  Session.settles_callMemory (Memory.Buffer.ofBytes_unexhausted · bytes)

theorem settles_vectorOf (element : Layout) (elements : List Nat) :
    Settles true room false 0 (vectorOf element elements) (vectorOf element elements) :=
  Session.settles_callMemory (Memory.ElementVector.ofElements_unexhausted · element elements)

theorem settles_bytesOf (b : Memory.Buffer) :
    Settles true room false 0 (bytesOf b) (bytesOf b) :=
  Session.settles_callMemory fun m => (b.bytes_unexhausted m).bind fun _ => .ok _

theorem settles_elementsOf (v : Memory.ElementVector) :
    Settles true room false 0 (elementsOf v) (elementsOf v) :=
  Session.settles_callMemory fun m => (v.elements_unexhausted m).bind fun _ => .ok _

theorem settles_elementAt (v : Memory.ElementVector) (index : Nat) :
    Settles true room false 0 (elementAt v index) (elementAt v index) :=
  Session.settles_callMemory fun m => (v.get_unexhausted m index).bind fun _ => .ok _

theorem settles_setElement (v : Memory.ElementVector) (index element : Nat) :
    Settles true room false 0 (setElement v index element) (setElement v index element) :=
  Session.settles_callMemory fun m => (v.set_unexhausted m index element).bind fun _ => .ok _

theorem settles_dropBuffer (b : Memory.Buffer) :
    Settles true room false 0 (dropBuffer b) (dropBuffer b) :=
  Session.settles_callMemory fun m => (b.drop_unexhausted m).bind fun _ => .ok _

theorem settles_dropVector (v : Memory.ElementVector) :
    Settles true room false 0 (dropVector v) (dropVector v) :=
  Session.settles_callMemory fun m => (v.drop_unexhausted m).bind fun _ => .ok _

theorem settles_releaseRaw (p : Pointer) :
    Settles true room false 0 (releaseRaw p) (releaseRaw p) :=
  Session.settles_callMemory fun m => (m.release_unexhausted p).bind fun _ => .ok _

theorem plays_bufferCopy (payload : List UInt8) :
    Plays room 0 (bufferCopy payload) (bufferCopy payload) := by
  unfold bufferCopy
  apply Plays.free settles_memoryCounters
  intro before
  apply Plays.free (settles_bufferOf payload)
  intro buffer
  apply Plays.andThen
  · apply Plays.holding _ (settles_dropBuffer buffer)
    apply Plays.ensure
    apply Plays.free (settles_bytesOf buffer)
    intro bytes
    exact plays_ensure _ _
  · intro _
    apply Plays.free settles_memoryCounters
    intro counters
    exact plays_ensure _ _

theorem plays_bufferMove (payload : List UInt8) :
    Plays room 0 (bufferMove payload) (bufferMove payload) := by
  unfold bufferMove
  apply Plays.free (settles_bufferOf payload)
  intro buffer
  apply Plays.andThen
  · apply Plays.holding _ (settles_dropBuffer _)
    apply Plays.andThen
    · apply Plays.holding _ (settles_dropBuffer _)
      apply Plays.ensure
      apply Plays.free (settles_bytesOf _)
      intro bytes
      apply Plays.ensure
      exact .lift settles_memoryCounters
    · intro before
      apply Plays.free (settles_releasedSince before)
      intro released
      apply Plays.ensure
      exact .pure before
  · intro before
    apply Plays.free (settles_releasedSince before)
    intro released
    exact plays_ensure _ _

theorem plays_bufferLeak (payload : List UInt8) :
    Plays room 0 (bufferLeak payload) (bufferLeak payload) := by
  unfold bufferLeak
  apply Plays.free (settles_bufferOf payload)
  intro buffer
  apply Plays.free settles_memoryCounters
  intro before
  apply Plays.free (settles_dropBuffer _)
  intro _
  apply Plays.free (settles_releasedSince before)
  intro releasedOnDrop
  apply Plays.free (settles_releaseRaw _)
  intro _
  apply Plays.free (settles_releasedSince before)
  intro released
  apply Plays.ensure
  apply Plays.ensure
  exact plays_ensure _ _

theorem plays_vectorElements : Plays room 0 vectorElements vectorElements := by
  unfold vectorElements
  apply Plays.free (settles_vectorOf _ _)
  intro vector
  apply Plays.andThen
  · apply Plays.keeping _ (settles_dropVector vector)
    apply Plays.free (settles_setElement vector 3 40)
    intro _
    apply Plays.free (settles_elementAt vector 0)
    intro first
    apply Plays.free (settles_elementsOf vector)
    intro elements
    exact plays_ensure _ _
  intro _
  apply Plays.free settles_memoryCounters
  intro before
  apply Plays.free (settles_dropVector _)
  intro _
  apply Plays.andThen
  · apply Plays.keeping _ (settles_dropVector _)
    apply Plays.free (settles_releasedSince before)
    intro released
    exact plays_ensure _ _
  intro _
  apply Plays.free (settles_dropVector _)
  intro _
  apply Plays.free (settles_releasedSince before)
  intro released
  apply Plays.ensure
  apply Plays.free (settles_releaseRaw _)
  intro _
  apply Plays.free (settles_releasedSince before)
  intro released
  exact plays_ensure _ _

/-! ## Registered objects -/

theorem settles_registerProbe (mode : Mode) (children : List Owner) :
    Settles true room false 1 (registerProbe mode children) (registerProbe mode children) := by
  intro world
  have admitted : (Session.Resource.probe children).Admitted true := fun ordinary => by cases ordinary
  exact (Session.settlesAt_register _ _ mode admitted world).mono id (Nat.le_refl 1)
    fun _ _ _ => trivial

theorem settles_ownerHandle (owner : Owner) :
    Settles true room false 0 (Session.ownerHandle owner) (Session.ownerHandle owner) := by
  intro world
  cases present : world.heap.get? owner.id with
  | some r => exact Session.settlesAt_ownerHandle present
  | none =>
      unfold Session.ownerHandle
      apply SettlesAt.get
      rw [present]
      exact .fatal trivial

theorem settles_takeHandle (owner : Owner) :
    Settles true room false 0 (Session.takeHandle owner) (Session.takeHandle owner) := by
  intro world
  cases present : world.heap.get? owner.id with
  | some r => exact Session.settlesAt_takeHandle present
  | none =>
      have stopped := Session.takeHandle_absent present
      exact .of_error stopped stopped trivial

/-- Where there is no object, there is no handle to take out. -/
theorem settles_consumeOwner (control other : Control) (owner : Owner) :
    Settles true room false 0 (Session.consumeOwner control owner)
      (Session.consumeOwner other owner) := by
  intro world
  cases present : world.heap.get? owner.id with
  | some r => exact Session.settlesAt_consumeOwner control other present
  | none =>
      exact .of_error (Session.consumeOwner_absent control present)
        (Session.consumeOwner_absent other present) trivial

theorem settles_reattach (h : Handle) (id : Nat) :
    Settles true room false 0 (Session.reattach h (some id)) (Session.reattach h (some id)) := by
  intro world
  cases present : world.heap.get? id with
  | some r =>
      exact (Session.settlesAt_reattach h present).mono (fun calm => calm) (Nat.le_refl 0)
        fun _ _ _ => trivial
  | none =>
      unfold Session.reattach
      apply SettlesAt.get
      cases valid : h.isValid with
      | false =>
          simp only [Guest.Heap.reattach, valid]
          exact .panic _
      | true =>
          simp only [Guest.Heap.reattach, valid, present]
          exact .fatal trivial

section Objects

variable (controls : Suffices true room control other)

include controls

theorem settles_flush : Settles true room false 0 (Session.flush control) (Session.flush other) :=
  (Session.settles_flush controls).weaken (Nat.le_refl 0)

theorem settles_dropOwner (owner : Owner) :
    Settles true room false 0 (Session.dropOwner control owner) (Session.dropOwner other owner) :=
  (Session.settles_dropOwner controls owner).weaken (Nat.le_refl 0)

theorem settles_requestDrop (h : Handle) :
    Settles true room false 0 (Session.requestDrop control h) (Session.requestDrop other h) :=
  (Session.settles_requestDrop controls h).weaken (Nat.le_refl 0)

theorem Plays.registering {next otherNext : Owner → Scenario β}
    (there : ∀ owner, Plays room 0 (next owner) (otherNext owner)) :
    Plays room 1
      (do
        let _ ← Session.flush control
        let owner ← registerProbe mode []
        next owner)
      (do
        let _ ← Session.flush other
        let owner ← registerProbe mode []
        otherNext owner) := by
  apply Plays.free (settles_flush controls)
  intro _
  exact (Plays.lift (settles_registerProbe mode [])).bind there (Nat.le_refl 1)

theorem plays_registration : Plays room 1 (registration control mode) (registration other mode) := by
  apply Plays.registering controls
  intro owner
  apply Plays.holding _ (settles_dropOwner controls owner)
  apply Plays.free (settles_ownerHandle owner)
  intro h
  apply Plays.ensure
  apply Plays.andThen (plays_repOf h)
  intro rep
  exact plays_ensure _ _

theorem plays_dropOnce : Plays room 1 (dropOnce control mode) (dropOnce other mode) := by
  apply Plays.registering controls
  intro owner
  apply Plays.free (settles_ownerHandle owner)
  intro h
  apply Plays.free settles_hostCounters
  intro before
  apply Plays.free (settles_dropOwner controls owner)
  intro _
  apply Plays.free (settles_flush controls)
  intro _
  apply Plays.free settles_hostCounters
  intro after
  apply Plays.ensure
  apply Plays.ensure
  apply Plays.free (settles_isDestroyed owner)
  intro destroyed
  apply Plays.ensure
  apply Plays.free (settles_requestDrop controls h)
  intro _
  apply Plays.free (settles_flush controls)
  intro _
  apply Plays.free Session.settles_takeFaults
  intro faults
  apply Plays.ensure
  apply Plays.free settles_hostCounters
  intro counters
  exact plays_ensure _ _

theorem plays_intoHandleOnce :
    Plays room 1 (intoHandleOnce control mode) (intoHandleOnce other mode) := by
  apply Plays.registering controls
  intro owner
  apply Plays.free (settles_takeHandle owner)
  intro first
  apply Plays.free (settles_takeHandle owner)
  intro second
  apply Plays.free settles_hostCounters
  intro before
  apply Plays.free (settles_dropOwner controls owner)
  intro _
  apply Plays.free (settles_flush controls)
  intro _
  apply Plays.free settles_hostCounters
  intro after
  apply Plays.free (settles_isDestroyed owner)
  intro destroyed
  apply Plays.free (settles_requestDrop controls first)
  intro _
  apply Plays.free (settles_flush controls)
  intro _
  apply Plays.ensure
  apply Plays.ensure
  apply Plays.ensure
  apply Plays.ensure
  apply Plays.free (settles_isDestroyed owner)
  intro destroyed
  exact plays_ensure _ _

theorem plays_reattach : Plays room 1 (reattach control mode) (reattach other mode) := by
  apply Plays.registering controls
  intro owner
  apply Plays.free (settles_consumeOwner control other owner)
  intro h
  apply Plays.free (settles_isDestroyed owner)
  intro destroyed
  apply Plays.ensure
  apply Plays.andThen (plays_repOf h)
  intro rep
  cases rep with
  | number value => exact .throw _
  | registration id =>
      apply Plays.free (settles_reattach h id)
      intro owner
      apply Plays.andThen
      · apply Plays.holding _ (settles_dropOwner controls owner)
        apply Plays.free (settles_ownerHandle owner)
        intro attached
        exact plays_ensure _ _
      · intro _
        apply Plays.free (settles_flush controls)
        intro _
        apply Plays.free (settles_isDestroyed owner)
        intro destroyed
        exact plays_ensure _ _

theorem settles_registerPair :
    Settles true room false 2 (registerPair control mode) (registerPair other mode) := by
  refine (settles_registerProbe mode []).bind (fun left => ?_)
    (show 1 + 1 ≤ 2 by decide)
  exact ((settles_registerProbe mode []).onPanic (settles_dropOwner controls left)).bind
    (fun right => .pure (left, right)) (show 1 + 0 ≤ 1 by decide)

theorem plays_nestedTeardown :
    Plays room 3 (nestedTeardown control mode) (nestedTeardown other mode) := by
  unfold nestedTeardown
  apply Plays.free (settles_flush controls)
  intro _
  apply Plays.free settles_liveHandles
  intro baseline
  apply Plays.bind (.lift (settles_registerPair controls)) _ (show 2 + 1 ≤ 3 by decide)
  rintro ⟨left, right⟩
  apply Plays.bind (.lift (settles_registerProbe mode [left, right])) _ (show 1 + 0 ≤ 1 by decide)
  intro parent
  apply Plays.andThen
  · apply Plays.keeping _ (settles_dropOwner controls parent)
    apply Plays.free settles_liveHandles
    intro live
    exact plays_ensure _ _
  intro _
  apply Plays.free settles_hostCounters
  intro before
  apply Plays.free (settles_dropOwner controls parent)
  intro _
  apply Plays.free (settles_flush controls)
  intro _
  apply Plays.free settles_hostCounters
  intro after
  apply Plays.free (settles_isDestroyed parent)
  intro parentGone
  apply Plays.free (settles_isDestroyed left)
  intro leftGone
  apply Plays.free (settles_isDestroyed right)
  intro rightGone
  apply Plays.ensure
  apply Plays.ensure
  apply Plays.free settles_liveHandles
  intro live
  exact plays_ensure _ _

end Objects

/-! ## Handles of the host -/

theorem plays_borrowed (mode : Mode) (name : String) :
    Plays room 0 (borrowed mode name) (borrowed mode name) := by
  apply Settles.andThen (Session.settles_lend mode name)
  intro result
  cases result with
  | ok h => exact .pure _
  | error fault => exact .pure _

theorem plays_importRelease (mode : Mode) (name : String) :
    Plays room 0 (importRelease mode name) (importRelease mode name) := by
  unfold importRelease
  apply Plays.free settles_hostCounters
  intro before
  apply Plays.andThen (plays_borrowed mode name)
  intro h
  apply Plays.andThen
  · exact Plays.holding (plays_ensure _ _)
      (Session.settles_dropOwned Session.settles_releaseImport (.ofHandle h))
  · intro _
    apply Plays.free settles_hostCounters
    intro counters
    exact plays_ensure _ _

theorem plays_importTransfer (mode : Mode) (name : String) :
    Plays room 0 (importTransfer mode name) (importTransfer mode name) := by
  apply Plays.andThen (plays_borrowed mode name)
  intro h
  apply Plays.holding
  · apply Plays.free (Session.settles_releaseImport _)
    intro _
    apply Plays.ensure
    apply Plays.ensure
    exact plays_ensure _ _
  · exact (Session.settles_dropCell _).andThen fun _ => Session.settles_dropCell _

theorem settles_assignTo (target source : Guest.Cell) :
    Settles true room false 0 (assignTo target source) (assignTo target source) := by
  unfold assignTo Guest.Cell.assign
  cases target.isValid with
  | false =>
      apply Settles.andThen (Session.settles_dropCell _)
      intro _
      apply Settles.andThen (Session.settles_dropCell _)
      intro _
      exact .pure _
  | true =>
      apply Settles.andThen (Session.settles_dropCell source)
      intro _
      apply Settles.andThen (Session.settles_dropCell target)
      intro _ world
      exact .panic _

theorem settles_panics {script twin : Script α} (settles : Settles true room false 0 script twin) :
    Settles true room false 0 (panics script) (panics twin) := by
  apply Settles.andThen (settles.attempt.weaken (Nat.le_refl 0))
  intro result
  cases result with
  | ok value => exact .pure _
  | error message => exact .pure _

theorem plays_assignOverLive (mode : Mode) :
    Plays room 0 (assignOverLive mode) (assignOverLive mode) := by
  apply Plays.andThen (plays_borrowed mode "assign-target")
  intro held
  apply Plays.andThen (plays_borrowed mode "assign-source")
  intro incoming
  apply Plays.free (settles_panics (settles_assignTo _ _))
  intro isRefused
  apply Plays.free (Session.settles_releaseImport held)
  intro _
  apply Plays.free (Session.settles_releaseImport incoming)
  intro _
  exact plays_ensure _ _

/-! ## Iterations -/

/-- Scenarios under the same names, with what each of them costs. -/
inductive PlayAll (room : Nat) :
    List Nat → List (String × Scenario Unit) → List (String × Scenario Unit) → Prop where
  | nil : PlayAll room [] [] []
  | cons {name : String} {scenario otherScenario : Scenario Unit} {cost : Nat} {costs : List Nat}
      {rest otherRest : List (String × Scenario Unit)}
      (plays : Plays room cost scenario otherScenario) (all : PlayAll room costs rest otherRest) :
      PlayAll room (cost :: costs) ((name, scenario) :: rest) ((name, otherScenario) :: otherRest)

variable {scenarios otherScenarios rest otherRest : List (String × Scenario Unit)}
  {costs restCosts : List Nat}

theorem PlayAll.append (front : PlayAll room costs scenarios otherScenarios)
    (back : PlayAll room restCosts rest otherRest) :
    PlayAll room (costs ++ restCosts) (scenarios ++ rest) (otherScenarios ++ otherRest) := by
  induction front with
  | nil => exact back
  | cons plays _ ih => exact .cons plays ih

theorem playAll_imports (mode : Mode) (imports : List ImportEntry) :
    ∃ costs, costs.sum = 0 ∧
      PlayAll room costs
        (imports.flatMap fun entry =>
          [ ("import." ++ entry.name ++ ".release", importRelease mode entry.name),
            ("import." ++ entry.name ++ ".transfer", importTransfer mode entry.name) ])
        (imports.flatMap fun entry =>
          [ ("import." ++ entry.name ++ ".release", importRelease mode entry.name),
            ("import." ++ entry.name ++ ".transfer", importTransfer mode entry.name) ]) := by
  induction imports with
  | nil => exact ⟨[], rfl, .nil⟩
  | cons entry rest ih =>
      obtain ⟨costs, free, all⟩ := ih
      refine ⟨0 :: 0 :: costs, by simpa using free, ?_⟩
      exact .cons (plays_importRelease mode entry.name)
        (.cons (plays_importTransfer mode entry.name) all)

theorem playAll_scenarios (controls : Suffices true room control other) (mode : Mode)
    (payload : List UInt8) (imports : List ImportEntry) :
    ∃ costs, costs.sum = Session.auditRegistrations ∧
      PlayAll room costs (Audit.scenarios control mode payload imports)
        (Audit.scenarios other mode payload imports) := by
  obtain ⟨costs, free, all⟩ := @playAll_imports room mode imports
  refine ⟨([0, 0, 0, 0, 1, 1, 1, 1, 3] ++ costs) ++ [0], ?_, ?_⟩
  · simp [free, Session.auditRegistrations]
  unfold Audit.scenarios
  apply PlayAll.append (PlayAll.append _ all) (.cons (plays_assignOverLive mode) .nil)
  apply PlayAll.cons (plays_bufferCopy payload)
  apply PlayAll.cons (plays_bufferMove payload)
  apply PlayAll.cons (plays_bufferLeak payload)
  apply PlayAll.cons plays_vectorElements
  apply PlayAll.cons (plays_registration controls)
  apply PlayAll.cons (plays_dropOnce controls)
  apply PlayAll.cons (plays_intoHandleOnce controls)
  apply PlayAll.cons (plays_reattach controls)
  exact .cons (plays_nestedTeardown controls) .nil

theorem settles_tried {scenario otherScenario : Scenario Unit}
    (plays : Plays room cost scenario otherScenario) (name : String) (iteration : Nat)
    (checks : List Check) :
    Settles true room false cost (tried name iteration scenario checks)
      (tried name iteration otherScenario checks) := by
  refine Settles.bind plays (fun result => ?_) (Nat.le_of_eq (Nat.add_zero cost))
  apply Settles.andThen Session.settles_takeFaults
  intro faults
  dsimp only
  cases judged result faults with
  | ok => exact .pure _
  | error detail =>
      apply Settles.andThen (Session.settles_emit _)
      intro _
      exact .pure _

theorem settles_runAll (all : PlayAll room costs scenarios otherScenarios) (iteration : Nat) :
    ∀ checks, Settles true room false costs.sum (runAll iteration scenarios checks)
      (runAll iteration otherScenarios checks) := by
  induction all with
  | nil => exact fun checks => .pure checks
  | cons plays _ ih =>
      intro checks
      exact (settles_tried plays _ iteration checks).bind ih (Nat.le_of_eq (List.sum_cons ..).symm)

theorem settles_repeated (all : PlayAll room costs scenarios otherScenarios) (times : Nat) :
    ∀ iteration checks, Settles true room false (costs.sum * times)
      (repeated scenarios times iteration checks) (repeated otherScenarios times iteration checks) := by
  induction times with
  | zero => exact fun _ checks => .pure checks
  | succ times ih =>
      intro iteration checks
      refine (settles_runAll all iteration checks).bind (ih (iteration + 1)) ?_
      rw [Nat.mul_succ, Nat.add_comm]

theorem plays_noLeaks (liveAtStart : Nat) (memoryAtStart : Memory.Counters) :
    Plays room 0 (noLeaks liveAtStart memoryAtStart) (noLeaks liveAtStart memoryAtStart) := by
  unfold noLeaks
  apply Plays.free settles_liveHandles
  intro live
  apply Plays.ensure
  apply Plays.free Session.settles_host
  intro host
  apply Plays.ensure
  apply Plays.free settles_memoryCounters
  intro counters
  exact plays_ensure _ _

theorem settles_perhaps {condition : Prop} [Decidable condition] {script twin : Script Unit}
    {rest otherRest : Script α} (here : Settles true room false 0 script twin)
    (there : Settles true room false cost rest otherRest) :
    Settles true room false cost (if condition then script >>= fun _ => rest else rest)
      (if condition then twin >>= fun _ => otherRest else otherRest) := by
  split
  · exact here.andThen fun _ => there
  · exact there

theorem settles_run (controls : Suffices true room control other) (config : AuditConfig)
    (imports : List ImportEntry) :
    Settles true room false (Session.auditRegistrations * max 1 config.iterations.toNat)
      (run control config imports) (run other config imports) := by
  unfold run
  apply Settles.andThen Session.settles_host
  intro host
  apply Settles.andThen Session.settles_takeFaults
  intro earlier
  obtain ⟨costs, paid, all⟩ :=
    playAll_scenarios controls host.config.mode config.payload.toUTF8.toList imports
  rw [← paid]
  dsimp only
  apply settles_perhaps (Session.settles_emit _)
  apply Settles.andThen settles_liveHandles
  intro liveAtStart
  apply Settles.andThen settles_memoryCounters
  intro memoryAtStart
  refine Settles.bind (settles_repeated all _ 0 []) (fun checks => ?_) (Nat.le_of_eq (Nat.add_zero _))
  apply Settles.andThen ((Session.settles_flush controls).weaken (Nat.le_refl 0))
  intro _
  apply Settles.andThen (settles_tried (plays_noLeaks liveAtStart memoryAtStart) _ _ checks)
  intro checks
  apply Settles.andThen settles_hostCounters
  intro counters
  exact .pure _

end Audit

end Custody
