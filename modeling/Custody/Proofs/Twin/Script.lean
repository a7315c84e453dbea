import Custody.Proofs.Twin.World

/-!
# Scripts that go alike

Two scripts go alike when from alike worlds they come to alike worlds, and return related values or
stop for alike reasons. What is put together from scripts that go alike goes alike, so a script goes
like its twin as soon as its calls of the host do, and the steps inside destructors.
-/

set_option autoImplicit false

namespace Custody.Session

open Guest (Cell OwnedImport)
open Host (Continuation DestructorCall Fault Machine)
open Script

/-! ## Going alike -/

section Alike

variable (nodeType : Mode → String) {α β γ δ : Type}

inductive ResultAlike (R : α → β → Prop) :
    EStateM.Result Stop World α → EStateM.Result Stop World β → Prop where
  | ok {value : α} {other : β} {world twin : World} (values : R value other)
      (worlds : WorldAlike nodeType world twin) : ResultAlike R (.ok value world) (.ok other twin)
  | error {stop other : Stop} {world twin : World} (stops : StopAlike nodeType stop other)
      (worlds : WorldAlike nodeType world twin) :
      ResultAlike R (.error stop world) (.error other twin)

def GoAlike (R : α → β → Prop) (script : Script α) (twin : Script β) : Prop :=
  ∀ world other, WorldAlike nodeType world other →
    ResultAlike nodeType R (script world) (twin other)

inductive OutcomeAlike (R : α → β → Prop) : Except Stop α → Except Stop β → Prop where
  | ok {value : α} {other : β} (values : R value other) : OutcomeAlike R (.ok value) (.ok other)
  | error {stop other : Stop} (stops : StopAlike nodeType stop other) :
      OutcomeAlike R (.error stop) (.error other)

/-- The second value is what a function makes of the first. -/
def IsTwin (f : α → β) (value : α) (other : β) : Prop := other = f value

variable {nodeType} {R : α → β → Prop} {Q : γ → δ → Prop}

theorem GoAlike.pure {value : α} {other : β} (values : R value other) :
    GoAlike nodeType R (pure value) (pure other) := fun _ _ worlds => .ok values worlds

theorem GoAlike.throw {stop other : Stop} (stops : StopAlike nodeType stop other) :
    GoAlike nodeType R (throw stop) (throw other) := fun _ _ worlds => .error stops worlds

theorem GoAlike.bind {script : Script α} {twin : Script β} {next : α → Script γ}
    {twinNext : β → Script δ} (first : GoAlike nodeType R script twin)
    (after : ∀ value other, R value other → GoAlike nodeType Q (next value) (twinNext other)) :
    GoAlike nodeType Q (script >>= next) (twin >>= twinNext) := by
  intro world other worlds
  have results := first world other worlds
  simp only [Bind.bind, EStateM.bind]
  generalize script world = result, twin other = twinResult at results ⊢
  cases results with
  | ok values worlds => exact after _ _ values _ _ worlds
  | error stops worlds => exact .error stops worlds

theorem GoAlike.get : GoAlike nodeType (WorldAlike nodeType) get get :=
  fun _ _ worlds => .ok worlds worlds

theorem GoAlike.set {world other : World} (worlds : WorldAlike nodeType world other) :
    GoAlike nodeType Eq (set world) (set other) := fun _ _ _ => .ok rfl worlds

theorem GoAlike.modify {change twinChange : World → World}
    (changed : ∀ world other, WorldAlike nodeType world other →
      WorldAlike nodeType (change world) (twinChange other)) :
    GoAlike nodeType Eq (modify change) (modify twinChange) :=
  fun world other worlds => .ok rfl (changed world other worlds)

theorem GoAlike.modifyGet {change : World → α × World} {twinChange : World → β × World}
    (changed : ∀ world other, WorldAlike nodeType world other →
      R (change world).1 (twinChange other).1 ∧
        WorldAlike nodeType (change world).2 (twinChange other).2) :
    GoAlike nodeType R (modifyGet change) (modifyGet twinChange) := fun world other worlds =>
  let ⟨values, worlds⟩ := changed world other worlds
  .ok values worlds

theorem GoAlike.ofExcept {outcome : Except Stop α} {other : Except Stop β}
    (outcomes : OutcomeAlike nodeType R outcome other) :
    GoAlike nodeType R (Script.ofExcept outcome) (Script.ofExcept other) := by
  cases outcomes with
  | ok values => exact .pure values
  | error stops => exact .throw stops

theorem OutcomeAlike.bind {outcome : Except Stop α} {twin : Except Stop β}
    {next : α → Except Stop γ} {twinNext : β → Except Stop δ}
    (first : OutcomeAlike nodeType R outcome twin)
    (after : ∀ value other, R value other → OutcomeAlike nodeType Q (next value) (twinNext other)) :
    OutcomeAlike nodeType Q (outcome >>= next) (twin >>= twinNext) := by
  cases first with
  | ok values => exact after _ _ values
  | error stops => exact .error stops

theorem GoAlike.forM {f : α → β} {act : α → Script Unit} {twinAct : β → Script Unit}
    (items : List α) (each : ∀ item ∈ items, GoAlike nodeType Eq (act item) (twinAct (f item))) :
    GoAlike nodeType Eq (items.forM act) ((items.map f).forM twinAct) := by
  induction items with
  | nil => exact .pure rfl
  | cons item rest ih =>
      obtain ⟨here, there⟩ := List.forall_mem_cons.1 each
      exact here.bind fun _ _ _ => ih there

/-- A failed assertion that is caught becomes a message. -/
theorem GoAlike.attempt {script : Script α} {twin : Script β}
    (alike : GoAlike nodeType R script twin) :
    GoAlike nodeType
      (fun result other =>
        (∃ value twinValue, result = .ok value ∧ other = .ok twinValue ∧ R value twinValue) ∨
        ∃ message twinMessage, result = .error message ∧ other = .error twinMessage ∧
          Wording nodeType message twinMessage)
      (attempt script) (attempt twin) := by
  intro world other worlds
  have results := alike world other worlds
  unfold Script.attempt
  generalize script world = result, twin other = twinResult at results ⊢
  cases results with
  | ok values worlds => exact .ok (.inl ⟨_, _, rfl, rfl, values⟩) worlds
  | @error stop _ _ _ stops worlds =>
      cases stops with
      | panic wording => exact .ok (.inr ⟨_, _, rfl, rfl, wording⟩) worlds
      | same _ =>
          cases stop with
          | panic message => exact .ok (.inr ⟨_, _, rfl, rfl, .same message⟩) worlds
          | abort message => exact .error (.same _) worlds
          | misuse => exact .error (.same _) worlds
          | exhausted => exact .error (.same _) worlds

end Alike

section Scripts

variable {nodeType : Mode → String}

/-! ## Parts of a world -/

namespace WorldAlike

variable {world other : World}

theorem heap_eq (worlds : WorldAlike nodeType world other) :
    other.heap = world.heap.twin Resource.twin := by
  cases worlds
  rfl

theorem owners_eq (worlds : WorldAlike nodeType world other) :
    other.owners = world.owners.map Owner.twin := by
  cases worlds
  rfl

theorem cells_eq (worlds : WorldAlike nodeType world other) :
    other.cells = world.cells.map Cell.twin := by
  cases worlds
  rfl

theorem imports_eq (worlds : WorldAlike nodeType world other) :
    other.imports = world.imports.map OwnedImport.twin := by
  cases worlds
  rfl

theorem saved_eq (worlds : WorldAlike nodeType world other) :
    other.saved = world.saved.map Handle.twin := by
  cases worlds
  rfl

theorem workspace_eq (worlds : WorldAlike nodeType world other) :
    other.workspace = world.workspace := by
  cases worlds
  rfl

theorem portable (worlds : WorldAlike nodeType world other) : HoldsPortable world.heap := by
  cases worlds with
  | intro _ _ portable => exact portable

theorem get?_heap (worlds : WorldAlike nodeType world other) (id : Nat) :
    other.heap.get? id = (world.heap.get? id).map (Guest.Registration.twin Resource.twin) := by
  rw [worlds.heap_eq, Guest.Heap.get?_twin]

theorem withMachine (worlds : WorldAlike nodeType world other) {machine : Machine}
    (narrow : machine.host.Narrow) :
    WorldAlike nodeType { world with machine } { other with machine := machine.twin nodeType } := by
  cases worlds with
  | intro logs _ portable => exact ⟨logs, narrow, portable⟩

theorem withHeap (worlds : WorldAlike nodeType world other) {heap : Guest.Heap Resource}
    (portable : HoldsPortable heap) :
    WorldAlike nodeType { world with heap } { other with heap := heap.twin Resource.twin } := by
  cases worlds with
  | intro logs narrow _ => exact ⟨logs, narrow, portable⟩

theorem withOwners (worlds : WorldAlike nodeType world other) (owners : Registers Owner) :
    WorldAlike nodeType { world with owners } { other with owners := owners.map Owner.twin } := by
  cases worlds with
  | intro logs narrow portable => exact ⟨logs, narrow, portable⟩

theorem withCells (worlds : WorldAlike nodeType world other) (cells : Registers Cell) :
    WorldAlike nodeType { world with cells } { other with cells := cells.map Cell.twin } := by
  cases worlds with
  | intro logs narrow portable => exact ⟨logs, narrow, portable⟩

theorem withImports (worlds : WorldAlike nodeType world other) (imports : Registers OwnedImport) :
    WorldAlike nodeType { world with imports }
      { other with imports := imports.map OwnedImport.twin } := by
  cases worlds with
  | intro logs narrow portable => exact ⟨logs, narrow, portable⟩

theorem withSaved (worlds : WorldAlike nodeType world other) (saved : Registers Handle) :
    WorldAlike nodeType { world with saved } { other with saved := saved.map Handle.twin } := by
  cases worlds with
  | intro logs narrow portable => exact ⟨logs, narrow, portable⟩

theorem withWorkspace (worlds : WorldAlike nodeType world other) (workspace : Memory.Workspace) :
    WorldAlike nodeType { world with workspace } { other with workspace } := by
  cases worlds with
  | intro logs narrow portable => exact ⟨logs, narrow, portable⟩

end WorldAlike

theorem goAlike_emit {event other : Event} (events : EventAlike nodeType event other) :
    GoAlike nodeType Eq (emit event) (emit other) := by
  refine .modify fun world twin worlds => ?_
  cases worlds with
  | intro logs narrow portable => exact ⟨.cons events logs, narrow, portable⟩

theorem goAlike_note (notice : Notice) :
    GoAlike nodeType Eq (note notice) (note notice.twin) := goAlike_emit (.notice notice)

theorem goAlike_rejected (fault : Fault) :
    GoAlike nodeType Eq (rejected fault) (rejected fault.twin) := goAlike_note (.rejected fault)

/-! ## Calls of the host -/

section Calls

variable {α β : Type} {f : α → β}

theorem goAlike_callMachine {call : Machine → α × Machine} {twinCall : Machine → β × Machine}
    (same : ∀ m, m.host.Narrow →
      twinCall (m.twin nodeType) = Prod.map f (Machine.twin nodeType) (call m))
    (kept : ∀ m, m.host.Narrow → (call m).2.host.Narrow) :
    GoAlike nodeType (IsTwin f) (callMachine call) (callMachine twinCall) := by
  intro world other worlds
  have worlds' := worlds
  cases worlds' with
  | intro logs narrow portable =>
      have called := same world.machine narrow
      change ResultAlike nodeType (IsTwin f)
        (.ok (call world.machine).1 { world with machine := (call world.machine).2 })
        (.ok (twinCall (world.machine.twin nodeType)).1
          { World.twin nodeType world _ with
            machine := (twinCall (world.machine.twin nodeType)).2 })
      rw [called]
      exact .ok rfl (worlds.withMachine (kept _ narrow))

theorem goAlike_callHost {call : Host → α × Host} {twinCall : Host → β × Host}
    (same : ∀ host : Host, host.Narrow →
      twinCall (host.twin nodeType) = Prod.map f (Host.twin nodeType) (call host))
    (operated : ∀ host : Host, host.Operated (call host).2) :
    GoAlike nodeType (IsTwin f) (callHost call) (callHost twinCall) := by
  refine goAlike_callMachine (fun m narrow => ?_) fun m narrow => narrow.operated (operated m.host)
  change ((twinCall (m.host.twin nodeType)).1, Machine.mk (twinCall (m.host.twin nodeType)).2 _) = _
  rw [same m.host narrow]
  rfl

theorem goAlike_host :
    GoAlike nodeType (fun host other => other = host.twin nodeType ∧ host.Narrow)
      Script.host Script.host := by
  refine GoAlike.get.bind fun world other worlds => ?_
  cases worlds with
  | intro logs narrow portable => exact .pure ⟨rfl, narrow⟩

end Calls

structure ControlAlike (nodeType : Mode → String) (control other : Control) : Prop where
  runs : ∀ call,
    GoAlike nodeType Eq (control.runDestructor call) (other.runDestructor (call.twin nodeType))
  bound : other.flushBound = control.flushBound

variable {control other : Control}

theorem goAlike_finish :
    GoAlike nodeType (IsTwin (Continuation.twin nodeType)) (callMachine (·.finish))
      (callMachine (·.finish)) :=
  goAlike_callMachine (fun m _ => m.finish_twin nodeType)
    fun m narrow => narrow.operated (.finish m)

theorem goAlike_runStarted (controls : ControlAlike nodeType control other)
    (started : Option DestructorCall) :
    GoAlike nodeType Eq (runStarted control started)
      (runStarted other (started.map (DestructorCall.twin nodeType))) := by
  cases started with
  | none => exact .pure rfl
  | some call =>
      refine (controls.runs call).bind fun _ _ _ => ?_
      exact goAlike_finish.bind fun _ _ _ => .pure rfl

theorem goAlike_startDrop (h : Handle) :
    GoAlike nodeType (IsTwin (Option.map (DestructorCall.twin nodeType))) (startDrop h)
      (startDrop h.twin) := by
  unfold startDrop
  refine (goAlike_callMachine (fun m narrow => m.drop_twin nodeType narrow h)
    fun m narrow => narrow.operated (.drop m h)).bind ?_
  rintro outcome _ rfl
  cases outcome with
  | rejected fault => exact (goAlike_rejected fault).bind fun _ _ _ => .pure rfl
  | queued => exact .pure rfl
  | started call => exact .pure rfl

theorem goAlike_requestDrop (controls : ControlAlike nodeType control other) (h : Handle) :
    GoAlike nodeType Eq (requestDrop control h) (requestDrop other h.twin) := by
  refine (goAlike_startDrop h).bind ?_
  rintro started _ rfl
  exact goAlike_runStarted controls started

theorem goAlike_flushOn (controls : ControlAlike nodeType control other) (bound : Nat)
    (continuation : Continuation) :
    GoAlike nodeType Eq (flushOn control bound continuation)
      (flushOn other bound (continuation.twin nodeType)) := by
  induction bound generalizing continuation with
  | zero =>
      cases continuation with
      | flushed count => exact .pure rfl
      | started call => exact .throw (.same _)
      | dropped => exact .throw (.same _)
      | idle => exact .throw (.same _)
  | succ bound ih =>
      cases continuation with
      | flushed count => exact .pure rfl
      | started call =>
          refine (controls.runs call).bind fun _ _ _ => ?_
          refine goAlike_finish.bind ?_
          rintro next _ rfl
          exact ih next
      | dropped => exact .throw (.same _)
      | idle => exact .throw (.same _)

theorem goAlike_flush (controls : ControlAlike nodeType control other) :
    GoAlike nodeType Eq (Session.flush control) (Session.flush other) := by
  unfold Session.flush
  rw [controls.bound]
  refine (goAlike_callMachine (fun m _ => m.nextBatch_twin nodeType 0)
    fun m narrow => narrow.operated (.flush m)).bind ?_
  rintro continuation _ rfl
  exact goAlike_flushOn controls _ continuation

/-! ## Resources of the host -/

theorem goAlike_lend (mode : Mode) (name : String) :
    GoAlike nodeType (IsTwin (Host.answerTwin Handle.twin)) (lend mode name)
      (lend mode.other name) := by
  refine goAlike_callHost (fun host narrow => ?_) fun host => ?_
  · rw [narrow.lend_twin]
    cases host.lend mode name <;> rfl
  · cases lent : host.lend mode name with
    | ok success => exact .lend lent
    | error fault => exact .of_eq rfl rfl

theorem goAlike_releaseImport (h : Handle) :
    GoAlike nodeType Eq (releaseImport h) (releaseImport h.twin) := by
  unfold releaseImport
  refine (goAlike_callHost (fun host narrow => narrow.release_twin nodeType h)
    fun host => .release host h).bind ?_
  rintro answer _ rfl
  cases answer with
  | ok _ => exact .pure rfl
  | error fault => exact goAlike_rejected fault

theorem goAlike_dropCell (cell : Cell) :
    GoAlike nodeType Eq (dropCell cell) (dropCell cell.twin) := by
  unfold dropCell
  rw [cell.lost?_twin]
  cases cell.lost? with
  | none => exact .pure rfl
  | some h => exact goAlike_note (.lost h)

theorem goAlike_dropOwned {giveBack twinGiveBack : Handle → Script Unit}
    (gives : ∀ h, GoAlike nodeType Eq (giveBack h) (twinGiveBack h.twin)) (owned : OwnedImport) :
    GoAlike nodeType Eq (dropOwned giveBack owned) (dropOwned twinGiveBack owned.twin) := by
  have leaves : GoAlike nodeType Eq (dropCell owned.intoHandle.2.cell)
      (dropCell owned.intoHandle.2.twin.cell) := goAlike_dropCell owned.intoHandle.2.cell
  unfold dropOwned
  rw [owned.intoHandle_twin]
  dsimp only [Prod.map]
  rw [Handle.isValid_twin]
  split
  · exact (gives owned.handle).bind fun _ _ _ => leaves
  · exact leaves

theorem goAlike_dropImport (owned : OwnedImport) :
    GoAlike nodeType Eq (dropImport owned) (dropImport owned.twin) := by
  refine goAlike_dropOwned (fun h => ?_) owned
  exact (goAlike_emit (.released h)).bind fun _ _ _ => goAlike_releaseImport h

/-! ## Owners -/

theorem goAlike_register (mode : Mode) {object : Resource} (portable : object.IsPortable) :
    GoAlike nodeType (IsTwin Owner.twin) (register (nodeType mode) (nodeType mode) mode object)
      (register (nodeType mode.other) (nodeType mode.other) mode.other object.twin) := by
  unfold register
  refine GoAlike.bind (R := Eq) (.modifyGet fun world other worlds => ?_) ?_
  · rw [worlds.heap_eq, Guest.Heap.add_twin]
    exact ⟨rfl, worlds.withHeap (worlds.portable.add mode portable)⟩
  rintro id _ rfl
  refine (goAlike_callHost
    (fun host narrow => narrow.register_twin nodeType mode fun integer => ?_)
    fun host => .register host mode _).bind ?_
  · subst integer
    rfl
  rintro answer _ rfl
  cases answer with
  | ok h =>
      refine GoAlike.bind (R := Eq) (.modify fun world other worlds => ?_) fun _ _ _ => .pure rfl
      dsimp only
      rw [worlds.heap_eq, Guest.Heap.attach_twin]
      exact worlds.withHeap (worlds.portable.attach id h)
  | error fault =>
      exact (goAlike_rejected fault).bind fun _ _ _ => .throw (.panic (.typing _ mode _))

theorem goAlike_ownerHandle (owner : Owner) :
    GoAlike nodeType (IsTwin Handle.twin) (ownerHandle owner) (ownerHandle owner.twin) := by
  unfold ownerHandle
  refine GoAlike.get.bind fun world other worlds => ?_
  rw [owner.id_twin, worlds.get?_heap]
  cases world.heap.get? owner.id with
  | none => exact .throw (.same _)
  | some r => exact .pure rfl

theorem goAlike_isAlive (owner : Owner) :
    GoAlike nodeType Eq (isAlive owner) (isAlive owner.twin) := by
  refine GoAlike.get.bind fun world other worlds => .pure ?_
  rw [owner.id_twin, worlds.get?_heap, Option.isSome_map]

theorem goAlike_takeHandle (owner : Owner) :
    GoAlike nodeType (IsTwin Handle.twin) (takeHandle owner) (takeHandle owner.twin) := by
  unfold takeHandle
  refine GoAlike.get.bind fun world other worlds => ?_
  rw [owner.id_twin, worlds.heap_eq, Guest.Heap.takeHandle_twin]
  cases taken : world.heap.takeHandle owner.id with
  | none => exact .throw (.same _)
  | some success =>
      obtain ⟨h, heap⟩ := success
      refine GoAlike.bind (.set (worlds.withHeap ?_)) fun _ _ _ => .pure rfl
      exact worlds.portable.takeHandle taken

theorem outcomeAlike_reattach {heap : Guest.Heap Resource} (portable : HoldsPortable heap)
    (h : Handle) (id : Option Nat) :
    OutcomeAlike nodeType (fun after other => other = after.twin Resource.twin ∧ HoldsPortable after)
      (heap.reattach h id) ((heap.twin Resource.twin).reattach h.twin id) := by
  unfold Guest.Heap.reattach
  rw [Handle.isValid_twin]
  cases h.isValid with
  | false => exact .error (.same _)
  | true =>
      cases id with
      | none => exact .error (.same _)
      | some id =>
          simp only [Bool.not_true, Bool.false_eq_true, if_false, Guest.Heap.get?_twin]
          cases heap.get? id with
          | none => exact .error (.same _)
          | some r =>
              have attached : (r.twin Resource.twin).isAttached = r.isAttached :=
                r.handle.isValid_twin
              simp only [Option.map_some, attached]
              cases r.isAttached with
              | true => exact .error (.panic (.naming _ r.handle))
              | false =>
                  refine .ok ⟨?_, portable.attach id h⟩
                  exact heap.attach_twin Resource.twin id h

theorem goAlike_reattach (h : Handle) (id : Option Nat) :
    GoAlike nodeType (IsTwin Owner.twin) (reattach h id) (reattach h.twin id) := by
  unfold reattach
  refine GoAlike.get.bind fun world other worlds => ?_
  rw [worlds.heap_eq]
  refine (GoAlike.ofExcept (outcomeAlike_reattach worlds.portable h id)).bind ?_
  rintro heap _ ⟨rfl, portable⟩
  cases id with
  | none => exact .throw (.same _)
  | some id =>
      refine GoAlike.bind (.set (worlds.withHeap portable)) fun _ _ _ => .pure ?_
      simp [IsTwin, Owner.twin]

theorem goAlike_releaseOwner (owner : Owner) :
    GoAlike nodeType (IsTwin (Option.map (DestructorCall.twin nodeType))) (releaseOwner owner)
      (releaseOwner owner.twin) := by
  unfold releaseOwner
  refine GoAlike.get.bind fun world other worlds => ?_
  rw [owner.id_twin, worlds.get?_heap]
  cases world.heap.get? owner.id with
  | none => exact .pure rfl
  | some r =>
      refine (goAlike_takeHandle owner).bind ?_
      rintro h _ rfl
      rw [Handle.isValid_twin]
      cases h.isValid with
      | false => exact .pure rfl
      | true =>
          obtain ⟨handle, object⟩ := r
          cases object with
          | node object =>
              exact (goAlike_emit (.requested h)).bind fun _ _ _ => goAlike_startDrop h
          | probe children => exact goAlike_startDrop h

theorem goAlike_dropOwner (controls : ControlAlike nodeType control other) (owner : Owner) :
    GoAlike nodeType Eq (dropOwner control owner) (dropOwner other owner.twin) := by
  refine (goAlike_releaseOwner owner).bind ?_
  rintro started _ rfl
  exact goAlike_runStarted controls started

theorem goAlike_intoHandle (owner : Owner) :
    GoAlike nodeType (IsTwin (Prod.map Handle.twin (Option.map (DestructorCall.twin nodeType))))
      (intoHandle owner) (intoHandle owner.twin) := by
  refine (goAlike_takeHandle owner).bind ?_
  rintro h _ rfl
  refine (goAlike_releaseOwner owner).bind ?_
  rintro started _ rfl
  exact .pure rfl

theorem goAlike_consumeOwner (controls : ControlAlike nodeType control other) (owner : Owner) :
    GoAlike nodeType (IsTwin Handle.twin) (consumeOwner control owner)
      (consumeOwner other owner.twin) := by
  refine (goAlike_intoHandle owner).bind ?_
  rintro ⟨h, started⟩ _ rfl
  exact (goAlike_runStarted controls started).bind fun _ _ _ => .pure rfl

/-! ## Destructors -/

theorem goAlike_reclaim (id : Nat) :
    GoAlike nodeType (fun object twin => twin = object.twin ∧ object.IsPortable) (reclaim id)
      (reclaim id) := by
  unfold reclaim
  refine GoAlike.get.bind fun world other worlds => ?_
  rw [worlds.heap_eq, Guest.Heap.remove_twin]
  cases removed : world.heap.remove id with
  | none => exact .throw (.same _)
  | some success =>
      obtain ⟨object, heap⟩ := success
      obtain ⟨steps, portable⟩ := worlds.portable.remove removed
      exact GoAlike.bind (.set (worlds.withHeap portable)) fun _ _ _ => .pure ⟨rfl, steps⟩

variable {act twinAct : Step → Script Answer}

theorem goAlike_destroyNode (controls : ControlAlike nodeType control other)
    (acts : ∀ step, step.IsPortable →
      GoAlike nodeType (AnswerAlike nodeType) (act step) (twinAct step.twin))
    {node : Node} (portable : ArePortable node.onDrop) :
    GoAlike nodeType Eq (destroyNode control act node) (destroyNode other twinAct node.twin) := by
  unfold destroyNode
  refine (goAlike_emit (.destroyed node.label)).bind fun _ _ _ => ?_
  refine GoAlike.bind (R := Eq) ?_ fun _ _ _ => ?_
  · change GoAlike nodeType Eq _ ((twinsOf node.onDrop).forM _)
    rw [twinsOf_eq_map]
    refine .forM node.onDrop fun step member => ?_
    refine (acts step (arePortable_iff.1 portable step member)).bind fun _ _ answers => ?_
    exact goAlike_emit (.stepped node.label answers)
  refine GoAlike.bind (R := Eq) ?_ fun _ _ _ => ?_
  · exact .forM node.children fun owner _ => goAlike_dropOwner controls owner
  · exact .forM node.imports fun owned _ => goAlike_dropImport owned

theorem goAlike_destroy (controls : ControlAlike nodeType control other)
    (acts : ∀ step, step.IsPortable →
      GoAlike nodeType (AnswerAlike nodeType) (act step) (twinAct step.twin))
    (call : DestructorCall) :
    GoAlike nodeType Eq (destroy control act call)
      (destroy other twinAct (call.twin nodeType)) := by
  unfold destroy
  rw [call.destructor_twin, call.rep_twin]
  cases call.destructor with
  | note =>
      cases call.rep with
      | number value => exact goAlike_emit (.noted value)
      | registration id => exact .throw (.same _)
  | reclaim =>
      cases call.rep with
      | number value => exact .throw (.same _)
      | registration id =>
          refine (goAlike_reclaim id).bind ?_
          rintro object _ ⟨rfl, portable⟩
          cases object with
          | node node => exact goAlike_destroyNode controls acts portable
          | probe children =>
              exact .forM children fun owner _ => goAlike_dropOwner controls owner

end Scripts

end Custody.Session
