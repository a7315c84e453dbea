import Custody.Proofs.Audit.Bounds

/-!
# Programs of destructors

Every step of a session settles on the registrations that it is counted for: a program may create
nodes, let go of owners, flush, work in memory and run the audit, and it comes to an end. So do the
programs of nodes, whatever the nodes that they create are to do in turn.
-/

set_option autoImplicit false

namespace Custody

namespace Session

open Guest (Cell OwnedImport)
open Script

variable {special : Bool} {room cost : Nat} {control other : Control} {nodeType : Mode → String}
  {world : World}

/-! ## Registers -/

section Registers

variable {calm : Bool}

theorem settles_saveHandle (dst : String) (h : Handle) :
    Settles special room calm 0 (saveHandle dst h) (saveHandle dst h) :=
  fun _ => .aside rfl rfl rfl trivial

theorem settles_forgetOwner (src : String) :
    Settles special room calm 0
      (modify fun world => { world with owners := world.owners.erase src })
      (modify fun world => { world with owners := world.owners.erase src }) :=
  fun _ => .aside rfl rfl rfl trivial

theorem settles_forgetCell (src : String) :
    Settles special room calm 0
      (modify fun world => { world with cells := world.cells.erase src })
      (modify fun world => { world with cells := world.cells.erase src }) :=
  fun _ => .aside rfl rfl rfl trivial

theorem settles_forgetImport (src : String) :
    Settles special room calm 0
      (modify fun world => { world with imports := world.imports.erase src })
      (modify fun world => { world with imports := world.imports.erase src }) :=
  fun _ => .aside rfl rfl rfl trivial

theorem settles_storeCell (dst : String) (cell : Cell) :
    Settles special room calm 0
      (modify fun world => { world with cells := world.cells.put dst cell })
      (modify fun world => { world with cells := world.cells.put dst cell }) :=
  fun _ => .aside rfl rfl rfl trivial

theorem settles_answerHandle (dst : String) (h : Handle) :
    Settles special room calm cost
      (saveHandle dst h >>= fun _ => pure (Answer.handle h))
      (saveHandle dst h >>= fun _ => pure (Answer.handle h)) :=
  (settles_saveHandle dst h).andThen fun _ => .pure _

theorem settles_putOwner (controls : Suffices special room control other) (dst : String)
    (owner : Owner) :
    Settles special room calm 0 (putOwner control dst owner) (putOwner other dst owner) := by
  intro world
  unfold putOwner
  apply SettlesAt.get
  refine SettlesAt.set rfl rfl ?_
  cases world.owners.get? dst with
  | none => exact .pure trivial
  | some old => exact (settles_dropOwner controls old).weaken (Nat.le_refl 0) _

theorem settles_putCell (dst : String) (cell : Cell) :
    Settles special room calm 0 (putCell dst cell) (putCell dst cell) := by
  intro world
  unfold putCell
  apply SettlesAt.get
  refine SettlesAt.set rfl rfl ?_
  cases world.cells.get? dst with
  | none => exact .pure trivial
  | some old => exact settles_dropCell old _

theorem settles_putImport (dst : String) (owned : OwnedImport) :
    Settles special room calm 0 (putImport dst owned) (putImport dst owned) := by
  intro world
  unfold putImport
  apply SettlesAt.get
  refine SettlesAt.set rfl rfl ?_
  cases world.imports.get? dst with
  | none => exact .pure trivial
  | some old => exact settles_dropImport old _

end Registers

/-! ## Arguments -/

section Arguments

theorem settles_withHandle (arg : HandleArg) {next otherNext : Handle → Script Answer}
    (nexts : ∀ h, Settles special room false cost (next h) (otherNext h)) :
    Settles special room false cost (withHandle arg next) (withHandle arg otherNext) := by
  intro world
  cases arg with
  | literal h => exact nexts h world
  | unreadable message => exact .panic message
  | saved name =>
      unfold withHandle
      apply SettlesAt.get
      cases world.saved.get? name with
      | none => exact .pure trivial
      | some h => exact nexts h world

/-- An owner that is found in a register has its object on the heap. -/
theorem settles_withOwner (src : String) {next otherNext : Owner → Script Answer}
    (nexts : ∀ owner world r, world.heap.get? owner.id = some r →
      SettlesAt special room false cost (fun _ _ => True) (next owner) (otherNext owner)
        ⟨world, none⟩) :
    Settles special room false cost (withOwner src next) (withOwner src otherNext) := by
  intro world
  unfold withOwner
  apply SettlesAt.get
  cases world.owners.get? src with
  | none => exact .pure trivial
  | some owner =>
      have looks : SettlesAt special room false 0
          (fun alive now => now = world ∧ alive = (world.heap.get? owner.id).isSome)
          (isAlive owner) (isAlive owner) ⟨world, none⟩ := .pure ⟨rfl, rfl⟩
      apply looks.andThen
      rintro _ now ⟨rfl, rfl⟩
      cases present : now.heap.get? owner.id with
      | some r => exact nexts owner now r present
      | none => exact (settles_forgetOwner src).andThen (fun _ => .pure _) now

theorem settles_withCell (src : String) {next otherNext : Cell → Script Answer}
    (nexts : ∀ cell, Settles special room false cost (next cell) (otherNext cell)) :
    Settles special room false cost (withCell src next) (withCell src otherNext) := by
  intro world
  unfold withCell
  apply SettlesAt.get
  cases world.cells.get? src with
  | none => exact .pure trivial
  | some cell => exact nexts cell world

theorem settles_withImport (src : String) {next otherNext : OwnedImport → Script Answer}
    (nexts : ∀ owned, Settles special room false cost (next owned) (otherNext owned)) :
    Settles special room false cost (withImport src next) (withImport src otherNext) := by
  intro world
  unfold withImport
  apply SettlesAt.get
  cases world.imports.get? src with
  | none => exact .pure trivial
  | some owned => exact nexts owned world

end Arguments

/-! ## Nodes -/

theorem settlesAt_updateNode (id : Nat) {change : Node → Node} {present : NodeView → Answer}
    (steps : ∀ node, (change node).onDrop = node.onDrop) :
    SettlesAt special room false cost (fun _ _ => True) (updateNode id change present)
      (updateNode id change present) ⟨world, none⟩ := by
  unfold updateNode
  apply SettlesAt.get
  cases found : nodeAt? world id with
  | none => exact .pure trivial
  | some place =>
      obtain ⟨h, node⟩ := place
      have here : world.heap.get? id = some { handle := h, object := .node node } := by
        unfold nodeAt? at found
        split at found
        · rename_i here
          cases found
          exact here
        · cases found
      have changed : SettlesAt special room false 0 (fun _ _ => True)
          (set { world with heap := world.heap.put id { handle := h, object := .node (change node) } })
          (set { world with heap := world.heap.put id { handle := h, object := .node (change node) } })
          ⟨world, none⟩ :=
        .of_ok rfl (fun _ => course_revise here (steps node)) rfl trivial
      exact changed.andThen fun _ _ _ => .pure trivial

theorem settles_keepOwner (controls : Suffices special room control other) (dst : String)
    (owner : Owner) (answer : Answer) :
    Settles special room false cost (putOwner control dst owner >>= fun _ => pure answer)
      (putOwner other dst owner >>= fun _ => pure answer) :=
  (settles_putOwner controls dst owner).andThen fun _ => .pure _

theorem settles_create (controls : Suffices special room control other) (dst : String) (mode : Mode)
    {node : Node} (admitted : special = false → AreOrdinary node.onDrop)
    (children imports : List String) :
    Settles special room false (registrationsOf node.onDrop + 1)
      (create control nodeType dst mode node children imports)
      (create other nodeType dst mode node children imports) := by
  intro world
  unfold create
  apply SettlesAt.get
  cases childrenIn? world mode children with
  | none => cases importsIn? world mode imports <;> exact .pure trivial
  | some owners =>
      cases importsIn? world mode imports with
      | none => exact .pure trivial
      | some owned =>
          refine SettlesAt.set rfl rfl ?_
          let object : Resource := .node { node with children := owners, imports := owned }
          have registers :=
            @settlesAt_register _ room (nodeType mode) (nodeType mode) mode object admitted
          refine (registers _).bind ?_ (Nat.le_of_eq (Nat.add_zero _))
          rintro owner now ⟨_, r, present⟩
          apply (settlesAt_ownerHandle present).andThen
          intro h now _
          apply (settles_saveHandle dst h now).andThen
          intro _ now _
          exact settles_keepOwner controls dst owner _ now

/-- Each link of a chain is paid for by itself. -/
theorem settles_chain (controls : Suffices special room control other) (dst : String) (mode : Mode)
    (missing : Nat) :
    ∀ made latest, Settles special room false missing
      (chain control nodeType dst mode missing made latest)
      (chain other nodeType dst mode missing made latest) := by
  induction missing with
  | zero => exact fun _ latest => .pure latest
  | succ missing ih =>
      intro made latest
      have link := @settles_create _ _ _ _ nodeType controls dst mode
        (plainNode (dst ++ toString made)) (fun _ => trivial)
        (if made = 0 then [] else [dst]) []
      apply link.bind (fun latest => ih (made + 1) latest)
      simp only [plainNode, registrationsOf]
      omega

theorem get?_of_findNode? {label : String} {mode : Mode} {id : Nat}
    (found : findNode? world label mode = some id) : ∃ r, world.heap.get? id = some r := by
  unfold findNode? at found
  obtain ⟨⟨_, r⟩, here, rfl⟩ := Option.map_eq_some_iff.1 found
  rw [← Option.isSome_iff_exists]
  exact List.lookup_isSome_iff.2 ⟨_, List.mem_of_find?_eq_some here, beq_self_eq_true _⟩

theorem settles_reattachNode (controls : Suffices special room control other) (dst : String)
    (h : Handle) (label : Option String) :
    Settles special room false cost (reattachNode control dst h label)
      (reattachNode other dst h label) := by
  intro world
  unfold reattachNode
  cases label with
  | none =>
      apply (settlesAt_reattach_none h).andThen
      intro _ _ absent
      exact absent.elim
  | some label =>
      apply SettlesAt.get
      cases found : findNode? world label h.mode with
      | none => exact .pure trivial
      | some id =>
          obtain ⟨r, present⟩ := get?_of_findNode? found
          apply (settlesAt_reattach h present).andThen
          rintro owner now ⟨r, present⟩
          apply (settlesAt_ownerHandle present).andThen
          intro attached now _
          exact settles_keepOwner controls dst owner _ now

/-! ## Steps -/

/-! ### The host -/

theorem settles_perform_memory (step : Memory.Step) :
    Settles true room false cost (perform control nodeType (.memory step))
      (perform other nodeType (.memory step)) := by
  intro world
  apply SettlesAt.get
  apply (settlesAt_ofExcept (world.workspace.step_unexhausted step) world).andThen
  rintro ⟨answer, workspace⟩ _ ⟨_, rfl⟩
  refine SettlesAt.set rfl rfl ?_
  exact .pure trivial

theorem settles_perform_install (config : HostConfig) :
    Settles true room false cost (perform control nodeType (.install config))
      (perform other nodeType (.install config)) := by
  have asked : Settles true room false 0 (callMachine fun m => ((), m.install config))
      (callMachine fun m => ((), m.install config)) :=
    settles_ask (.install config) trivial nofun (fun _ => rfl) (fun _ => Nat.le_refl 0)
      fun _ => ⟨rfl, rfl⟩
  exact asked.andThen fun _ => .pure _

theorem settles_perform_registerNumber (dst : String) (mode : Mode) (value : UInt64) :
    Settles special room false 1 (perform control nodeType (.registerNumber dst mode value))
      (perform other nodeType (.registerNumber dst mode value)) := by
  let call := noting "number" value
  have asked : Settles special room false 1 (callHost (·.register mode call))
      (callHost (·.register mode call)) :=
    settles_askHost (.register mode call) ⟨_, _, rfl⟩ rfl (fun _ => rfl)
      (fun _ => Option.length_toList_le) fun _ => rfl
  refine asked.bind (fun answer => ?_) (Nat.le_of_eq (Nat.add_zero 1))
  cases answer with
  | ok h => exact settles_answerHandle dst h
  | error fault =>
      apply (settles_rejected fault).andThen
      intro _
      exact settles_answerHandle dst (.invalid mode)

theorem settles_perform_lend (dst : String) (mode : Mode) (name : String) :
    Settles special room false cost (perform control nodeType (.lend dst mode name))
      (perform other nodeType (.lend dst mode name)) := by
  apply (settles_lend mode name).andThen
  intro answer
  cases answer with
  | ok h => exact settles_answerHandle dst h
  | error fault => exact .pure _

theorem settles_perform_dropHandle (controls : Suffices special room control other)
    (arg : HandleArg) :
    Settles special room false cost (perform control nodeType (.dropHandle arg))
      (perform other nodeType (.dropHandle arg)) := by
  apply settles_withHandle arg
  intro h
  exact ((settles_requestDrop controls h).weaken (Nat.le_refl 0)).andThen fun _ => .pure _

/-! ### Owners -/

theorem settles_perform_dropOwner (controls : Suffices special room control other) (src : String) :
    Settles special room false cost (perform control nodeType (.dropOwner src))
      (perform other nodeType (.dropOwner src)) := by
  apply settles_withOwner src
  intro owner world _ _
  apply (settles_forgetOwner src _).andThen
  intro _ now _
  exact ((settles_dropOwner controls owner).weaken (Nat.le_refl 0)).andThen (fun _ => .pure _) now

theorem settles_perform_transfer (src dst : String) :
    Settles special room false cost (perform control nodeType (.transfer src dst))
      (perform other nodeType (.transfer src dst)) := by
  apply settles_withOwner src
  intro owner world r present
  have forgotten : SettlesAt special room false 0 (fun _ now => now.heap = world.heap)
      (modify fun world => { world with owners := world.owners.erase src })
      (modify fun world => { world with owners := world.owners.erase src }) ⟨world, none⟩ :=
    .aside rfl rfl rfl rfl
  apply forgotten.andThen
  intro _ now heap_eq
  rw [← heap_eq] at present
  apply (settlesAt_consumeOwner control other present).andThen
  intro h now _
  exact settles_answerHandle dst h now

theorem settles_perform_detach (src dst : String) :
    Settles special room false cost (perform control nodeType (.detach src dst))
      (perform other nodeType (.detach src dst)) := by
  apply settles_withOwner src
  intro owner world r present
  apply (settlesAt_takeHandle present).andThen
  intro h now _
  exact settles_answerHandle dst h now

theorem settles_perform_borrow (arg : HandleArg) :
    Settles special room false cost (perform control nodeType (.borrow arg))
      (perform other nodeType (.borrow arg)) := by
  apply settles_withHandle arg
  intro h
  apply settles_host.andThen
  intro host
  cases host.rep h with
  | error fault => exact .pure _
  | ok rep =>
      cases rep with
      | number value => exact .pure _
      | registration id => exact fun _ => settlesAt_updateNode id fun _ => rfl

/-! ### Cells -/

theorem settles_perform_fillCell (src : String) (arg : HandleArg) :
    Settles special room false cost (perform control nodeType (.fillCell src arg))
      (perform other nodeType (.fillCell src arg)) := by
  apply settles_withHandle arg
  intro h
  apply settles_withCell src
  intro cell
  split
  · exact .pure _
  · unfold Cell.fill
    cases cell.isValid with
    | true => exact fun _ => .panic _
    | false => exact (settles_storeCell src _).andThen fun _ => .pure _

theorem settles_perform_emptyOut (src dst : String) :
    Settles special room false cost (perform control nodeType (.emptyOut src dst))
      (perform other nodeType (.emptyOut src dst)) := by
  apply settles_withCell src
  intro cell
  apply (settles_storeCell src _).andThen
  intro _
  exact settles_answerHandle dst cell.handle

theorem settles_perform_takeCell (src dst : String) :
    Settles special room false cost (perform control nodeType (.takeCell src dst))
      (perform other nodeType (.takeCell src dst)) := by
  apply settles_withCell src
  intro cell
  apply (settles_storeCell src _).andThen
  intro _
  exact (settles_putCell dst { handle := cell.handle }).andThen fun _ => .pure _

/-- The cell that is moved goes away, with its handle when the assignment is refused. -/
theorem settles_assignCells (src dst : String) :
    Settles special room false cost (assignCells src dst) (assignCells src dst) := by
  intro world
  unfold assignCells
  apply SettlesAt.get
  cases world.cells.get? src with
  | none => exact .pure trivial
  | some source =>
      cases world.cells.get? dst with
      | none => exact .pure trivial
      | some target =>
          dsimp only
          split
          · exact .pure trivial
          · apply (settles_forgetCell src _).andThen
            intro _ now _
            unfold Cell.assign
            cases target.isValid with
            | true => exact (settles_dropCell source).andThen (fun _ _ => .panic _) now
            | false =>
                apply (settles_storeCell dst _ now).andThen
                intro _ now _
                exact (settles_dropCell _).andThen (fun _ => .pure _) now

theorem settles_perform_dropCell (src : String) :
    Settles special room false cost (perform control nodeType (.dropCell src))
      (perform other nodeType (.dropCell src)) := by
  apply settles_withCell src
  intro cell
  apply (settles_forgetCell src).andThen
  intro _
  exact (settles_dropCell cell).andThen fun _ => .pure _

/-! ### Owned handles -/

theorem settles_perform_transferImport (src dst : String) :
    Settles special room false cost (perform control nodeType (.transferImport src dst))
      (perform other nodeType (.transferImport src dst)) := by
  apply settles_withImport src
  intro owned
  apply (settles_forgetImport src).andThen
  intro _
  apply (settles_dropImport owned.intoHandle.2).andThen
  intro _
  exact settles_answerHandle dst owned.handle

theorem settles_perform_dropImport (src : String) :
    Settles special room false cost (perform control nodeType (.dropImport src))
      (perform other nodeType (.dropImport src)) := by
  apply settles_withImport src
  intro owned
  apply (settles_forgetImport src).andThen
  intro _
  exact (settles_dropImport owned).andThen fun _ => .pure _

/-! ### All steps -/

/-- A step settles on the registrations that it is counted for. -/
theorem settles_perform (controls : Suffices special room control other) (step : Step)
    (ordinary : special = false → step.IsOrdinary) :
    Settles special room false step.registrations (perform control nodeType step)
      (perform other nodeType step) := by
  cases step with
  | memory step =>
      obtain rfl : special = true := Bool.eq_true_of_not_eq_false ordinary
      exact settles_perform_memory step
  | audit config imports =>
      obtain rfl : special = true := Bool.eq_true_of_not_eq_false ordinary
      exact (Audit.settles_run controls config imports).bind (fun report => .pure _)
        (Nat.le_of_eq (Nat.add_zero _))
  | install config =>
      obtain rfl : special = true := Bool.eq_true_of_not_eq_false ordinary
      exact settles_perform_install config
  | info => exact settles_host.andThen fun _ => .pure _
  | counters => exact settles_host.andThen fun _ => .pure _
  | flush => exact ((settles_flush controls).weaken (Nat.le_refl 0)).andThen fun _ => .pure _
  | faults => exact settles_takeFaults.andThen fun _ => .pure _
  | registerNumber dst mode value => exact settles_perform_registerNumber dst mode value
  | lend dst mode name => exact settles_perform_lend dst mode name
  | create dst mode label value onDrop children imports =>
      exact @settles_create _ _ _ _ nodeType controls dst mode { plainNode label with value, onDrop }
        ordinary children imports
  | chain dst mode depth => exact settles_chain controls dst mode depth 0 .done
  | dropHandle arg => exact settles_perform_dropHandle controls arg
  | releaseHandle arg =>
      exact settles_withHandle arg fun h => (settles_releaseImport h).andThen fun _ => .pure _
  | rep arg => exact settles_withHandle arg fun h world => .pure trivial
  | dropOwner src => exact settles_perform_dropOwner controls src
  | inspectOwner src | setValue src value =>
      exact settles_withOwner src fun owner _ _ _ => settlesAt_updateNode owner.id fun _ => rfl
  | transfer src dst => exact settles_perform_transfer src dst
  | detach src dst => exact settles_perform_detach src dst
  | reattach dst arg label =>
      exact settles_withHandle arg fun h => settles_reattachNode controls dst h label
  | borrow arg => exact settles_perform_borrow arg
  | newCell dst arg =>
      exact settles_withHandle arg fun h => (settles_putCell dst _).andThen fun _ => .pure _
  | emptyCell dst mode => exact (settles_putCell dst (.empty mode)).andThen fun _ => .pure _
  | inspectCell src => exact settles_withCell src fun cell => .pure _
  | fillCell src arg => exact settles_perform_fillCell src arg
  | emptyOut src dst => exact settles_perform_emptyOut src dst
  | takeCell src dst => exact settles_perform_takeCell src dst
  | assignCell src dst => exact settles_assignCells src dst
  | dropCell src => exact settles_perform_dropCell src
  | ownImport dst arg =>
      exact settles_withHandle arg fun h => (settles_putImport dst _).andThen fun _ => .pure _
  | inspectImport src => exact settles_withImport src fun owned => .pure _
  | transferImport src dst => exact settles_perform_transferImport src dst
  | dropImport src => exact settles_perform_dropImport src
  | unknown => exact .pure _

theorem stepsSettle_answerOf (nodeType : Mode → String)
    (controls : Suffices special room control other) :
    StepsSettle special room (answerOf control nodeType) (answerOf other nodeType) := by
  intro step ordinary
  refine (settles_perform controls step ordinary).attempt.bind (fun result => ?_)
    (Nat.le_of_eq (Nat.add_zero _))
  cases result with
  | ok answer => exact .pure _
  | error message => exact .pure _

end Session

end Custody
