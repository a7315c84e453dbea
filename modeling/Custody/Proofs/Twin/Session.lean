import Custody.Proofs.Twin.Script

/-!
# Sessions of the other representation

Running a session on a host of integers, and running its twin on the twin of the host, give the same
records up to the handles in them and up to how handles and node types are written in messages. Each
kind of step goes like its twin; destructors take steps, so this is carried through all levels of
nested destructors, and then along the steps of the session.
-/

set_option autoImplicit false

namespace Custody

theorem Mode.other_inj {m n : Mode} : m.other = n.other ↔ m = n := by
  cases m <;> cases n <;> decide

namespace Session

open Guest (Cell OwnedImport)
open Host (DestructorCall)
open Script

variable {nodeType : Mode → String} {control other : Control}

/-! ## Registers -/

theorem goAlike_saveHandle (dst : String) (h : Handle) :
    GoAlike nodeType Eq (saveHandle dst h) (saveHandle dst h.twin) := by
  refine .modify fun world twin worlds => ?_
  rw [worlds.saved_eq, Registers.put_map]
  exact worlds.withSaved _

theorem goAlike_putOwner (controls : ControlAlike nodeType control other) (dst : String)
    (owner : Owner) :
    GoAlike nodeType Eq (putOwner control dst owner) (putOwner other dst owner.twin) := by
  unfold putOwner
  refine GoAlike.get.bind fun world twin worlds => ?_
  rw [worlds.owners_eq, Registers.put_map, Registers.get?_map]
  refine GoAlike.bind (.set (worlds.withOwners _)) fun _ _ _ => ?_
  cases world.owners.get? dst with
  | none => exact .pure rfl
  | some old => exact goAlike_dropOwner controls old

theorem goAlike_putCell (dst : String) (cell : Cell) :
    GoAlike nodeType Eq (putCell dst cell) (putCell dst cell.twin) := by
  unfold putCell
  refine GoAlike.get.bind fun world twin worlds => ?_
  rw [worlds.cells_eq, Registers.put_map, Registers.get?_map]
  refine GoAlike.bind (.set (worlds.withCells _)) fun _ _ _ => ?_
  cases world.cells.get? dst with
  | none => exact .pure rfl
  | some old => exact goAlike_dropCell old

theorem goAlike_putImport (dst : String) (owned : OwnedImport) :
    GoAlike nodeType Eq (putImport dst owned) (putImport dst owned.twin) := by
  unfold putImport
  refine GoAlike.get.bind fun world twin worlds => ?_
  rw [worlds.imports_eq, Registers.put_map, Registers.get?_map]
  refine GoAlike.bind (.set (worlds.withImports _)) fun _ _ _ => ?_
  cases world.imports.get? dst with
  | none => exact .pure rfl
  | some old => exact goAlike_dropImport old

theorem goAlike_forgetOwner (src : String) :
    GoAlike nodeType Eq (modify fun world => { world with owners := world.owners.erase src })
      (modify fun world => { world with owners := world.owners.erase src }) := by
  refine .modify fun world twin worlds => ?_
  rw [worlds.owners_eq, Registers.erase_map]
  exact worlds.withOwners _

theorem goAlike_forgetCell (src : String) :
    GoAlike nodeType Eq (modify fun world => { world with cells := world.cells.erase src })
      (modify fun world => { world with cells := world.cells.erase src }) := by
  refine .modify fun world twin worlds => ?_
  rw [worlds.cells_eq, Registers.erase_map]
  exact worlds.withCells _

theorem goAlike_forgetImport (src : String) :
    GoAlike nodeType Eq (modify fun world => { world with imports := world.imports.erase src })
      (modify fun world => { world with imports := world.imports.erase src }) := by
  refine .modify fun world twin worlds => ?_
  rw [worlds.imports_eq, Registers.erase_map]
  exact worlds.withImports _

theorem goAlike_storeCell (dst : String) (cell : Cell) :
    GoAlike nodeType Eq (modify fun world => { world with cells := world.cells.put dst cell })
      (modify fun world => { world with cells := world.cells.put dst cell.twin }) := by
  refine .modify fun world twin worlds => ?_
  rw [worlds.cells_eq, Registers.put_map]
  exact worlds.withCells _

abbrev AnswersAlike (nodeType : Mode → String) (script twin : Script Answer) : Prop :=
  GoAlike nodeType (IsTwin Answer.twin) script twin

theorem GoAlike.answer {script twin : Script Unit} (alike : GoAlike nodeType Eq script twin)
    (answer : Answer) :
    AnswersAlike nodeType (do script; return answer) (do twin; return answer.twin) :=
  alike.bind fun _ _ _ => .pure rfl

theorem answersAlike_answerHandle (dst : String) (h : Handle) :
    AnswersAlike nodeType (do saveHandle dst h; return Answer.handle h)
      (do saveHandle dst h.twin; return Answer.handle h.twin) :=
  (goAlike_saveHandle dst h).answer (.handle h)

theorem answersAlike_withHandle (arg : HandleArg) {next twinNext : Handle → Script Answer}
    (nexts : ∀ h, AnswersAlike nodeType (next h) (twinNext h.twin)) :
    AnswersAlike nodeType (withHandle arg next) (withHandle arg.twin twinNext) := by
  cases arg with
  | literal h => exact nexts h
  | unreadable message => exact .throw (.same _)
  | saved name =>
      refine GoAlike.get.bind fun world twin worlds => ?_
      rw [worlds.saved_eq, Registers.get?_map]
      cases world.saved.get? name with
      | none => exact .pure rfl
      | some h => exact nexts h

theorem answersAlike_withOwner (src : String) {next twinNext : Owner → Script Answer}
    (nexts : ∀ owner, AnswersAlike nodeType (next owner) (twinNext owner.twin)) :
    AnswersAlike nodeType (withOwner src next) (withOwner src twinNext) := by
  unfold withOwner
  refine GoAlike.get.bind fun world twin worlds => ?_
  rw [worlds.owners_eq, Registers.get?_map]
  cases world.owners.get? src with
  | none => exact .pure rfl
  | some owner =>
      refine (goAlike_isAlive owner).bind ?_
      rintro alive _ rfl
      cases alive with
      | true => exact nexts owner
      | false => exact (goAlike_forgetOwner src).bind fun _ _ _ => .pure rfl

theorem answersAlike_withCell (src : String) {next twinNext : Cell → Script Answer}
    (nexts : ∀ cell, AnswersAlike nodeType (next cell) (twinNext cell.twin)) :
    AnswersAlike nodeType (withCell src next) (withCell src twinNext) := by
  unfold withCell
  refine GoAlike.get.bind fun world twin worlds => ?_
  rw [worlds.cells_eq, Registers.get?_map]
  cases world.cells.get? src with
  | none => exact .pure rfl
  | some cell => exact nexts cell

theorem answersAlike_withImport (src : String) {next twinNext : OwnedImport → Script Answer}
    (nexts : ∀ owned, AnswersAlike nodeType (next owned) (twinNext owned.twin)) :
    AnswersAlike nodeType (withImport src next) (withImport src twinNext) := by
  unfold withImport
  refine GoAlike.get.bind fun world twin worlds => ?_
  rw [worlds.imports_eq, Registers.get?_map]
  cases world.imports.get? src with
  | none => exact .pure rfl
  | some owned => exact nexts owned

/-! ## Nodes -/

namespace WorldAlike

variable {world twin : World}

theorem nodeAt?_eq (worlds : WorldAlike nodeType world twin) (id : Nat) :
    nodeAt? twin id = (nodeAt? world id).map (Prod.map Handle.twin Node.twin) := by
  unfold nodeAt?
  rw [worlds.get?_heap]
  cases world.heap.get? id with
  | none => rfl
  | some r =>
      obtain ⟨h, object⟩ := r
      cases object <;> rfl

theorem findNode?_eq (worlds : WorldAlike nodeType world twin) (label : String) (mode : Mode) :
    findNode? twin label mode.other = findNode? world label mode := by
  unfold findNode?
  rw [worlds.heap_eq]
  simp only [Guest.Heap.twin, Ledger.map, List.find?_map, Option.map_map]
  congr 1
  refine congrArg (List.find? · _) (funext fun entry => ?_)
  obtain ⟨id, h, object⟩ := entry
  cases object with
  | probe children => rfl
  | node node =>
      have modes : (h.mode.other == mode.other) = (h.mode == mode) := by
        rw [Bool.eq_iff_iff, beq_iff_eq, beq_iff_eq, Mode.other_inj]
      simp [Guest.Registration.twin, Guest.Registration.mode, Resource.twin, Node.twin, modes]

end WorldAlike

private theorem mapM_map {κ α β : Type} {find : κ → Option α} {other : κ → Option β} {f : α → β}
    (same : ∀ k, other k = (find k).map f) (names : List κ) :
    names.mapM other = (names.mapM find).map (List.map f) := by
  induction names with
  | nil => rfl
  | cons name rest ih =>
      simp only [List.mapM_cons, same, ih]
      cases find name with
      | none => rfl
      | some value => cases rest.mapM find <;> rfl

private theorem foldl_erase_map {α β : Type} (f : α → β) (names : List String) (r : Registers α) :
    names.foldl Registers.erase (r.map f) = (names.foldl Registers.erase r).map f := by
  induction names generalizing r with
  | nil => rfl
  | cons name rest ih =>
      exact (congrArg (List.foldl Registers.erase · rest) (r.erase_map f name)).trans (ih _)

namespace WorldAlike

variable {world twin : World}

theorem childrenIn?_eq (worlds : WorldAlike nodeType world twin) (mode : Mode)
    (names : List String) :
    childrenIn? twin mode.other names = (childrenIn? world mode names).map (List.map Owner.twin) := by
  unfold childrenIn?
  split
  · refine mapM_map (fun name => ?_) names
    rw [worlds.owners_eq, Registers.get?_map]
    cases world.owners.get? name with
    | none => rfl
    | some owner =>
        have present : (twin.heap.get? owner.twin.id).isSome = (world.heap.get? owner.id).isSome := by
          rw [owner.id_twin, worlds.get?_heap, Option.isSome_map]
        simp only [Option.map_some, Option.bind_eq_bind, Option.bind_some, present]
        have modes : owner.twin.mode = mode.other ↔ owner.mode = mode := Mode.other_inj
        simp only [modes]
        split <;> rfl
  · rfl

theorem importsIn?_eq (worlds : WorldAlike nodeType world twin) (mode : Mode)
    (names : List String) :
    importsIn? twin mode.other names =
      (importsIn? world mode names).map (List.map OwnedImport.twin) := by
  unfold importsIn?
  split
  · refine mapM_map (fun name => ?_) names
    rw [worlds.imports_eq, Registers.get?_map]
    cases world.imports.get? name with
    | none => rfl
    | some owned =>
        have modes : owned.twin.handle.mode = mode.other ↔ owned.handle.mode = mode := by
          change owned.handle.twin.mode = _ ↔ _
          rw [Handle.mode_twin, Mode.other_inj]
        simp only [Option.map_some, Option.bind_eq_bind, Option.bind_some, modes]
        split <;> rfl
  · rfl

end WorldAlike

theorem answersAlike_updateNode (id : Nat) {change twinChange : Node → Node}
    {present : NodeView → Answer} (changes : ∀ node, twinChange node.twin = (change node).twin)
    (steps : ∀ node, (change node).onDrop = node.onDrop)
    (views : ∀ view, present view.twin = (present view).twin) :
    AnswersAlike nodeType (updateNode id change present) (updateNode id twinChange present) := by
  unfold updateNode
  refine GoAlike.get.bind fun world twin worlds => ?_
  rw [worlds.nodeAt?_eq]
  cases found : nodeAt? world id with
  | none => exact .pure rfl
  | some place =>
      obtain ⟨h, node⟩ := place
      have here : world.heap.get? id = some { handle := h, object := .node node } := by
        unfold nodeAt? at found
        split at found
        · rename_i here
          cases found
          exact here
        · cases found
      have portable : ArePortable (change node).onDrop := by
        rw [steps]
        exact worlds.portable id _ here
      have kept := world.heap.put_twin Resource.twin id
        { handle := h, object := .node (change node) }
      refine GoAlike.bind (R := Eq) ?_ fun _ _ _ => .pure ?_
      · refine .set ?_
        rw [changes, worlds.heap_eq]
        have worlds := worlds.withHeap (worlds.portable.put here
          (r := { handle := h, object := .node (change node) }) portable)
        rw [← kept] at worlds
        exact worlds
      · rw [changes]
        exact views (viewOf h (change node))

theorem answersAlike_create (controls : ControlAlike nodeType control other) (dst : String)
    (mode : Mode) (node : Node) (portable : ArePortable node.onDrop)
    (children imports : List String) :
    AnswersAlike nodeType (create control nodeType dst mode node children imports)
      (create other nodeType dst mode.other node.twin children imports) := by
  unfold create
  refine GoAlike.get.bind fun world twin worlds => ?_
  rw [worlds.childrenIn?_eq, worlds.importsIn?_eq]
  cases childrenIn? world mode children with
  | none => cases importsIn? world mode imports <;> exact .pure rfl
  | some owners =>
      cases importsIn? world mode imports with
      | none => exact .pure rfl
      | some owned =>
          refine GoAlike.bind (R := Eq) ?_ fun _ _ _ => ?_
          · rw [worlds.owners_eq, worlds.imports_eq, foldl_erase_map, foldl_erase_map]
            exact .set ((worlds.withOwners (children.foldl Registers.erase world.owners)).withImports
              (imports.foldl Registers.erase world.imports))
          have steps :
              (Resource.node { node with children := owners, imports := owned }).IsPortable :=
            portable
          refine (goAlike_register mode steps).bind ?_
          rintro owner _ rfl
          refine (goAlike_ownerHandle owner).bind ?_
          rintro h _ rfl
          refine (goAlike_saveHandle dst h).bind fun _ _ _ => ?_
          exact (goAlike_putOwner controls dst owner).bind fun _ _ _ => .pure rfl

theorem answersAlike_chain (controls : ControlAlike nodeType control other) (dst : String)
    (mode : Mode) (missing made : Nat) (latest : Answer) :
    AnswersAlike nodeType (chain control nodeType dst mode missing made latest)
      (chain other nodeType dst mode.other missing made latest.twin) := by
  induction missing generalizing made latest with
  | zero => exact .pure rfl
  | succ missing ih =>
      refine (answersAlike_create controls dst mode (plainNode (dst ++ toString made)) trivial _
        []).bind ?_
      rintro latest _ rfl
      exact ih (made + 1) latest

theorem answersAlike_reattachNode (controls : ControlAlike nodeType control other) (dst : String)
    (h : Handle) (label : Option String) :
    AnswersAlike nodeType (reattachNode control dst h label)
      (reattachNode other dst h.twin label) := by
  have attach (id : Option Nat) :
      AnswersAlike nodeType
        (do
          let owner ← Session.reattach h id
          let attached ← ownerHandle owner
          putOwner control dst owner
          return Answer.handle attached)
        (do
          let owner ← Session.reattach h.twin id
          let attached ← ownerHandle owner
          putOwner other dst owner
          return Answer.handle attached) := by
    refine (goAlike_reattach h id).bind ?_
    rintro owner _ rfl
    refine (goAlike_ownerHandle owner).bind ?_
    rintro attached _ rfl
    exact (goAlike_putOwner controls dst owner).bind fun _ _ _ => .pure rfl
  unfold reattachNode
  cases label with
  | none => exact attach none
  | some label =>
      refine GoAlike.get.bind fun world twin worlds => ?_
      rw [Handle.mode_twin, worlds.findNode?_eq]
      cases findNode? world label h.mode with
      | none => exact .pure rfl
      | some id => exact attach (some id)

/-! ## Steps -/

theorem WorldAlike.repAnswer_eq {world twin : World} (worlds : WorldAlike nodeType world twin)
    (found : Except Host.Fault Host.Rep) :
    repAnswer twin (Host.answerTwin id found) = (repAnswer world found).twin := by
  cases found with
  | error fault => rfl
  | ok rep =>
      cases rep with
      | number value => rfl
      | registration id =>
          simp only [repAnswer, Host.answerTwin, id_eq, worlds.nodeAt?_eq]
          cases nodeAt? world id <;> rfl

/-! ### The host -/

theorem answersAlike_perform_memory (step : Memory.Step) :
    AnswersAlike nodeType (perform control nodeType (.memory step))
      (perform other nodeType (.memory step)) := by
  refine GoAlike.get.bind fun world twin worlds => ?_
  rw [worlds.workspace_eq]
  have outcomes :
      OutcomeAlike nodeType Eq (world.workspace.step step) (world.workspace.step step) := by
    cases world.workspace.step step with
    | ok success => exact .ok rfl
    | error stop => exact .error (.same stop)
  refine (GoAlike.ofExcept outcomes).bind ?_
  rintro ⟨answer, workspace⟩ _ rfl
  exact GoAlike.bind (.set (worlds.withWorkspace workspace)) fun _ _ _ => .pure rfl

/-- A host that is installed has a table for slots of 31 bits again. -/
theorem answersAlike_perform_install {config : HostConfig} (integer : config.mode = .integer)
    (small : config.maxHandles.toNat ≤ 2 ^ 31) :
    AnswersAlike nodeType (perform control nodeType (.install config))
      (perform other nodeType (.install config.twin)) := by
  refine (goAlike_callMachine (f := id) (fun m _ => ?_) fun m _ => ?_).bind fun _ _ _ => .pure rfl
  · change ((), Host.Machine.mk (Host.install config.twin) _) = _
    rw [← Host.twin_install nodeType]
    rfl
  · exact Host.narrow_install integer small

theorem answersAlike_perform_registerNumber (dst : String) (mode : Mode) (value : UInt64) :
    AnswersAlike nodeType (perform control nodeType (.registerNumber dst mode value))
      (perform other nodeType (.registerNumber dst mode.other value)) := by
  let call : DestructorCall := { rep := .number value, destructor := .note, typeName := "number" }
  have kept (_ : mode = .integer) : call = call.twin nodeType := rfl
  refine (goAlike_callHost (fun host narrow => narrow.register_twin nodeType mode kept)
    fun host => .register host mode call).bind ?_
  rintro answer _ rfl
  cases answer with
  | ok h => exact answersAlike_answerHandle dst h
  | error fault =>
      refine (goAlike_rejected fault).bind fun _ _ _ => ?_
      rw [← Handle.twin_invalid]
      exact answersAlike_answerHandle dst (.invalid mode)

theorem answersAlike_perform_lend (dst : String) (mode : Mode) (name : String) :
    AnswersAlike nodeType (perform control nodeType (.lend dst mode name))
      (perform other nodeType (.lend dst mode.other name)) := by
  refine (goAlike_lend mode name).bind ?_
  rintro answer _ rfl
  cases answer with
  | ok h => exact answersAlike_answerHandle dst h
  | error fault => exact .pure rfl

theorem answersAlike_perform_rep (arg : HandleArg) :
    AnswersAlike nodeType (perform control nodeType (.rep arg))
      (perform other nodeType (.rep arg.twin)) := by
  refine answersAlike_withHandle arg fun h => ?_
  refine GoAlike.get.bind fun world twin worlds => ?_
  refine goAlike_host.bind ?_
  rintro host _ ⟨rfl, narrow⟩
  rw [narrow.rep_twin]
  exact .pure (worlds.repAnswer_eq _)

/-! ### Owners -/

theorem answersAlike_perform_dropOwner (controls : ControlAlike nodeType control other)
    (src : String) :
    AnswersAlike nodeType (perform control nodeType (.dropOwner src))
      (perform other nodeType (.dropOwner src)) := by
  refine answersAlike_withOwner src fun owner => ?_
  refine (goAlike_forgetOwner src).bind fun _ _ _ => ?_
  exact (goAlike_dropOwner controls owner).answer .done

theorem answersAlike_perform_transfer (controls : ControlAlike nodeType control other)
    (src dst : String) :
    AnswersAlike nodeType (perform control nodeType (.transfer src dst))
      (perform other nodeType (.transfer src dst)) := by
  refine answersAlike_withOwner src fun owner => ?_
  refine (goAlike_forgetOwner src).bind fun _ _ _ => ?_
  refine (goAlike_consumeOwner controls owner).bind ?_
  rintro h _ rfl
  exact answersAlike_answerHandle dst h

theorem answersAlike_perform_detach (src dst : String) :
    AnswersAlike nodeType (perform control nodeType (.detach src dst))
      (perform other nodeType (.detach src dst)) := by
  refine answersAlike_withOwner src fun owner => ?_
  refine (goAlike_takeHandle owner).bind ?_
  rintro h _ rfl
  exact answersAlike_answerHandle dst h

theorem answersAlike_perform_borrow (arg : HandleArg) :
    AnswersAlike nodeType (perform control nodeType (.borrow arg))
      (perform other nodeType (.borrow arg.twin)) := by
  refine answersAlike_withHandle arg fun h => ?_
  refine goAlike_host.bind ?_
  rintro host _ ⟨rfl, narrow⟩
  rw [narrow.rep_twin]
  cases host.rep h with
  | error fault => exact .pure rfl
  | ok rep =>
      cases rep with
      | number value => exact .pure rfl
      | registration id =>
          exact answersAlike_updateNode id (fun _ => rfl) (fun _ => rfl) fun _ => rfl

/-! ### Cells -/

theorem outcomeAlike_fill (cell : Cell) (h : Handle) :
    OutcomeAlike nodeType (IsTwin Cell.twin) (cell.fill h) (cell.twin.fill h.twin) := by
  unfold Cell.fill
  rw [cell.isValid_twin]
  cases cell.isValid with
  | true => exact .error (.panic (.naming _ cell.handle))
  | false => exact .ok rfl

theorem answersAlike_perform_fillCell (src : String) (arg : HandleArg) :
    AnswersAlike nodeType (perform control nodeType (.fillCell src arg))
      (perform other nodeType (.fillCell src arg.twin)) := by
  refine answersAlike_withHandle arg fun h => ?_
  refine answersAlike_withCell src fun cell => ?_
  have modes : cell.twin.mode ≠ h.twin.mode ↔ cell.mode ≠ h.mode := by
    rw [cell.mode_twin, h.mode_twin, Ne, Mode.other_inj]
  simp only [modes]
  by_cases refused : cell.mode ≠ h.mode
  · rw [if_pos refused, if_pos refused]
    exact .pure rfl
  rw [if_neg refused, if_neg refused]
  refine (GoAlike.ofExcept (outcomeAlike_fill cell h)).bind ?_
  rintro filled _ rfl
  exact (goAlike_storeCell src filled).answer .done

theorem answersAlike_perform_emptyCell (dst : String) (mode : Mode) :
    AnswersAlike nodeType (perform control nodeType (.emptyCell dst mode))
      (perform other nodeType (.emptyCell dst mode.other)) := by
  have stored : GoAlike nodeType Eq (putCell dst (.empty mode)) (putCell dst (Cell.empty mode).twin) :=
    goAlike_putCell dst (.empty mode)
  rw [Cell.empty_twin] at stored
  exact stored.answer .done

theorem answersAlike_perform_emptyOut (src dst : String) :
    AnswersAlike nodeType (perform control nodeType (.emptyOut src dst))
      (perform other nodeType (.emptyOut src dst)) := by
  refine answersAlike_withCell src fun cell => ?_
  rw [cell.intoHandle_twin]
  refine (goAlike_storeCell src _).bind fun _ _ _ => ?_
  exact answersAlike_answerHandle dst cell.handle

theorem answersAlike_perform_takeCell (src dst : String) :
    AnswersAlike nodeType (perform control nodeType (.takeCell src dst))
      (perform other nodeType (.takeCell src dst)) := by
  refine answersAlike_withCell src fun cell => ?_
  unfold Cell.take
  rw [cell.intoHandle_twin]
  refine (goAlike_storeCell src _).bind fun _ _ _ => ?_
  exact (goAlike_putCell dst { handle := cell.handle }).answer .done

theorem outcomeAlike_assign (cell source : Cell) :
    OutcomeAlike nodeType (IsTwin (Prod.map Cell.twin Cell.twin)) (cell.assign source)
      (cell.twin.assign source.twin) := by
  unfold Cell.assign
  rw [cell.isValid_twin, source.intoHandle_twin]
  cases cell.isValid with
  | true => exact .error (.panic (.naming _ cell.handle))
  | false => exact .ok rfl

theorem answersAlike_assignCells (src dst : String) :
    AnswersAlike nodeType (assignCells src dst) (assignCells src dst) := by
  unfold assignCells
  refine GoAlike.get.bind fun world twin worlds => ?_
  rw [worlds.cells_eq, Registers.get?_map, Registers.get?_map]
  cases world.cells.get? src with
  | none => exact .pure rfl
  | some source =>
      cases world.cells.get? dst with
      | none => exact .pure rfl
      | some target =>
          have modes : source.twin.mode ≠ target.twin.mode ↔ source.mode ≠ target.mode := by
            rw [source.mode_twin, target.mode_twin, Ne, Mode.other_inj]
          simp only [Option.map_some, modes]
          by_cases refused : src = dst ∨ source.mode ≠ target.mode
          · rw [if_pos refused, if_pos refused]
            exact .pure rfl
          rw [if_neg refused, if_neg refused]
          refine (goAlike_forgetCell src).bind fun _ _ _ => ?_
          have outcomes : OutcomeAlike nodeType (IsTwin (Prod.map Cell.twin Cell.twin)) _ _ :=
            outcomeAlike_assign target source
          generalize target.assign source = outcome, target.twin.assign source.twin = twinOutcome
            at outcomes ⊢
          cases outcomes with
          | @ok assigned _ values =>
              obtain ⟨cell, left⟩ := assigned
              cases values
              refine (goAlike_storeCell dst cell).bind fun _ _ _ => ?_
              exact (goAlike_dropCell left).answer .done
          | error stops => exact (goAlike_dropCell source).bind fun _ _ _ => .throw stops

theorem answersAlike_perform_dropCell (src : String) :
    AnswersAlike nodeType (perform control nodeType (.dropCell src))
      (perform other nodeType (.dropCell src)) := by
  refine answersAlike_withCell src fun cell => ?_
  refine (goAlike_forgetCell src).bind fun _ _ _ => ?_
  exact (goAlike_dropCell cell).answer .done

/-! ### Owned handles -/

theorem answersAlike_perform_transferImport (src dst : String) :
    AnswersAlike nodeType (perform control nodeType (.transferImport src dst))
      (perform other nodeType (.transferImport src dst)) := by
  refine answersAlike_withImport src fun owned => ?_
  rw [owned.intoHandle_twin]
  refine (goAlike_forgetImport src).bind fun _ _ _ => ?_
  refine (goAlike_dropImport owned.intoHandle.2).bind fun _ _ _ => ?_
  exact answersAlike_answerHandle dst owned.handle

theorem answersAlike_perform_dropImport (src : String) :
    AnswersAlike nodeType (perform control nodeType (.dropImport src))
      (perform other nodeType (.dropImport src)) := by
  refine answersAlike_withImport src fun owned => ?_
  refine (goAlike_forgetImport src).bind fun _ _ _ => ?_
  exact (goAlike_dropImport owned).answer .done

/-! ### All steps -/

/-- A step that a twin can take goes like its twin. -/
theorem answersAlike_perform (controls : ControlAlike nodeType control other) {step : Step}
    (portable : step.IsPortable) :
    AnswersAlike nodeType (perform control nodeType step) (perform other nodeType step.twin) := by
  cases step with
  | memory step => exact answersAlike_perform_memory step
  | install config =>
      obtain ⟨integer, small⟩ := portable
      exact answersAlike_perform_install integer small
  | info | counters =>
      refine goAlike_host.bind ?_
      rintro host _ ⟨rfl, narrow⟩
      exact .pure rfl
  | flush =>
      refine (goAlike_flush controls).bind ?_
      rintro count _ rfl
      exact .pure rfl
  | faults =>
      refine (goAlike_callHost (fun host _ => host.takeFaults_twin nodeType)
        fun host => .of_eq rfl rfl).bind ?_
      rintro faults _ rfl
      exact .pure rfl
  | registerNumber dst mode value => exact answersAlike_perform_registerNumber dst mode value
  | lend dst mode name => exact answersAlike_perform_lend dst mode name
  | audit config imports => exact portable.elim
  | create dst mode label value onDrop children imports =>
      exact answersAlike_create controls dst mode { plainNode label with value, onDrop } portable
        children imports
  | chain dst mode depth => exact answersAlike_chain controls dst mode depth 0 .done
  | dropHandle arg =>
      exact answersAlike_withHandle arg fun h => (goAlike_requestDrop controls h).answer .done
  | releaseHandle arg =>
      exact answersAlike_withHandle arg fun h => (goAlike_releaseImport h).answer .done
  | rep arg => exact answersAlike_perform_rep arg
  | dropOwner src => exact answersAlike_perform_dropOwner controls src
  | inspectOwner src | setValue src value =>
      refine answersAlike_withOwner src fun owner => ?_
      exact answersAlike_updateNode owner.id (fun _ => rfl) (fun _ => rfl) fun _ => rfl
  | transfer src dst => exact answersAlike_perform_transfer controls src dst
  | detach src dst => exact answersAlike_perform_detach src dst
  | reattach dst arg label =>
      exact answersAlike_withHandle arg fun h => answersAlike_reattachNode controls dst h label
  | borrow arg => exact answersAlike_perform_borrow arg
  | newCell dst arg =>
      exact answersAlike_withHandle arg fun h => (goAlike_putCell dst { handle := h }).answer .done
  | emptyCell dst mode => exact answersAlike_perform_emptyCell dst mode
  | inspectCell src => exact answersAlike_withCell src fun cell => .pure rfl
  | fillCell src arg => exact answersAlike_perform_fillCell src arg
  | emptyOut src dst => exact answersAlike_perform_emptyOut src dst
  | takeCell src dst => exact answersAlike_perform_takeCell src dst
  | assignCell src dst => exact answersAlike_assignCells src dst
  | dropCell src => exact answersAlike_perform_dropCell src
  | ownImport dst arg =>
      exact answersAlike_withHandle arg fun h => (goAlike_putImport dst (.ofHandle h)).answer .done
  | inspectImport src => exact answersAlike_withImport src fun owned => .pure rfl
  | transferImport src dst => exact answersAlike_perform_transferImport src dst
  | dropImport src => exact answersAlike_perform_dropImport src
  | unknown => exact .pure rfl

/-! ## Runs -/

theorem goAlike_answerOf (controls : ControlAlike nodeType control other) {step : Step}
    (portable : step.IsPortable) :
    GoAlike nodeType (AnswerAlike nodeType) (answerOf control nodeType step)
      (answerOf other nodeType step.twin) := by
  refine (answersAlike_perform controls portable).attempt.bind ?_
  rintro result other (⟨answer, _, rfl, rfl, rfl⟩ | ⟨message, twin, rfl, rfl, wording⟩)
  · exact .pure (.twin answer)
  · exact .pure (.panicked wording)

theorem controlAlike_runDestructor (nodeType : Mode → String) (flushBound depth : Nat) :
    ControlAlike nodeType { runDestructor := runDestructor nodeType flushBound depth, flushBound }
      { runDestructor := runDestructor nodeType flushBound depth, flushBound } := by
  refine ⟨fun call => ?_, rfl⟩
  induction depth generalizing call with
  | zero => exact .throw (.same _)
  | succ depth ih =>
      have controls : ControlAlike nodeType
          { runDestructor := runDestructor nodeType flushBound depth, flushBound }
          { runDestructor := runDestructor nodeType flushBound depth, flushBound } := ⟨ih, rfl⟩
      exact goAlike_destroy controls (fun _ portable => goAlike_answerOf controls portable) call

structure RecordAlike (nodeType : Mode → String) (record other : Record) : Prop where
  answer : AnswerAlike nodeType record.answer other.answer
  events : List.Forall₂ (EventAlike nodeType) record.events other.events
  totals_eq : other.totals = record.totals

namespace WorldAlike

variable {world twin : World}

theorem totals_eq (worlds : WorldAlike nodeType world twin) :
    Totals.ofWorld twin = Totals.ofWorld world := by
  cases worlds with
  | intro logs narrow portable =>
      simp [Totals.ofWorld, World.twin, Host.Machine.twin, Host.twin, Host.live, Host.Table.size,
        Host.Table.map]

theorem takeLog (worlds : WorldAlike nodeType world twin) :
    List.Forall₂ (EventAlike nodeType) world.takeLog.1 twin.takeLog.1 ∧
      WorldAlike nodeType world.takeLog.2 twin.takeLog.2 := by
  cases worlds with
  | intro logs narrow portable => exact ⟨List.rel_reverse logs, .nil, narrow, portable⟩

end WorldAlike

theorem outcomeAlike_runFrom {act twinAct : Step → Script Answer}
    (acts : ∀ step, step.IsPortable →
      GoAlike nodeType (AnswerAlike nodeType) (act step) (twinAct step.twin))
    {world twin : World} (worlds : WorldAlike nodeType world twin) {steps : List Step}
    (portable : ArePortable steps) :
    OutcomeAlike nodeType (List.Forall₂ (RecordAlike nodeType)) (runFrom act world steps)
      (runFrom twinAct twin (steps.map Step.twin)) := by
  induction steps generalizing world twin with
  | nil => exact .ok .nil
  | cons step rest ih =>
      obtain ⟨here, there⟩ := portable
      have results := acts step here world twin worlds
      unfold runFrom
      rw [List.map_cons]
      dsimp only
      generalize act step world = result, twinAct step.twin twin = twinResult at results ⊢
      cases results with
      | error stops _ => exact .error stops
      | @ok answer _ after _ answers worlds =>
          obtain ⟨events, worlds⟩ := worlds.takeLog
          refine (ih worlds there).bind fun _ _ records => ?_
          exact .ok (.cons ⟨answers, events, worlds.totals_eq⟩ records)

theorem worldAlike_start {config : HostConfig} (integer : config.mode = .integer)
    (small : config.maxHandles.toNat ≤ 2 ^ 31) :
    WorldAlike nodeType (.start config) (.start config.twin) := by
  have machine : Host.Machine.start config.twin = (Host.Machine.start config).twin nodeType :=
    congrArg (Host.Machine.mk · []) (Host.twin_install nodeType config).symm
  unfold World.start
  rw [machine]
  exact ⟨.nil, Host.narrow_install integer small, fun id r present => by cases present⟩

/-- A session goes the same way with integers and with addresses. -/
theorem run_twin (nodeType : Mode → String) (config : HostConfig) (integer : config.mode = .integer)
    (small : config.maxHandles.toNat ≤ 2 ^ 31) {steps : List Step} (portable : ArePortable steps) :
    OutcomeAlike nodeType (List.Forall₂ (RecordAlike nodeType)) (run nodeType config steps)
      (run nodeType config.twin (steps.map Step.twin)) := by
  unfold run
  rw [← twinsOf_eq_map, registrationsOf_twins, twinsOf_eq_map]
  have controls := controlAlike_runDestructor nodeType (registrationsOf steps + 1)
    (registrationsOf steps + 1)
  exact outcomeAlike_runFrom (fun _ portable => goAlike_answerOf controls portable)
    (worldAlike_start integer small) portable

/-- A full table, a stale handle, a negative one, and a cell that is filled twice. -/
def rehearsal : List Step :=
  [ .create "leaf" .integer "leaf" 0 [.dropHandle (.literal (.integer 7)), .flush] [] [],
    .create "root" .integer "root" 1 [] ["leaf"] [],
    .create "third" .integer "third" 1 [] [] [],
    .newCell "cell" (.literal (.integer 1)),
    .fillCell "cell" (.literal (.integer 0)),
    .dropHandle (.literal (.integer (-5))),
    .dropOwner "root",
    .flush ]

def rehearsalByAddress : List Step :=
  [ .create "leaf" .pointer "leaf" 0 [.dropHandle (.literal (.pointer 8)), .flush] [] [],
    .create "root" .pointer "root" 1 [] ["leaf"] [],
    .create "third" .pointer "third" 1 [] [] [],
    .newCell "cell" (.literal (.pointer 2)),
    .fillCell "cell" (.literal (.pointer 1)),
    .dropHandle (.literal (.pointer 0)),
    .dropOwner "root",
    .flush ]

theorem rehearsal_run_twin :
    ∃ records others,
      run Mode.name { mode := .integer, maxHandles := 2, timing := .deferred } rehearsal =
        .ok records ∧
      run Mode.name { mode := .pointer, maxHandles := 2, timing := .deferred } rehearsalByAddress =
        .ok others ∧
      records.length = 8 ∧ List.Forall₂ (RecordAlike Mode.name) records others := by
  have portable : ArePortable rehearsal := by simp [rehearsal, ArePortable, Step.IsPortable]
  have steps : rehearsal.map Step.twin = rehearsalByAddress := by cbv
  have alike := run_twin Mode.name { mode := .integer, maxHandles := 2, timing := .deferred } rfl
    (by decide) portable
  rw [steps] at alike
  have played :
      (run Mode.name { mode := .integer, maxHandles := 2, timing := .deferred }
        rehearsal).toOption.map List.length = some 8 := by cbv
  generalize run Mode.name _ rehearsal = outcome at alike played ⊢
  change OutcomeAlike _ _ _ (run Mode.name
    { mode := .pointer, maxHandles := 2, timing := .deferred } rehearsalByAddress) at alike
  generalize run Mode.name _ rehearsalByAddress = other at alike ⊢
  cases alike with
  | error stops => cases played
  | ok alike => exact ⟨_, _, rfl, rfl, Option.some.inj played, alike⟩

end Session

end Custody
