import Mathlib.Data.List.Forall2
import Custody.Proofs.Guest.Places
import Custody.Proofs.Twin.Host
import Custody.Session.Run

/-!
# Worlds of the other representation

Whatever holds handles has a twin that holds the twins of these handles, and a step has a twin that
passes the twins of its literal handles. The twin of a world is the same world otherwise. Only texts
are not carried over by a function, because a message that was put together does not show the handle
in it any more: `Wording` relates two messages that differ in how one handle, or the name of one
node type, is written.
-/

set_option autoImplicit false

namespace Custody

/-! ## Containers -/

private theorem lookup_map {κ α β : Type} [BEq κ] (f : α → β) (entries : List (κ × α)) (k : κ) :
    (entries.map (Prod.map id f)).lookup k = (entries.lookup k).map f := by
  induction entries with
  | nil => rfl
  | cons entry rest ih =>
      obtain ⟨key, value⟩ := entry
      simp only [List.map_cons, Prod.map, id_eq, List.lookup_cons]
      split
      · rfl
      · exact ih

namespace Ledger

variable {α β : Type} (f : α → β)

private theorem ext {l m : Ledger α} (next : l.next = m.next) (entries : l.entries = m.entries) :
    l = m := by
  cases l
  cases m
  cases next
  cases entries
  rfl

def map (l : Ledger α) : Ledger β :=
  { next := l.next
    entries := l.entries.map (Prod.map id f)
    descending := by
      have numbers : (l.entries.map (Prod.map id f)).map Prod.fst = l.entries.map Prod.fst := by
        simp
      rw [numbers]
      exact l.descending }

theorem get?_map (l : Ledger α) (n : Nat) : (l.map f).get? n = (l.get? n).map f :=
  lookup_map f l.entries n

theorem replace_map (l : Ledger α) (n : Nat) (value : α) :
    (l.map f).replace n (f value) = (l.replace n value).map f := by
  refine ext rfl ?_
  change replaceIn n (f value) (l.entries.map _) = (replaceIn n value l.entries).map _
  induction l.entries with
  | nil => rfl
  | cons entry rest ih =>
      obtain ⟨k, kept⟩ := entry
      by_cases same : k = n
      · simp [replaceIn, same]
      · simp [replaceIn, same, ih]

theorem erase_map (l : Ledger α) (n : Nat) : (l.map f).erase n = (l.erase n).map f := by
  refine ext rfl ?_
  change (l.entries.map _).eraseP _ = (l.entries.eraseP _).map _
  rw [List.eraseP_map]
  rfl

end Ledger

namespace Registers

variable {α β : Type} (f : α → β)

def map (r : Registers α) : Registers β := { entries := r.entries.map (Prod.map id f) }

theorem get?_map (r : Registers α) (name : String) : (r.map f).get? name = (r.get? name).map f :=
  lookup_map f r.entries name

theorem put_map (r : Registers α) (name : String) (value : α) :
    (r.map f).put name (f value) = (r.put name value).map f := by
  refine congrArg mk ?_
  change putEntry name (f value) (r.entries.map _) = (putEntry name value r.entries).map _
  induction r.entries with
  | nil => rfl
  | cons entry rest ih =>
      obtain ⟨n, v⟩ := entry
      by_cases same : n = name
      · simp [putEntry, same]
      · simp [putEntry, same, ih]

theorem erase_map (r : Registers α) (name : String) :
    (r.map f).erase name = (r.erase name).map f := by
  simp only [erase, map, List.filter_map]
  rfl

end Registers

/-! ## Handles of a guest -/

namespace Guest

namespace Cell

def twin (cell : Cell) : Cell := { handle := cell.handle.twin }

theorem mode_twin (cell : Cell) : cell.twin.mode = cell.mode.other := cell.handle.mode_twin

theorem isValid_twin (cell : Cell) : cell.twin.isValid = cell.isValid := cell.handle.isValid_twin

theorem empty_twin (mode : Mode) : (empty mode).twin = empty mode.other := by
  simp [empty, twin]

theorem intoHandle_twin (cell : Cell) :
    cell.twin.intoHandle = Prod.map Handle.twin twin cell.intoHandle := by
  unfold intoHandle
  rw [mode_twin, ← empty_twin]
  rfl

theorem lost?_twin (cell : Cell) : cell.twin.lost? = cell.lost?.map Handle.twin := by
  unfold lost?
  rw [isValid_twin]
  cases cell.isValid <;> rfl

end Cell

namespace OwnedImport

def twin (owned : OwnedImport) : OwnedImport := { cell := owned.cell.twin }

theorem intoHandle_twin (owned : OwnedImport) :
    owned.twin.intoHandle = Prod.map Handle.twin twin owned.intoHandle := by
  change (owned.cell.twin.intoHandle.1, OwnedImport.mk owned.cell.twin.intoHandle.2) = _
  rw [owned.cell.intoHandle_twin]
  rfl

end OwnedImport

section Heaps

variable {ρ : Type} (f : ρ → ρ)

def Registration.twin (r : Registration ρ) : Registration ρ :=
  { handle := r.handle.twin, object := f r.object }

def Heap.twin (heap : Heap ρ) : Heap ρ := { places := heap.places.map (Registration.twin f) }

namespace Heap

theorem get?_twin (heap : Heap ρ) (id : Nat) :
    (heap.twin f).get? id = (heap.get? id).map (Registration.twin f) :=
  heap.places.get?_map _ id

theorem add_twin (heap : Heap ρ) (mode : Mode) (object : ρ) :
    (heap.twin f).add mode.other (f object) = Prod.map id (twin f) (heap.add mode object) := by
  have registration : ({ handle := .invalid mode.other, object := f object } : Registration ρ) =
      Registration.twin f { handle := .invalid mode, object } := by
    simp [Registration.twin]
  unfold add
  rw [registration]
  rfl

theorem put_twin (heap : Heap ρ) (id : Nat) (r : Registration ρ) :
    (heap.twin f).put id (r.twin f) = (heap.put id r).twin f :=
  congrArg mk (heap.places.replace_map _ id r)

theorem attach_twin (heap : Heap ρ) (id : Nat) (h : Handle) :
    (heap.twin f).attach id h.twin = (heap.attach id h).twin f := by
  unfold attach
  rw [get?_twin]
  cases heap.get? id with
  | none => rfl
  | some r => exact put_twin f heap id { r with handle := h }

theorem takeHandle_twin (heap : Heap ρ) (id : Nat) :
    (heap.twin f).takeHandle id = (heap.takeHandle id).map (Prod.map Handle.twin (twin f)) := by
  unfold takeHandle
  rw [get?_twin]
  cases heap.get? id with
  | none => rfl
  | some r =>
      have detached : ({ r.twin f with handle := .invalid (r.twin f).mode } : Registration ρ) =
          Registration.twin f { r with handle := .invalid r.mode } := by
        simp [Registration.twin, Registration.mode]
      simp only [Option.map_some, detached, put_twin]
      rfl

theorem remove_twin (heap : Heap ρ) (id : Nat) :
    (heap.twin f).remove id = (heap.remove id).map (Prod.map f (twin f)) := by
  unfold remove
  rw [get?_twin]
  cases heap.get? id with
  | none => rfl
  | some r =>
      have erased := heap.places.erase_map (Registration.twin f) id
      simp only [Option.map_some, twin, erased]
      rfl

end Heap

end Heaps

end Guest

/-! ## Sessions -/

namespace Session

open Guest (Cell OwnedImport)

def HandleArg.twin : HandleArg → HandleArg
  | .literal h => .literal h.twin
  | .saved name => .saved name
  | .unreadable message => .unreadable message

mutual

def Step.twin : Step → Step
  | .memory step => .memory step
  | .install config => .install config.twin
  | .info => .info
  | .flush => .flush
  | .faults => .faults
  | .counters => .counters
  | .registerNumber dst mode value => .registerNumber dst mode.other value
  | .dropHandle h => .dropHandle h.twin
  | .releaseHandle h => .releaseHandle h.twin
  | .rep h => .rep h.twin
  | .lend dst mode name => .lend dst mode.other name
  | .audit config imports => .audit config imports
  | .create dst mode label value onDrop children imports =>
      .create dst mode.other label value (twinsOf onDrop) children imports
  | .chain dst mode depth => .chain dst mode.other depth
  | .dropOwner src => .dropOwner src
  | .inspectOwner src => .inspectOwner src
  | .setValue src value => .setValue src value
  | .transfer src dst => .transfer src dst
  | .detach src dst => .detach src dst
  | .reattach dst h label => .reattach dst h.twin label
  | .borrow h => .borrow h.twin
  | .newCell dst h => .newCell dst h.twin
  | .emptyCell dst mode => .emptyCell dst mode.other
  | .inspectCell src => .inspectCell src
  | .fillCell src h => .fillCell src h.twin
  | .emptyOut src dst => .emptyOut src dst
  | .takeCell src dst => .takeCell src dst
  | .assignCell src dst => .assignCell src dst
  | .dropCell src => .dropCell src
  | .ownImport dst h => .ownImport dst h.twin
  | .inspectImport src => .inspectImport src
  | .transferImport src dst => .transferImport src dst
  | .dropImport src => .dropImport src
  | .unknown => .unknown

def twinsOf : List Step → List Step
  | [] => []
  | step :: rest => step.twin :: twinsOf rest

end

mutual

/-- A step that knows hosts of integers only, and no audit. So must the steps be that it leaves to
the destructor of a node. -/
def Step.IsPortable : Step → Prop
  | .install config => config.mode = .integer ∧ config.maxHandles.toNat ≤ 2 ^ 31
  | .audit _ _ => False
  | .create _ _ _ _ onDrop _ _ => ArePortable onDrop
  | _ => True

def ArePortable : List Step → Prop
  | [] => True
  | step :: rest => step.IsPortable ∧ ArePortable rest

end

theorem twinsOf_eq_map (steps : List Step) : twinsOf steps = steps.map Step.twin := by
  induction steps with
  | nil => rfl
  | cons step rest ih => exact congrArg (step.twin :: ·) ih

theorem arePortable_iff {steps : List Step} :
    ArePortable steps ↔ ∀ step ∈ steps, step.IsPortable := by
  induction steps with
  | nil => simp [ArePortable]
  | cons step rest ih => simp [ArePortable, ih]

mutual

theorem registrations_twin (step : Step) : step.twin.registrations = step.registrations := by
  cases step with
  | create dst mode label value onDrop children imports =>
      exact congrArg (· + 1) (registrationsOf_twins onDrop)
  | _ => rfl

theorem registrationsOf_twins (steps : List Step) :
    registrationsOf (twinsOf steps) = registrationsOf steps := by
  cases steps with
  | nil => rfl
  | cons step rest =>
      exact congrArg₂ (· + ·) (registrations_twin step) (registrationsOf_twins rest)

end

def Owner.twin (owner : Owner) : Owner := { owner with mode := owner.mode.other }

theorem Owner.id_twin (owner : Owner) : owner.twin.id = owner.id := rfl

def Node.twin (node : Node) : Node :=
  { node with
    onDrop := twinsOf node.onDrop
    children := node.children.map Owner.twin
    imports := node.imports.map OwnedImport.twin }

def Resource.twin : Resource → Resource
  | .node object => .node object.twin
  | .probe children => .probe (children.map Owner.twin)

def Resource.IsPortable : Resource → Prop
  | .node object => ArePortable object.onDrop
  | .probe _ => True

/-! ### Answers and events -/

def NodeView.twin (view : NodeView) : NodeView := { view with handle := view.handle.twin }

def Answer.twin : Answer → Answer
  | .done => .done
  | .refused reason => .refused reason
  | .panicked message => .panicked message
  | .fault f => .fault f.twin
  | .memory a => .memory a
  | .settings mode timing => .settings mode.other timing
  | .count n => .count n
  | .faults fs => .faults (fs.map Host.Fault.twin)
  | .counters c => .counters c
  | .handle h => .handle h.twin
  | .label l => .label l
  | .report r => .report { r with mode := r.mode.other }
  | .node view => .node view.twin
  | .borrowed view => .borrowed view.twin
  | .cell c => .cell c.twin
  | .ownedImport o => .ownedImport o.twin

def Notice.twin : Notice → Notice
  | .lost h => .lost h.twin
  | .rejected fault => .rejected fault.twin
  | .discarded faults => .discarded faults
  | .failed check iteration detail => .failed check iteration detail

section Relations

variable (nodeType : Mode → String)

/-- Messages that differ at most in a handle at the end, or in the name of a node type. -/
inductive Wording : String → String → Prop where
  | same (message : String) : Wording message message
  | naming (front : String) (h : Handle) : Wording (front ++ h.text) (front ++ h.twin.text)
  | typing (front : String) (mode : Mode) (back : String) :
      Wording (front ++ nodeType mode ++ back) (front ++ nodeType mode.other ++ back)

inductive StopAlike : Stop → Stop → Prop where
  | same (stop : Stop) : StopAlike stop stop
  | panic {message other : String} (wording : Wording nodeType message other) :
      StopAlike (.panic message) (.panic other)

inductive AnswerAlike : Answer → Answer → Prop where
  | twin (answer : Answer) : AnswerAlike answer answer.twin
  | panicked {message other : String} (wording : Wording nodeType message other) :
      AnswerAlike (.panicked message) (.panicked other)

inductive EventAlike : Event → Event → Prop where
  | requested (h : Handle) : EventAlike (.requested h) (.requested h.twin)
  | destroyed (label : String) : EventAlike (.destroyed label) (.destroyed label)
  | noted (value : UInt64) : EventAlike (.noted value) (.noted value)
  | released (h : Handle) : EventAlike (.released h) (.released h.twin)
  | stepped (label : String) {answer other : Answer} (alike : AnswerAlike nodeType answer other) :
      EventAlike (.stepped label answer) (.stepped label other)
  | notice (notice : Notice) : EventAlike (.notice notice) (.notice notice.twin)

/-! ### Worlds -/

/-- The twin of a world, with events of its own. -/
def World.twin (world : World) (log : List Event) : World :=
  { machine := world.machine.twin nodeType
    heap := world.heap.twin Resource.twin
    workspace := world.workspace
    owners := world.owners.map Owner.twin
    cells := world.cells.map Cell.twin
    imports := world.imports.map OwnedImport.twin
    saved := world.saved.map Handle.twin
    log }

def HoldsPortable (heap : Guest.Heap Resource) : Prop :=
  ∀ id r, heap.get? id = some r → r.object.IsPortable

/-- A world of integers and a world of addresses in the same state. The host must be able to name
its slots by integers, and nodes must not have taken steps with them that a twin cannot take. -/
inductive WorldAlike (world : World) : World → Prop where
  | intro {log : List Event} (logs : List.Forall₂ (EventAlike nodeType) world.log log)
      (narrow : world.machine.host.Narrow) (portable : HoldsPortable world.heap) :
      WorldAlike world (world.twin nodeType log)

end Relations

/-! ### Heaps with steps that a twin can take -/

variable {heap : Guest.Heap Resource}

theorem HoldsPortable.add (portable : HoldsPortable heap) (mode : Mode) {object : Resource}
    (steps : object.IsPortable) : HoldsPortable (heap.add mode object).2 := by
  intro id r present
  rw [heap.get?_add mode object id] at present
  split at present
  · cases present
    exact steps
  · exact portable id r present

theorem HoldsPortable.put (portable : HoldsPortable heap) {id : Nat}
    {old r : Guest.Registration Resource} (present : heap.get? id = some old)
    (steps : r.object.IsPortable) : HoldsPortable (heap.put id r) := by
  intro other found here
  rw [Guest.Heap.get?_put present r other] at here
  split at here
  · cases here
    exact steps
  · exact portable other found here

theorem HoldsPortable.attach (portable : HoldsPortable heap) (id : Nat) (h : Handle) :
    HoldsPortable (heap.attach id h) := by
  cases present : heap.get? id with
  | none =>
      unfold Guest.Heap.attach
      rw [present]
      exact portable
  | some r =>
      rw [Guest.Heap.attach_eq present]
      exact portable.put present (portable id r present)

theorem HoldsPortable.takeHandle (portable : HoldsPortable heap) {id : Nat} {h : Handle}
    {after : Guest.Heap Resource} (taken : heap.takeHandle id = some (h, after)) :
    HoldsPortable after := by
  cases present : heap.get? id with
  | none => simp [Guest.Heap.takeHandle, present] at taken
  | some r =>
      rw [Guest.Heap.takeHandle_eq present] at taken
      cases taken
      exact portable.put present (portable id r present)

theorem HoldsPortable.remove (portable : HoldsPortable heap) {id : Nat} {object : Resource}
    {after : Guest.Heap Resource} (removed : heap.remove id = some (object, after)) :
    object.IsPortable ∧ HoldsPortable after := by
  unfold Guest.Heap.remove at removed
  cases present : heap.get? id with
  | none => simp [present] at removed
  | some r =>
      obtain ⟨left, taken, look⟩ := Guest.Heap.remove_of_get? present
      unfold Guest.Heap.remove at taken
      rw [present] at removed taken
      cases removed
      cases taken
      refine ⟨portable id r present, fun other found here => ?_⟩
      rw [look other] at here
      split at here
      · cases here
      · exact portable other found here

end Session

end Custody
