import Mathlib.Algebra.Order.Group.Multiset
import Custody.Session.Run
import Custody.Proofs.Session.Contents
import Custody.Proofs.Session.Scripts

/-!
# Handing imported handles over

A step that handles imported handles puts some in and moves some out, and a cell or an owner may go away
in it. What goes where can be read off the step, its answer and the events in it. A step is lawful when
all valid handles are accounted for, and only what goes away is reported as lost or given back.
-/

set_option autoImplicit false

namespace Custody

/-! ## What counts -/

namespace Guest

/-- The handle in a cell counts while it is valid. -/
def Cell.counted (cell : Cell) : Multiset Handle := if cell.isValid then {cell.handle} else 0

def OwnedImport.counted (owned : OwnedImport) : Multiset Handle := owned.cell.counted

theorem Cell.coe_lost? (cell : Cell) : (cell.lost?.toList : Multiset Handle) = cell.counted := by
  unfold lost? counted
  split <;> rfl

theorem Cell.coe_bind_lost? (gone : Option Cell) :
    ((gone.bind Cell.lost?).toList : Multiset Handle) = gone.elim 0 Cell.counted := by
  cases gone with
  | none => rfl
  | some cell => exact cell.coe_lost?

theorem OwnedImport.coe_bind_released? (gone : Option OwnedImport) :
    ((gone.bind OwnedImport.released?).toList : Multiset Handle) =
      gone.elim 0 OwnedImport.counted := by
  cases gone with
  | none => rfl
  | some owned => exact owned.cell.coe_lost?

theorem Cell.counted_of_invalid {cell : Cell} (invalid : cell.isValid = false) : cell.counted = 0 := by
  rw [counted, invalid]
  rfl

theorem Cell.fill_of_valid {cell : Cell} (valid : cell.isValid = true) (h : Handle) :
    cell.fill h = .error (.panic ("overwriting live imported handle " ++ cell.handle.text)) := by
  rw [fill, valid]
  rfl

theorem Cell.fill_of_invalid {cell : Cell} (invalid : cell.isValid = false) (h : Handle) :
    cell.fill h = .ok { handle := h } := by
  rw [fill, invalid]
  rfl

theorem Cell.assign_of_valid {cell : Cell} (valid : cell.isValid = true) (source : Cell) :
    cell.assign source =
      .error (.panic ("assigning over live imported handle " ++ cell.handle.text)) := by
  rw [assign, valid]
  rfl

theorem Cell.assign_of_invalid {cell : Cell} (invalid : cell.isValid = false) (source : Cell) :
    cell.assign source = .ok (source, .empty source.mode) := by
  rw [assign, invalid]
  rfl

@[simp]
theorem Cell.counted_empty (mode : Mode) : (Cell.empty mode).counted = 0 :=
  counted_of_invalid (Handle.isValid_invalid mode)

end Guest

namespace Session

open Guest (Cell OwnedImport)
open Script

/-- The steps that handle imported handles and nothing else. -/
def Step.handlesImports : Step → Bool
  | .newCell _ _ | .emptyCell _ _ | .inspectCell _ | .fillCell _ _ | .emptyOut _ _ | .takeCell _ _
  | .assignCell _ _ | .dropCell _ => true
  | .ownImport _ _ | .inspectImport _ | .transferImport _ _ | .dropImport _ => true
  | _ => false

/-- The handles in bare cells. -/
def World.bare (world : World) : Multiset Handle := world.cells.total Cell.counted

/-- The handles that have an owner. -/
def World.owned (world : World) : Multiset Handle := world.imports.total OwnedImport.counted

def HandleArg.value? (world : World) : HandleArg → Option Handle
  | .literal h => some h
  | .saved name => world.saved.get? name
  | .unreadable _ => none

def Event.lost? : Event → Option Handle
  | .notice (.lost h) => some h
  | _ => none

def Event.released? : Event → Option Handle
  | .released h => some h
  | _ => none

/-- A step that was taken, with the worlds before and after it. -/
structure Taken where
  before : World
  step : Step
  answer : Answer
  events : List Event
  after : World

namespace Taken

def ofStep (world : World) (step : Step) (answer : Answer) (after : World) : Taken :=
  { before := world, step, answer, events := after.takeLog.1, after := after.takeLog.2 }

def record (t : Taken) : Record :=
  { answer := t.answer, events := t.events, totals := .ofWorld t.after }

/-- What a step puts into a bare cell. -/
def bareIn (t : Taken) : Multiset Handle :=
  match t.step, t.answer with
  | .newCell _ arg, .done | .fillCell _ arg, .done =>
      (arg.value? t.before).elim 0 fun h => Cell.counted { handle := h }
  | _, _ => 0

def bareOut (t : Taken) : Multiset Handle :=
  match t.step, t.answer with
  | .emptyOut _ _, .handle h => Cell.counted { handle := h }
  | _, _ => 0

/-- What a step gives to an owner. -/
def ownedIn (t : Taken) : Multiset Handle :=
  match t.step, t.answer with
  | .ownImport _ arg, .done => (arg.value? t.before).elim 0 fun h => (OwnedImport.ofHandle h).counted
  | _, _ => 0

def ownedOut (t : Taken) : Multiset Handle :=
  match t.step, t.answer with
  | .transferImport _ _, .handle h => (OwnedImport.ofHandle h).counted
  | _, _ => 0

def lost (t : Taken) : List Handle := t.events.filterMap Event.lost?

def released (t : Taken) : List Handle := t.events.filterMap Event.released?

/-- The bare cell that goes away in a step. It is the one that was stored under a name before, the one
to be dropped, or the source of an assignment that panics. -/
def droppedCell? (t : Taken) : Option Cell :=
  match t.step, t.answer with
  | .newCell dst _, .done | .emptyCell dst _, .done => t.before.cells.get? dst
  -- a cell that is taken over itself leaves an empty one behind
  | .takeCell src dst, .done => if dst = src then none else t.before.cells.get? dst
  | .assignCell src _, .panicked _ => t.before.cells.get? src
  | .dropCell src, .done => t.before.cells.get? src
  | _, _ => none

/-- The owner that goes away in a step with whatever it has. -/
def droppedImport? (t : Taken) : Option OwnedImport :=
  match t.step, t.answer with
  | .ownImport dst _, .done => t.before.imports.get? dst
  | .dropImport src, .done => t.before.imports.get? src
  | _, _ => none

end Taken

/-! ## Runs with the worlds in between -/

def trace (act : Step → Script Answer) : World → List Step → Except Stop (List Taken × World)
  | world, [] => .ok ([], world)
  | world, step :: rest =>
      match act step world with
      | .error stop _ => .error stop
      | .ok answer after => do
          let (taken, last) ← trace act after.takeLog.2 rest
          return (.ofStep world step answer after :: taken, last)

theorem runFrom_eq_trace (act : Step → Script Answer) (world : World) (steps : List Step) :
    runFrom act world steps = (trace act world steps).map fun (taken, _) => taken.map Taken.record := by
  induction steps generalizing world with
  | nil => rfl
  | cons step rest ih =>
      rw [runFrom, trace]
      cases act step world with
      | error stop after => rfl
      | ok answer after =>
          dsimp only
          rw [ih after.takeLog.2]
          cases trace act after.takeLog.2 rest with
          | error stop => rfl
          | ok result => rfl

/-! ## What the scripts do -/

def lostEvents (gone : Option Cell) : List Event :=
  (gone.bind Cell.lost?).toList.map fun h => .notice (.lost h)

def returned (host : Host) (gone : Option OwnedImport) : Host :=
  ((gone.bind OwnedImport.released?).toList.foldl fun host h => (host.release h).2) host

def releaseEvents (host : Host) (gone : Option OwnedImport) : List Event :=
  match gone.bind OwnedImport.released? with
  | some h =>
      match (host.release h).1 with
      | .ok () => [.released h]
      | .error fault => [.notice (.rejected fault), .released h]
  | none => []

theorem dropCell_eq (cell : Cell) (world : World) :
    Session.dropCell cell world = .ok () { world with log := lostEvents (some cell) ++ world.log } := by
  unfold Session.dropCell lostEvents
  rw [Option.bind_some]
  cases cell.lost? with
  | none => rfl
  | some h => rfl

theorem putCell_eq (dst : String) (cell : Cell) (world : World) :
    putCell dst cell world =
      .ok ()
        { world with
          cells := world.cells.put dst cell
          log := lostEvents (world.cells.get? dst) ++ world.log } := by
  unfold putCell
  rw [get_bind]
  cases found : world.cells.get? dst with
  | none => rfl
  | some old => exact dropCell_eq old _

theorem dropImport_eq (owned : OwnedImport) (world : World) :
    Session.dropImport owned world =
      .ok ()
        { world with
          machine := { world.machine with host := returned world.machine.host (some owned) }
          log := releaseEvents world.machine.host (some owned) ++ world.log } := by
  unfold Session.dropImport returned releaseEvents
  rw [dropOwned_eq, Option.bind_some]
  cases owned.released? with
  | none => rfl
  | some h =>
      change releaseImport h { world with log := .released h :: world.log } = _
      unfold releaseImport
      rw [callHost_bind]
      dsimp only
      cases (world.machine.host.release h).1 with
      | ok nothing => rfl
      | error fault => rfl

theorem putImport_eq (dst : String) (owned : OwnedImport) (world : World) :
    putImport dst owned world =
      .ok ()
        { world with
          machine :=
            { world.machine with host := returned world.machine.host (world.imports.get? dst) }
          imports := world.imports.put dst owned
          log := releaseEvents world.machine.host (world.imports.get? dst) ++ world.log } := by
  unfold putImport
  rw [get_bind]
  cases found : world.imports.get? dst with
  | none => rfl
  | some old => exact dropImport_eq old _

theorem lost_lostEvents (gone : Option Cell) :
    (lostEvents gone).reverse.filterMap Event.lost? = (gone.bind Cell.lost?).toList := by
  unfold lostEvents
  cases gone.bind Cell.lost? <;> rfl

theorem released_lostEvents (gone : Option Cell) :
    (lostEvents gone).reverse.filterMap Event.released? = [] := by
  unfold lostEvents
  cases gone.bind Cell.lost? <;> rfl

theorem lost_releaseEvents (host : Host) (gone : Option OwnedImport) :
    (releaseEvents host gone).reverse.filterMap Event.lost? = [] := by
  unfold releaseEvents
  cases gone.bind OwnedImport.released? with
  | none => rfl
  | some h =>
      dsimp only
      cases (host.release h).1 <;> rfl

theorem released_releaseEvents (host : Host) (gone : Option OwnedImport) :
    (releaseEvents host gone).reverse.filterMap Event.released? =
      (gone.bind OwnedImport.released?).toList := by
  unfold releaseEvents
  cases gone.bind OwnedImport.released? with
  | none => rfl
  | some h =>
      dsimp only
      cases (host.release h).1 <;> rfl

/-! ## What one step does -/

/-- Between two steps names are distinct and all events were told. -/
structure World.Tidy (world : World) : Prop where
  cells_distinct : world.cells.Distinct
  imports_distinct : world.imports.Distinct
  told : world.log = []

/-- A step loses and gives back what goes away in it, and conserves every other handle. -/
structure Taken.Lawful (t : Taken) : Prop where
  bare_eq : t.before.bare + t.bareIn = t.after.bare + t.bareOut + t.lost
  owned_eq : t.before.owned + t.ownedIn = t.after.owned + t.ownedOut + t.released
  lost_eq : t.lost = (t.droppedCell?.bind Cell.lost?).toList
  released_eq : t.released = (t.droppedImport?.bind OwnedImport.released?).toList
  /-- The host is asked to take back the handles that are given back, and for nothing else. -/
  machine_eq : t.after.machine =
    { t.before.machine with
      host := t.released.foldl (fun host h => (host.release h).2) t.before.machine.host }
  /-- A step that panics leaves everything where it was, apart from the source of an assignment. -/
  panicked : ∀ message, t.answer = .panicked message →
    t.after.imports = t.before.imports ∧
      (t.after.cells = t.before.cells ∨
        ∃ src dst, t.step = .assignCell src dst ∧ t.after.cells = t.before.cells.erase src)
  tidy : t.after.Tidy

namespace Taken

variable {t : Taken}

/-- A step that only moves handles between bare cells, one of which may go away. -/
theorem lawful_of_cells (tidy : t.before.Tidy) {cells : Registers Cell} {saved : Registers Handle}
    (gone : Option Cell) (after : t.after = { t.before with cells, saved, log := [] })
    (told : t.events = (lostEvents gone ++ t.before.log).reverse) (distinct : cells.Distinct)
    {put out : Multiset Handle} (bareIn : t.bareIn = put) (bareOut : t.bareOut = out)
    (bare_eq : t.before.bare + put = cells.total Cell.counted + out + gone.elim 0 Cell.counted)
    (dropped : t.droppedCell?.bind Cell.lost? = gone.bind Cell.lost?) (ownedIn : t.ownedIn = 0)
    (ownedOut : t.ownedOut = 0) (kept : t.droppedImport? = none)
    (panicked : ∀ message, t.answer = .panicked message → cells = t.before.cells ∨
      ∃ src dst, t.step = .assignCell src dst ∧ cells = t.before.cells.erase src) :
    t.Lawful := by
  rw [tidy.told, List.append_nil] at told
  have lost : t.lost = (gone.bind Cell.lost?).toList := by
    rw [Taken.lost, told, lost_lostEvents]
  have released : t.released = [] := by rw [Taken.released, told, released_lostEvents]
  constructor
  case bare_eq => rw [bareIn, bareOut, bare_eq, lost, Cell.coe_bind_lost?, World.bare, after]
  case owned_eq =>
    rw [ownedIn, ownedOut, released, after, Multiset.coe_nil, add_zero, add_zero, add_zero]
    rfl
  case lost_eq => rw [lost, dropped]
  case released_eq => rw [released, kept]; rfl
  case machine_eq => rw [released, after]; rfl
  case panicked =>
    intro message answer
    rw [after]
    exact ⟨rfl, panicked message answer⟩
  case tidy =>
    rw [after]
    exact ⟨distinct, tidy.imports_distinct, rfl⟩

theorem lawful_of_imports (tidy : t.before.Tidy) {imports : Registers OwnedImport}
    {saved : Registers Handle} (gone : Option OwnedImport)
    (after : t.after =
      { t.before with
        machine := { t.before.machine with host := returned t.before.machine.host gone }
        imports
        saved
        log := [] })
    (told : t.events = (releaseEvents t.before.machine.host gone ++ t.before.log).reverse)
    (distinct : imports.Distinct) {put out : Multiset Handle} (ownedIn : t.ownedIn = put)
    (ownedOut : t.ownedOut = out)
    (owned_eq : t.before.owned + put =
      imports.total OwnedImport.counted + out + gone.elim 0 OwnedImport.counted)
    (dropped : t.droppedImport? = gone) (bareIn : t.bareIn = 0) (bareOut : t.bareOut = 0)
    (kept : t.droppedCell? = none) (calm : ∀ message, t.answer ≠ .panicked message) :
    t.Lawful := by
  rw [tidy.told, List.append_nil] at told
  have released : t.released = (gone.bind OwnedImport.released?).toList := by
    rw [Taken.released, told, released_releaseEvents]
  have lost : t.lost = [] := by rw [Taken.lost, told, lost_releaseEvents]
  constructor
  case bare_eq =>
    rw [bareIn, bareOut, lost, after, Multiset.coe_nil, add_zero, add_zero, add_zero]
    rfl
  case owned_eq =>
    rw [ownedIn, ownedOut, owned_eq, released, OwnedImport.coe_bind_released?, World.owned, after]
  case lost_eq => rw [lost, kept]; rfl
  case released_eq => rw [released, dropped]
  case machine_eq => rw [released, after]; rfl
  case panicked => exact fun message answer => absurd answer (calm message)
  case tidy =>
    rw [after]
    exact ⟨tidy.cells_distinct, distinct, rfl⟩

end Taken

end Session

end Custody
