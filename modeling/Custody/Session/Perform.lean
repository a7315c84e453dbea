import Custody.Audit.Run

/-!
# Performing steps

What each step of a session does. A step that stores something over a value in use stores first and
drops the old value then, so that whatever runs while it is dropped finds the new one.
-/

set_option autoImplicit false

namespace Custody.Session

open Guest (Cell OwnedImport)
open Host (DestructorCall)
open Script

/-! ## Registers -/

def saveHandle (dst : String) (h : Handle) : Script Unit :=
  modify fun world => { world with saved := world.saved.put dst h }

def putOwner (control : Control) (dst : String) (owner : Owner) : Script Unit := do
  let world ← get
  set { world with owners := world.owners.put dst owner }
  match world.owners.get? dst with
  | some old => dropOwner control old
  | none => pure ()

def putCell (dst : String) (cell : Cell) : Script Unit := do
  let world ← get
  set { world with cells := world.cells.put dst cell }
  match world.cells.get? dst with
  | some old => Session.dropCell old
  | none => pure ()

def putImport (dst : String) (owned : OwnedImport) : Script Unit := do
  let world ← get
  set { world with imports := world.imports.put dst owned }
  match world.imports.get? dst with
  | some old => Session.dropImport old
  | none => pure ()

def withHandle (arg : HandleArg) (next : Handle → Script Answer) : Script Answer := do
  match arg with
  | .literal h => next h
  | .saved name =>
      match (← get).saved.get? name with
      | some h => next h
      | none => return .refused .noSuchHandle
  | .unreadable message => throw (.panic message)

/-- Goes on with the owner in a register, as long as its node is there. An owner whose node was
destroyed is forgotten. -/
def withOwner (src : String) (next : Owner → Script Answer) : Script Answer := do
  match (← get).owners.get? src with
  | none => return .refused .noSuchOwner
  | some owner =>
      if ← isAlive owner then next owner
      else
        modify fun world => { world with owners := world.owners.erase src }
        return .refused .nodeDestroyed

def withCell (src : String) (next : Cell → Script Answer) : Script Answer := do
  match (← get).cells.get? src with
  | some cell => next cell
  | none => return .refused .noSuchHandle

def withImport (src : String) (next : OwnedImport → Script Answer) : Script Answer := do
  match (← get).imports.get? src with
  | some owned => next owned
  | none => return .refused .noSuchImport

/-! ## Nodes -/

/-- The node at a place on the heap, with the handle of its owner. -/
def nodeAt? (world : World) (id : Nat) : Option (Handle × Node) :=
  match world.heap.get? id with
  | some { handle, object := .node node } => some (handle, node)
  | _ => none

def viewOf (h : Handle) (node : Node) : NodeView :=
  { handle := h, label := node.label, value := node.value, hits := node.hits }

def updateNode (id : Nat) (change : Node → Node) (present : NodeView → Answer) : Script Answer := do
  let world ← get
  match nodeAt? world id with
  | some (handle, node) =>
      let node := change node
      set { world with heap := world.heap.put id { handle, object := .node node } }
      return present (viewOf handle node)
  | none => return .refused .notANode

def findNode? (world : World) (label : String) (mode : Mode) : Option Nat :=
  let found := world.heap.places.entries.find? fun (_, r) =>
    match r.object with
    | .node node => node.label == label && r.mode == mode
    | .probe _ => false
  found.map Prod.fst

/-- The owners in some registers, if all of them can be given to a node of a mode. -/
def childrenIn? (world : World) (mode : Mode) (names : List String) : Option (List Owner) :=
  if names.Nodup then
    names.mapM fun name => do
      let owner ← world.owners.get? name
      if owner.mode = mode ∧ (world.heap.get? owner.id).isSome then some owner else none
  else none

def importsIn? (world : World) (mode : Mode) (names : List String) :
    Option (List OwnedImport) :=
  if names.Nodup then
    names.mapM fun name => do
      let owned ← world.imports.get? name
      if owned.handle.mode = mode then some owned else none
  else none

def create (control : Control) (nodeType : Mode → String) (dst : String) (mode : Mode)
    (node : Node) (children imports : List String) : Script Answer := do
  let world ← get
  match childrenIn? world mode children, importsIn? world mode imports with
  | some owners, some owned =>
      set { world with
        owners := children.foldl Registers.erase world.owners
        imports := imports.foldl Registers.erase world.imports }
      let owner ← register (nodeType mode) (nodeType mode) mode
        (.node { node with children := owners, imports := owned })
      let h ← ownerHandle owner
      saveHandle dst h
      putOwner control dst owner
      return .handle h
  | _, _ => return .refused .partNotAvailable

def plainNode (label : String) : Node :=
  { label, value := 0, hits := 0, onDrop := [], children := [], imports := [] }

/-- Registers a chain of nodes under one name, counting labels on. Each node after the first takes
the owner of the one before out of the register, so the register is empty while a node is
registered, and what was there before the chain goes away once the first node is stored. -/
def chain (control : Control) (nodeType : Mode → String) (dst : String) (mode : Mode) :
    (missing made : Nat) → (latest : Answer) → Script Answer
  | 0, _, latest => pure latest
  | missing + 1, made, _ => do
      let children := if made = 0 then [] else [dst]
      let latest ← create control nodeType dst mode (plainNode (dst ++ toString made)) children []
      chain control nodeType dst mode missing (made + 1) latest

/-- Attaches a new owner to the node with a label, or to nothing. -/
def reattachNode (control : Control) (dst : String) (h : Handle) (label : Option String) :
    Script Answer := do
  let attach := fun (id : Option Nat) => do
    let owner ← Session.reattach h id
    let attached ← ownerHandle owner
    putOwner control dst owner
    return Answer.handle attached
  match label with
  | none => attach none
  | some label =>
      match findNode? (← get) label h.mode with
      | some id => attach (some id)
      | none => return .refused .noSuchNode

/-! ## Steps -/

/-- What the host stores behind a handle, as an answer: the label of a node, or a number. -/
def repAnswer (world : World) : Except Host.Fault Host.Rep → Answer
  | .error fault => .fault fault
  | .ok (.number value) => .count value.toNat
  | .ok (.registration id) =>
      match nodeAt? world id with
      | some (_, node) => .label node.label
      | none => .refused .notANode

/-- Moves a cell over another one. The moved cell goes away, with its handle if that is refused. -/
def assignCells (src dst : String) : Script Answer := do
  let world ← get
  match world.cells.get? src, world.cells.get? dst with
  | some source, some target =>
      if src = dst ∨ source.mode ≠ target.mode then return .refused .noSuchHandle
      else
        modify fun world => { world with cells := world.cells.erase src }
        match target.assign source with
        | .ok (target, left) =>
            modify fun world => { world with cells := world.cells.put dst target }
            Session.dropCell left
            return .done
        | .error stop =>
            Session.dropCell source
            throw stop
  | _, _ => return .refused .noSuchHandle

def perform (control : Control) (nodeType : Mode → String) : Step → Script Answer
  | .memory step => do
      let world ← get
      let (answer, workspace) ← Script.ofExcept (world.workspace.step step)
      set { world with workspace }
      return .memory answer
  | .install config => do
      callMachine fun machine => ((), machine.install config)
      return .done
  | .info => do
      let config := (← host).config
      return .settings config.mode config.timing
  | .flush => do return .count (← flush control)
  | .faults => do return .faults (← callHost Host.takeFaults)
  | .counters => do return .counters (← host).counters
  | .registerNumber dst mode value => do
      let call : DestructorCall :=
        { rep := .number value, destructor := .note, typeName := "number" }
      match ← callHost (·.register mode call) with
      | .ok h =>
          saveHandle dst h
          return .handle h
      | .error fault =>
          rejected fault
          saveHandle dst (.invalid mode)
          return .handle (.invalid mode)
  | .dropHandle arg =>
      withHandle arg fun h => do
        requestDrop control h
        return .done
  | .releaseHandle arg =>
      withHandle arg fun h => do
        releaseImport h
        return .done
  | .rep arg =>
      withHandle arg fun h => do return repAnswer (← get) ((← host).rep h)
  | .lend dst mode name => do
      match ← lend mode name with
      | .ok h =>
          saveHandle dst h
          return .handle h
      | .error fault => return .fault fault
  | .audit config imports => do return .report (← Audit.run control config imports)
  | .create dst mode label value onDrop children imports =>
      create control nodeType dst mode { plainNode label with value, onDrop } children imports
  | .chain dst mode depth => chain control nodeType dst mode depth 0 .done
  | .dropOwner src =>
      withOwner src fun owner => do
        modify fun world => { world with owners := world.owners.erase src }
        Session.dropOwner control owner
        return .done
  | .inspectOwner src =>
      withOwner src fun owner => updateNode owner.id id .node
  | .setValue src value =>
      withOwner src fun owner => updateNode owner.id (fun node => { node with value }) .node
  | .transfer src dst =>
      withOwner src fun owner => do
        modify fun world => { world with owners := world.owners.erase src }
        let h ← consumeOwner control owner
        saveHandle dst h
        return .handle h
  | .detach src dst =>
      withOwner src fun owner => do
        let h ← takeHandle owner
        saveHandle dst h
        return .handle h
  | .reattach dst arg label =>
      withHandle arg fun h => reattachNode control dst h label
  | .borrow arg =>
      withHandle arg fun h => do
        match (← host).rep h with
        | .error fault => return .fault fault
        | .ok (.number _) => return .refused .notANode
        | .ok (.registration id) =>
            updateNode id (fun node => { node with hits := node.hits + 1 }) .borrowed
  | .newCell dst arg =>
      withHandle arg fun h => do
        putCell dst { handle := h }
        return .done
  | .emptyCell dst mode => do
      putCell dst (.empty mode)
      return .done
  | .inspectCell src => withCell src fun cell => return .cell cell
  | .fillCell src arg =>
      withHandle arg fun h =>
        withCell src fun cell => do
          if cell.mode ≠ h.mode then return .refused .noSuchHandle
          let cell ← Script.ofExcept (cell.fill h)
          modify fun world => { world with cells := world.cells.put src cell }
          return .done
  | .emptyOut src dst =>
      withCell src fun cell => do
        let (h, left) := cell.intoHandle
        modify fun world => { world with cells := world.cells.put src left }
        saveHandle dst h
        return .handle h
  | .takeCell src dst =>
      withCell src fun cell => do
        let (taken, left) := cell.take
        modify fun world => { world with cells := world.cells.put src left }
        putCell dst taken
        return .done
  | .assignCell src dst => assignCells src dst
  | .dropCell src =>
      withCell src fun cell => do
        modify fun world => { world with cells := world.cells.erase src }
        Session.dropCell cell
        return .done
  | .ownImport dst arg =>
      withHandle arg fun h => do
        putImport dst (.ofHandle h)
        return .done
  | .inspectImport src => withImport src fun owned => return .ownedImport owned
  | .transferImport src dst =>
      withImport src fun owned => do
        modify fun world => { world with imports := world.imports.erase src }
        let (h, left) := owned.intoHandle
        Session.dropImport left
        saveHandle dst h
        return .handle h
  | .dropImport src =>
      withImport src fun owned => do
        modify fun world => { world with imports := world.imports.erase src }
        Session.dropImport owned
        return .done
  | .unknown => return .refused .unknownStep

end Custody.Session
