import Custody.Handle
import Custody.Stop

/-!
# Handles to resources of the host

A guest keeps a handle that the host lent it in a cell. A bare cell never gives its handle back by
itself: one that is valid when the cell goes away is lost, and a warning is due. An owned handle is
given back when its owner goes away, unless it was moved out before. No operation here copies a
handle: it is in one cell, or it was returned, or it is to be given back, or a warning is due.
-/

set_option autoImplicit false

namespace Custody.Guest

open Text (Shown)

/-- A cell for a handle of the host, without the duty to give it back. -/
structure Cell where
  handle : Handle
deriving DecidableEq, Inhabited

namespace Cell

def empty (mode : Mode) : Cell := { handle := .invalid mode }

def mode (cell : Cell) : Mode := cell.handle.mode

def isValid (cell : Cell) : Bool := cell.handle.isValid

def fill (cell : Cell) (h : Handle) : Except Stop Cell :=
  if cell.isValid then
    .error (.panic ("overwriting live imported handle " ++ cell.handle.text))
  else .ok { handle := h }

/-- Moves the handle out: the handle, and the cell afterwards. -/
def intoHandle (cell : Cell) : Handle × Cell := (cell.handle, empty cell.mode)

/-- Moves the handle into another cell: that cell, and the cell left behind. -/
def take (cell : Cell) : Cell × Cell :=
  let (h, left) := cell.intoHandle
  ({ handle := h }, left)

/-- Moves the handle of another cell into this one: this cell, and the one left behind. -/
def assign (cell source : Cell) : Except Stop (Cell × Cell) :=
  if cell.isValid then
    .error (.panic ("assigning over live imported handle " ++ cell.handle.text))
  else
    let (h, left) := source.intoHandle
    .ok ({ handle := h }, left)

/-- The handle that is lost when the cell goes away, if there is one. -/
def lost? (cell : Cell) : Option Handle :=
  if cell.isValid then some cell.handle else none

def shown (cell : Cell) : Shown :=
  .record "ImportedResourceHandle" [("handle", cell.handle.shown)]

@[simp]
theorem lost?_empty (mode : Mode) : (empty mode).lost? = none := by
  simp [lost?, isValid, empty]

end Cell

/-- A handle of the host with the duty to give it back. -/
structure OwnedImport where
  cell : Cell
deriving DecidableEq, Inhabited

namespace OwnedImport

def ofHandle (h : Handle) : OwnedImport := { cell := { handle := h } }

def handle (owned : OwnedImport) : Handle := owned.cell.handle

def intoHandle (owned : OwnedImport) : Handle × OwnedImport :=
  let (h, left) := owned.cell.intoHandle
  (h, { cell := left })

theorem intoHandle_eq (owned : OwnedImport) :
    owned.intoHandle = (owned.handle, { cell := .empty owned.cell.mode }) := rfl

def released? (owned : OwnedImport) : Option Handle := owned.cell.lost?

def shown (owned : OwnedImport) (typeName : String) : Shown :=
  .record "HostOwned" [("resource", .quoted typeName), ("handle", owned.handle.shown)]

end OwnedImport

end Custody.Guest
