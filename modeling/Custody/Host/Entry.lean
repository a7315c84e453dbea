import Custody.Host.Table

/-!
# What a host registers

A guest object is registered with a representation, which means something to the guest alone, and
the destructor that the host is to call with it. A resource of the host itself has only a name.
-/

set_option autoImplicit false

namespace Custody.Host

open Text (Shown)

/-- What a guest asks a host to remember about one of its objects. -/
inductive Rep where
  | registration (id : Nat)
  | number (value : UInt64)
deriving DecidableEq, Inhabited

inductive Destructor where
  /-- Gives the registration back to the guest, which destroys the value inside. -/
  | reclaim
  | note
deriving DecidableEq, Inhabited

/-- The call that destroys a guest object: its destructor, the representation it is called with, and
the name of the object's type for diagnostics. -/
structure DestructorCall where
  rep : Rep
  destructor : Destructor
  typeName : String
deriving DecidableEq, Inhabited

inductive Kind where
  | exported
  | imported
deriving DecidableEq

def Kind.name : Kind → String
  | .exported => "exported"
  | .imported => "imported"

inductive Entry where
  | exported (call : DestructorCall)
  | imported (name : String)
deriving DecidableEq, Inhabited

namespace Entry

def kind : Entry → Kind
  | .exported _ => .exported
  | .imported _ => .imported

def importedShown (name : String) : Shown :=
  .record "Imported" [("name", .quoted name)]

end Entry

end Custody.Host
