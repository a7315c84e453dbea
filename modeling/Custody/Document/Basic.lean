/-!
# Documents

The common form of structured values, whatever notation they were written in. Entries of a mapping
keep the order in which they were written.
-/

set_option autoImplicit false

namespace Custody

inductive Document where
  | null
  | boolean (value : Bool)
  | integer (value : Int)
  | float (value : Float)
  | text (value : String)
  /-- A date or a time. Nothing here reads one, so its content is not kept. -/
  | moment
  | sequence (items : List Document)
  | mapping (entries : List (String × Document))
deriving Inhabited

namespace Document

def get? (d : Document) (key : String) : Option Document :=
  match d with
  | .mapping entries => entries.lookup key
  | _ => none

def natural (n : Nat) : Document := .integer n

end Document

end Custody
