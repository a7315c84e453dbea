/-!
# Computations that do not return

Guest code may fail an assertion, and the whole process may end because memory has run out. `Stop`
tells these apart from the two ends that lawful guest code never comes to.
-/

set_option autoImplicit false

namespace Custody

/-- Why a computation does not return. -/
inductive Stop where
  | panic (message : String)
  | abort (message : String)
  /-- The guest broke a promise that is not checked, such as releasing memory twice. -/
  | misuse
  | exhausted
deriving DecidableEq, Inhabited

end Custody
