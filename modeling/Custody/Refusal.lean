/-!
# Refusals

A step of a session is refused when it names something that is not there or asks for what its
operation leaves undefined. A refused step changes nothing but the owner of a destroyed node, which
is forgotten.
-/

set_option autoImplicit false

namespace Custody

inductive Refusal where
  | noSuchBuffer
  | noSuchVector
  | noSuchRegion
  | noSuchOwner
  | noSuchHandle
  | noSuchImport
  | noSuchNode
  | dangling
  | regionTooSmall
  | outOfRange
  | badLayout
  | nodeDestroyed
  /-- The handle names a registration that is not a node. -/
  | notANode
  /-- A child or import of a new node is missing, destroyed, given twice or of the other mode. -/
  | partNotAvailable
  | unknownStep
deriving DecidableEq

def Refusal.text : Refusal → String
  | .noSuchBuffer => "no such buffer"
  | .noSuchVector => "no such vector"
  | .noSuchRegion => "no such region"
  | .noSuchOwner => "no such owner"
  | .noSuchHandle => "no such handle"
  | .noSuchImport => "no such import"
  | .noSuchNode => "no such node"
  | .dangling => "dangling"
  | .regionTooSmall => "region too small"
  | .outOfRange => "out of range"
  | .badLayout => "bad layout"
  | .nodeDestroyed => "node destroyed"
  | .notANode => "not a node"
  | .partNotAvailable => "part not available"
  | .unknownStep => "unknown step"

end Custody
