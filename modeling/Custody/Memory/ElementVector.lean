import Custody.Memory.Basic
import Custody.Memory.Element

/-!
# Element vectors

A vector owns an array of plain elements and gives it back when it is dropped. All that it knows of
its elements is their layout; an element is a bit pattern. Elements without bytes need no memory: a
vector of them has a dangling pointer and nothing is ever given back.
-/

set_option autoImplicit false

namespace Custody.Memory

/-- An array of elements with the duty to give it back. -/
structure ElementVector where
  element : Layout
  pointer : Pointer := .null
  length : Nat := 0
deriving DecidableEq

namespace ElementVector

def empty (element : Layout) : ElementVector := { element }

def ofRaw (element : Layout) (p : Pointer) (length : Nat) : ElementVector :=
  if p.isNull then empty element else { element, pointer := p, length }

def byteLength (v : ElementVector) : Nat := v.length * v.element.size

def ofElements (m : Memory) (element : Layout) (elements : List Nat) :
    Except Stop (ElementVector × Memory) := do
  if elements.isEmpty then return (empty element, m)
  if element.size = 0 then
    let p := Pointer.ofAddress (.ofNat element.align)
    return ({ element, pointer := p, length := elements.length }, m)
  let (p, m) ← m.allocate { size := elements.length * element.size, align := element.align }
  let m ← m.write p 0 (elements.flatMap (encode element.size))
  return ({ element, pointer := p, length := elements.length }, m)

def elements (v : ElementVector) (m : Memory) : Except Stop (List Nat) := do
  if v.pointer.isNull then return []
  let bytes ← m.read v.pointer 0 v.byteLength
  return decodeMany v.element.size v.length bytes

def outOfBounds (length index : Nat) : Stop :=
  .panic ("index out of bounds: the len is " ++ toString length ++ " but the index is " ++
    toString index)

def getUnchecked (v : ElementVector) (m : Memory) (index : Nat) : Except Stop Nat := do
  return decode (← m.read v.pointer (index * v.element.size) v.element.size)

def setUnchecked (v : ElementVector) (m : Memory) (index bits : Nat) : Except Stop Memory :=
  m.write v.pointer (index * v.element.size) (encode v.element.size bits)

def get (v : ElementVector) (m : Memory) (index : Nat) : Except Stop Nat :=
  if index < v.length then v.getUnchecked m index else .error (outOfBounds v.length index)

def set (v : ElementVector) (m : Memory) (index bits : Nat) : Except Stop Memory :=
  if index < v.length then v.setUnchecked m index bits
  else .error (outOfBounds v.length index)

/-- Puts the elements in the opposite order. Elements without bytes look alike in any order. -/
def reverse (v : ElementVector) (m : Memory) : Except Stop Memory := do
  if v.byteLength = 0 then return m
  let elements ← v.elements m
  m.write v.pointer 0 (elements.reverse.flatMap (encode v.element.size))

def leak (v : ElementVector) : (Pointer × Nat) × ElementVector :=
  ((v.pointer, v.length), empty v.element)

def take (v : ElementVector) : ElementVector × ElementVector := (v, empty v.element)

def drop (v : ElementVector) (m : Memory) : Except Stop Memory :=
  if 0 < v.byteLength then m.release v.pointer else .ok m

end ElementVector

end Custody.Memory
