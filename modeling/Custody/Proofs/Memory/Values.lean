import Custody.Proofs.Memory.Holdings

/-!
# Holdings as plain values

What a guest would see if there were no memory: each name has a value of its own, a list of bytes or
of elements, and an operation changes the values that it names. Behind the contents of an owner there
may be more of its region, which comes to light again when the region is leaked.

Next to the operations that move ownership there are those that look at contents or write to them.
Both the guest with memory and the one with plain values answer them.
-/

set_option autoImplicit false

namespace Custody.Memory

/-! ## Values -/

/-- What a raw pointer stands for. -/
inductive Cargo where
  | null
  | nothing
  | bytes (content : List UInt8)

/-- What is kept under a name: the contents of an owner with what lies behind them in its region, or
all that a raw pointer stands for. -/
inductive Value where
  | buffer (bytes : List UInt8) (rest : Cargo)
  | vector (element : Layout) (elements : List Nat) (rest : Cargo)
  | region (cargo : Cargo)

namespace Cargo

/-- A pointer that is an alignment taken as an address. -/
def ofAlign (align : Nat) : Cargo :=
  if UInt64.ofNat align = 0 then .null else .nothing

def under (front : List UInt8) : Cargo → Cargo
  | .bytes rest => .bytes (front ++ rest)
  | cargo => cargo

/-- The contents of a buffer of a given length, with what is left behind them. -/
def toBuffer (length : Nat) : Cargo → Value
  | .bytes content => .buffer (content.take length) (.bytes (content.drop length))
  | cargo => .buffer [] cargo

/-- The contents of a vector of a given number of elements, with what is left behind them. -/
def toVector (element : Layout) (length : Nat) : Cargo → Value
  | .null => .vector element [] .null
  | .nothing => .vector element (List.replicate length 0) .nothing
  | .bytes content =>
      .vector element (decodeMany element.size length content)
        (.bytes (content.drop (length * element.size)))

/-- What is there after reallocation to a size that is not zero. -/
def reallocated (size : Nat) : Cargo → Cargo
  | .bytes content => .bytes (resized content size)
  | _ => .bytes (List.replicate size 0)

end Cargo

namespace Value

def ofBytes (bytes : List UInt8) : Value :=
  if bytes = [] then .buffer [] .null else .buffer bytes (.bytes [])

def ofElements (element : Layout) (elements : List Nat) : Value :=
  if elements = [] then .vector element [] .null
  else if element.size = 0 then .vector element elements .nothing
  else .vector element elements (.bytes [])

/-- All that lies at the start of a region. -/
def cargo : Value → Cargo
  | .buffer bytes rest => rest.under bytes
  | .vector element elements rest => rest.under (elements.flatMap (encode element.size))
  | .region cargo => cargo

def blank : Value → Value
  | .buffer _ _ => .buffer [] .null
  | .vector element _ _ => .vector element [] .null
  | .region _ => .region .null

end Value

/-! ## Requests -/

/-- What guest code does. Besides moving regions it looks at contents and writes to them, with and
without a check of the index, and it may use raw pointers that it has. -/
inductive Request where
  | act (act : Act)
  | length (src : String)
  | bytes (src : String)
  | elements (src : String)
  | get (src : String) (index : Nat)
  | getUnchecked (src : String) (index : Nat)
  | setUnchecked (src : String) (index bits : Nat)
  | reverse (src : String)
  | readRegion (src : String) (offset size : Nat)
  | writeRegion (src : String) (offset : Nat) (new : List UInt8)

inductive Reply where
  | done
  | length (n : Nat)
  | bytes (bytes : List UInt8)
  | elements (elements : List Nat)
  | element (bits : Nat)
deriving DecidableEq

def Act.names : Act → List String
  | .newBuffer dst | .copyBytes dst _ | .newVector dst _ | .copyElements dst _ _
  | .allocate dst _ => [dst]
  | .adoptBuffer src dst _ | .adoptVector src dst _ _ | .take src dst | .assign src dst
  | .leak src dst | .reallocate src dst _ _ => [src, dst]
  | .drop src | .view src | .get src _ | .set src _ _ | .release src => [src]

def Request.names : Request → List String
  | .act inner => inner.names
  | .length src | .bytes src | .elements src | .get src _ | .getUnchecked src _
  | .setUnchecked src _ _ | .reverse src | .readRegion src _ _ | .writeRegion src _ _ => [src]

/-! ## With memory -/

namespace Holdings

def looking (s : Holdings) (src : String) (next : Holding → Except Stop Reply) :
    Except Stop (Reply × Holdings) :=
  match s.held.get? src with
  | some x => (next x).map (·, s)
  | none => .error .misuse

def writing (s : Holdings) (src : String) (next : Holding → Except Stop Memory) :
    Except Stop (Reply × Holdings) :=
  match s.held.get? src with
  | some x => (next x).map fun memory => (.done, { s with memory })
  | none => .error .misuse

def perform (s : Holdings) : Request → Except Stop (Reply × Holdings)
  | .act act => (s.step act).map (.done, ·)
  | .length src => s.looking src fun x => .ok (.length x.length)
  | .bytes src => s.looking src fun
      | .buffer b => (b.bytes s.memory).map .bytes
      | _ => .error .misuse
  | .elements src => s.looking src fun
      | .vector v => (v.elements s.memory).map .elements
      | _ => .error .misuse
  | .get src index => s.looking src fun
      | .vector v => (v.get s.memory index).map .element
      | _ => .error .misuse
  | .getUnchecked src index => s.looking src fun
      | .vector v => (v.getUnchecked s.memory index).map .element
      | _ => .error .misuse
  | .setUnchecked src index bits => s.writing src fun
      | .vector v => v.setUnchecked s.memory index bits
      | _ => .error .misuse
  | .reverse src => s.writing src fun
      | .vector v => v.reverse s.memory
      | _ => .error .misuse
  | .readRegion src offset size => s.looking src fun x =>
      (s.memory.read x.pointer offset size).map .bytes
  | .writeRegion src offset new => s.writing src fun x => s.memory.write x.pointer offset new

/-- An operation that does not return leaves everything as it is. -/
def next (s : Holdings) (request : Request) : Holdings :=
  match s.perform request with
  | .ok (_, after) => after
  | .error _ => s

def run (s : Holdings) (requests : List Request) : Holdings := requests.foldl next s

/-- Elements are bit patterns of their type, and the type has a layout. -/
def Typed (s : Holdings) : Act → Prop
  | .copyElements _ element elements =>
      element.isValid = true ∧ ∀ bits ∈ elements, bits < patterns element.size
  | .set src _ bits =>
      ∀ v, s.held.get? src = some (.vector v) → bits < patterns v.element.size
  | _ => True

/-- A raw pointer may be used for bytes that are there. -/
def Reaches (s : Holdings) (src : String) (size : Nat) : Prop :=
  ∃ id bytes, s.held.get? src = some (.region (.block id)) ∧ s.memory.block? id = some bytes ∧
    size ≤ bytes.length

/-- The contract of each operation. -/
def Permits (s : Holdings) : Request → Prop
  | .act act => s.Permitted act ∧ s.Typed act
  | .length src => ∃ x, s.held.get? src = some x
  | .bytes src => ∃ b, s.held.get? src = some (.buffer b)
  | .elements src | .get src _ | .reverse src => ∃ v, s.held.get? src = some (.vector v)
  | .getUnchecked src index => ∃ v, s.held.get? src = some (.vector v) ∧ index < v.length
  | .setUnchecked src index bits =>
      ∃ v, s.held.get? src = some (.vector v) ∧ index < v.length ∧
        bits < patterns v.element.size
  | .readRegion src offset size => s.Reaches src (offset + size)
  | .writeRegion src offset new => s.Reaches src (offset + new.length)

/-- Every operation keeps its contract when its turn comes. -/
def Abides (s : Holdings) : List Request → Prop
  | [] => True
  | request :: rest => s.Permits request ∧ (s.next request).Abides rest

end Holdings

/-! ## With plain values -/

def granted (layout : Layout) : Except Stop Unit :=
  if layout.size = 0 then .error (.panic "zero-sized regions are never allocated")
  else if guaranteedAlignment < layout.align then
    .error (.panic ("alignment " ++ toString layout.align ++ " exceeds the malloc guarantee"))
  else if sizeLimit ≤ layout.size then .error (outOfMemory layout)
  else .ok ()

abbrev Contents := Registers Value

namespace Contents

def withValue {α : Type} (p : Contents) (src : String) (next : Value → Except Stop α) :
    Except Stop α :=
  match p.get? src with
  | some value => next value
  | none => .error .misuse

def moving (p : Contents) (src : String) (next : Contents → Value → Except Stop Contents) :
    Except Stop Contents :=
  p.withValue src (next (p.erase src))

/-- Goes on with the layout, the elements and the rest of a vector. -/
def withVector {α : Type} (p : Contents) (src : String)
    (next : Layout → List Nat → Cargo → Except Stop α) : Except Stop α :=
  p.withValue src fun
    | .vector element elements rest => next element elements rest
    | _ => .error .misuse

def step (p : Contents) : Act → Except Stop Contents
  | .newBuffer dst => .ok (p.put dst (.buffer [] .null))
  | .copyBytes dst bytes =>
      (if bytes = [] then .ok () else granted { size := bytes.length, align := 1 }).map fun _ =>
        p.put dst (.ofBytes bytes)
  | .adoptBuffer src dst length =>
      p.moving src fun p value => .ok (p.put dst (value.cargo.toBuffer length))
  | .newVector dst element => .ok (p.put dst (.vector element [] .null))
  | .copyElements dst element elements =>
      (if elements = [] ∨ element.size = 0 then .ok ()
        else granted { size := elements.length * element.size, align := element.align }).map fun _ =>
        p.put dst (.ofElements element elements)
  | .adoptVector src dst element length =>
      p.moving src fun p value => .ok (p.put dst (value.cargo.toVector element length))
  | .take src dst => p.withValue src fun value => .ok ((p.put src value.blank).put dst value)
  | .assign src dst => p.moving src fun p value => .ok (p.put dst value)
  | .leak src dst =>
      p.withValue src fun value => .ok ((p.put src value.blank).put dst (.region value.cargo))
  | .drop src | .release src => p.moving src fun p _ => .ok p
  | .view src => p.withValue src fun _ => .ok p
  | .get src index =>
      p.withVector src fun _ elements _ =>
        if index < elements.length then .ok p
        else .error (ElementVector.outOfBounds elements.length index)
  | .set src index bits =>
      p.withVector src fun element elements rest =>
        if index < elements.length then
          .ok (p.put src (.vector element (elements.set index bits) rest))
        else .error (ElementVector.outOfBounds elements.length index)
  | .allocate dst layout =>
      (granted layout).map fun _ => p.put dst (.region (.bytes (List.replicate layout.size 0)))
  | .reallocate src dst _ layout =>
      p.moving src fun p value =>
        if layout.size = 0 then .ok (p.put dst (.region (.ofAlign layout.align)))
        else if guaranteedAlignment < layout.align ∨ sizeLimit ≤ layout.size then
          .error (outOfMemory layout)
        else .ok (p.put dst (.region (value.cargo.reallocated layout.size)))

def perform (p : Contents) : Request → Except Stop (Reply × Contents)
  | .act act => (p.step act).map (.done, ·)
  | .length src => p.withValue src fun
      | .buffer bytes _ => .ok (.length bytes.length, p)
      | .vector _ elements _ => .ok (.length elements.length, p)
      | .region _ => .ok (.length 0, p)
  | .bytes src => p.withValue src fun
      | .buffer bytes _ => .ok (.bytes bytes, p)
      | _ => .error .misuse
  | .elements src => p.withVector src fun _ elements _ => .ok (.elements elements, p)
  | .get src index | .getUnchecked src index =>
      p.withVector src fun _ elements _ =>
        match elements[index]? with
        | some bits => .ok (.element bits, p)
        | none => .error (ElementVector.outOfBounds elements.length index)
  | .setUnchecked src index bits =>
      p.withVector src fun element elements rest =>
        .ok (.done, p.put src (.vector element (elements.set index bits) rest))
  | .reverse src =>
      p.withVector src fun element elements rest =>
        .ok (.done, p.put src (.vector element elements.reverse rest))
  | .readRegion src offset size => p.withValue src fun
      | .region (.bytes content) => .ok (.bytes (window content offset size), p)
      | _ => .error .misuse
  | .writeRegion src offset new => p.withValue src fun
      | .region (.bytes content) =>
          .ok (.done, p.put src (.region (.bytes (patched content offset new))))
      | _ => .error .misuse

def next (p : Contents) (request : Request) : Contents :=
  match p.perform request with
  | .ok (_, after) => after
  | .error _ => p

def run (p : Contents) (requests : List Request) : Contents := requests.foldl next p

/-! ### What an operation does not name -/

variable {p after : Contents} {name src dst : String} {names : List String}

theorem map_eq_ok {α β : Type} {source : Except Stop α} {f : α → β} {result : β}
    (done : source.map f = .ok result) : ∃ value, source = .ok value ∧ result = f value := by
  cases source with
  | error stop => cases done
  | ok value =>
      cases done
      exact ⟨value, rfl, rfl⟩

theorem withValue_eq_ok {α : Type} {next : Value → Except Stop α} {result : α}
    (done : p.withValue src next = .ok result) : ∃ value, next value = .ok result := by
  unfold withValue at done
  split at done
  · exact ⟨_, done⟩
  · cases done

theorem withVector_eq_ok {α : Type} {next : Layout → List Nat → Cargo → Except Stop α} {result : α}
    (done : p.withVector src next = .ok result) :
    ∃ element elements rest, next element elements rest = .ok result := by
  obtain ⟨value, done⟩ := withValue_eq_ok done
  split at done
  · exact ⟨_, _, _, done⟩
  · cases done

/-- Other names keep what they have. -/
def Frames (names : List String) (p after : Contents) : Prop :=
  ∀ name, name ∉ names → after.get? name = p.get? name

theorem Frames.refl (names : List String) (p : Contents) : p.Frames names p := fun _ _ => rfl

theorem Frames.put (frames : Frames names p after) (named : dst ∈ names) (value : Value) :
    Frames names p (after.put dst value) := by
  intro name new
  have apart : name ≠ dst := fun same => new (same.symm ▸ named)
  exact (Registers.get?_put_of_ne after value apart).trans (frames name new)

theorem Frames.erase (frames : Frames names p after) (named : src ∈ names) :
    Frames names p (after.erase src) := by
  intro name new
  have apart : name ≠ src := fun same => new (same.symm ▸ named)
  exact (Registers.get?_erase_of_ne after apart).trans (frames name new)

theorem frames_step {act : Act} (done : p.step act = .ok after) : Frames act.names p after := by
  have first : ∀ {name : String} {rest : List String}, name ∈ name :: rest := List.mem_cons_self
  have second : ∀ {name other : String}, name ∈ [other, name] :=
    List.mem_cons_of_mem _ List.mem_cons_self
  cases act with
  | newBuffer dst | newVector dst element =>
      cases done
      exact (Frames.refl _ p).put first _
  | copyBytes dst bytes | copyElements dst element elements | allocate dst layout =>
      obtain ⟨-, -, rfl⟩ := map_eq_ok done
      exact (Frames.refl _ p).put first _
  | adoptBuffer src dst length | adoptVector src dst element length | assign src dst =>
      obtain ⟨value, done⟩ := withValue_eq_ok done
      cases done
      exact ((Frames.refl _ p).erase first).put second _
  | take src dst | leak src dst =>
      obtain ⟨value, done⟩ := withValue_eq_ok done
      cases done
      exact ((Frames.refl _ p).put first _).put second _
  | drop src | release src =>
      obtain ⟨value, done⟩ := withValue_eq_ok done
      cases done
      exact (Frames.refl _ p).erase first
  | view src =>
      obtain ⟨value, done⟩ := withValue_eq_ok done
      cases done
      exact .refl _ p
  | get src index =>
      obtain ⟨element, elements, rest, done⟩ := withVector_eq_ok done
      split at done
      · cases done
        exact .refl _ p
      · cases done
  | set src index bits =>
      obtain ⟨element, elements, rest, done⟩ := withVector_eq_ok done
      split at done
      · cases done
        exact (Frames.refl _ p).put first _
      · cases done
  | reallocate src dst oldSize layout =>
      obtain ⟨value, done⟩ := withValue_eq_ok done
      have vacated := (Frames.refl [src, dst] p).erase first
      split at done
      · cases done
        exact vacated.put second _
      · split at done
        · cases done
        · cases done
          exact vacated.put second _

theorem frames_perform {request : Request} {reply : Reply}
    (done : p.perform request = .ok (reply, after)) : Frames request.names p after := by
  have here : ∀ {name : String}, name ∈ [name] := List.mem_cons_self
  cases request with
  | act act =>
      obtain ⟨value, done, same⟩ := map_eq_ok done
      cases same
      exact frames_step done
  | length src | bytes src =>
      obtain ⟨value, done⟩ := withValue_eq_ok done
      cases value <;> cases done <;> exact .refl _ p
  | elements src =>
      obtain ⟨element, elements, rest, done⟩ := withVector_eq_ok done
      cases done
      exact .refl _ p
  | get src index | getUnchecked src index =>
      obtain ⟨element, elements, rest, done⟩ := withVector_eq_ok done
      split at done
      · cases done
        exact .refl _ p
      · cases done
  | setUnchecked src index bits | reverse src =>
      obtain ⟨element, elements, rest, done⟩ := withVector_eq_ok done
      cases done
      exact (Frames.refl _ p).put here _
  | readRegion src offset size =>
      obtain ⟨value, done⟩ := withValue_eq_ok done
      split at done
      · cases done
        exact .refl _ p
      · cases done
  | writeRegion src offset new =>
      obtain ⟨value, done⟩ := withValue_eq_ok done
      split at done
      · cases done
        exact (Frames.refl _ p).put here _
      · cases done

theorem frames_next (p : Contents) (request : Request) :
    Frames request.names p (p.next request) := by
  unfold next
  split
  · rename_i done
    exact frames_perform done
  · exact .refl _ p

end Contents

end Custody.Memory
