import Custody.Proofs.Memory.Simulation

/-!
# Contents are carried through every history

A guest that keeps its contracts cannot tell memory from plain values: whatever it does, in whatever
order, it gets the answers that plain lists give, and where it is stopped, plain lists stop it too.
-/

set_option autoImplicit false

namespace Custody.Memory

variable {s : Holdings} {p : Contents} {src dst : String} {x : Holding}

namespace Mirrors

/-! ## What leaks and comes back -/

theorem leaked (mirrors : Mirrors s p) (present : s.held.get? src = some x) (raw : String) :
    ∃ value q, p.get? src = some value ∧ x.Shows s.memory value ∧
      (p.next (.act (.leak src raw))).get? raw = some (.region value.cargo) ∧
      (s.next (.act (.leak src raw))).held.get? raw = some (.region q) ∧
      Behind (s.next (.act (.leak src raw))).memory q value.cargo := by
  obtain ⟨value, kept, shows⟩ := mirrors.exists_value present
  have permits : s.Permits (.act (.leak src raw)) := ⟨⟨x, present⟩, trivial⟩
  have onward := mirrors.next permits
  have leaked : (p.next (.act (.leak src raw))).get? raw = some (.region value.cargo) := by
    simp only [Contents.next, Contents.perform, Contents.step, Contents.withValue, kept, Except.map,
      Registers.get?_put_self]
  obtain ⟨y, held, region⟩ := onward.exists_holding leaked
  cases y with
  | region q => exact ⟨value, q, kept, shows, leaked, held, region.behind⟩
  | buffer _ | vector _ => exact region.suits.elim

theorem readoptBuffer (mirrors : Mirrors s p) {b : Buffer} {bytes : List UInt8} {rest : Cargo}
    (present : s.held.get? src = some (.buffer b)) (kept : p.get? src = some (.buffer bytes rest))
    (raw dst : String) :
    s.Abides [.act (.leak src raw), .act (.adoptBuffer raw dst b.length)] ∧
      (p.run [.act (.leak src raw), .act (.adoptBuffer raw dst b.length)]).get? dst =
        some (.buffer bytes rest) := by
  obtain ⟨value, q, found, shows, leaked, held, behind⟩ := mirrors.leaked present raw
  cases kept.symm.trans found
  have length : b.length = bytes.length := shows.suits
  refine ⟨⟨⟨⟨_, present⟩, trivial⟩, ⟨⟨q, held, ?_⟩, trivial⟩, trivial⟩, ?_⟩
  · rw [length]
    exact behind.adoptable shows.proper
  · have adopted : ((p.next (.act (.leak src raw))).next (.act (.adoptBuffer raw dst b.length))).get?
        dst = some ((rest.under bytes).toBuffer b.length) := by
      generalize p.next (.act (.leak src raw)) = middle at leaked
      simp only [Contents.next, Contents.perform, Contents.step, Contents.moving, Contents.withValue,
        leaked, Except.map, Registers.get?_put_self, Value.cargo]
    rw [length, Cargo.toBuffer_under shows.proper] at adopted
    rw [length]
    exact adopted

theorem readoptVector (mirrors : Mirrors s p) {v : ElementVector} {elements : List Nat} {rest : Cargo}
    (present : s.held.get? src = some (.vector v))
    (kept : p.get? src = some (.vector v.element elements rest)) (raw dst : String) :
    s.Abides [.act (.leak src raw), .act (.adoptVector raw dst v.element v.length)] ∧
      (p.run [.act (.leak src raw), .act (.adoptVector raw dst v.element v.length)]).get? dst =
        some (.vector v.element elements rest) := by
  obtain ⟨value, q, found, shows, leaked, held, behind⟩ := mirrors.leaked present raw
  cases kept.symm.trans found
  refine ⟨⟨⟨⟨_, present⟩, trivial⟩, ⟨⟨q, held, ?_⟩, trivial⟩, trivial⟩, ?_⟩
  · rw [shows.length_eq, ← length_encoded]
    exact behind.adoptable shows.row.2
  · have adopted : ((p.next (.act (.leak src raw))).next
        (.act (.adoptVector raw dst v.element v.length))).get? dst =
          some ((rest.under (elements.flatMap (encode v.element.size))).toVector v.element
            v.length) := by
      generalize p.next (.act (.leak src raw)) = middle at leaked
      simp only [Contents.next, Contents.perform, Contents.step, Contents.moving, Contents.withValue,
        leaked, Except.map, Registers.get?_put_self, Value.cargo]
    rw [shows.length_eq, Cargo.toVector_under shows.proper] at adopted
    rw [shows.length_eq]
    exact adopted

end Mirrors

/-! ## The contents of every owner -/

/-- What a guest sees of its owners, and what plain values say. -/
structure Faithful (s : Holdings) (p : Contents) : Prop where
  buffer : ∀ name b, s.held.get? name = some (.buffer b) →
    ∃ bytes rest, p.get? name = some (.buffer bytes rest) ∧ b.length = bytes.length ∧
      b.bytes s.memory = .ok bytes
  vector : ∀ name v, s.held.get? name = some (.vector v) →
    ∃ elements rest, p.get? name = some (.vector v.element elements rest) ∧
      v.length = elements.length ∧ v.elements s.memory = .ok elements ∧
      (∀ index, v.get s.memory index =
        match elements[index]? with
        | some bits => .ok bits
        | none => .error (ElementVector.outOfBounds v.length index)) ∧
      ∀ index < v.length, v.getUnchecked s.memory index = v.get s.memory index
  /-- Whatever the guest does next, it is answered or stopped as with plain values. -/
  replies : ∀ request, s.Permits request →
    (s.perform request).map Prod.fst = (p.perform request).map Prod.fst
  /-- A write changes one element. -/
  written : ∀ src element elements rest index bits,
    p.get? src = some (.vector element elements rest) → index < elements.length →
      (p.next (.act (.set src index bits))).get? src =
          some (.vector element (elements.set index bits) rest) ∧
        (p.next (.setUnchecked src index bits)).get? src =
          some (.vector element (elements.set index bits) rest)
  reversed : ∀ src element elements rest, p.get? src = some (.vector element elements rest) →
    (p.next (.reverse src)).get? src = some (.vector element elements.reverse rest)
  /-- What is done under other names changes nothing. -/
  frames : ∀ request, p.Frames request.names (p.next request)
  /-- A check of an index stops exactly the accesses outside, and it changes nothing. -/
  checked : ∀ src v index bits stop, s.held.get? src = some (.vector v) →
    bits < patterns v.element.size →
      (s.perform (.get src index) = .error stop ↔
        v.length ≤ index ∧ stop = ElementVector.outOfBounds v.length index) ∧
      (s.perform (.act (.set src index bits)) = .error stop ↔
        v.length ≤ index ∧ stop = ElementVector.outOfBounds v.length index) ∧
      (v.length ≤ index →
        s.next (.get src index) = s ∧ s.next (.act (.set src index bits)) = s)
  copiedBytes : ∀ dst bytes, bytes.length < sizeLimit →
    ∃ after rest, s.perform (.act (.copyBytes dst bytes)) = .ok (.done, after) ∧
      (p.next (.act (.copyBytes dst bytes))).get? dst = some (.buffer bytes rest)
  copiedElements : ∀ dst element elements, element.isValid = true →
    (∀ bits ∈ elements, bits < patterns element.size) →
    element.size = 0 ∨ element.align ≤ guaranteedAlignment →
    elements.length * element.size < sizeLimit →
      ∃ after rest, s.perform (.act (.copyElements dst element elements)) = .ok (.done, after) ∧
        (p.next (.act (.copyElements dst element elements))).get? dst =
          some (.vector element elements rest)
  /-- Elements that have to lie on a coarser grid than memory grants are refused before anything is
  allocated. -/
  coarse : ∀ dst element elements, elements ≠ [] → element.size ≠ 0 →
    guaranteedAlignment < element.align →
      s.perform (.act (.copyElements dst element elements)) =
          .error (.panic
            ("alignment " ++ toString element.align ++ " exceeds the malloc guarantee")) ∧
        s.next (.act (.copyElements dst element elements)) = s
  readoptedBuffer : ∀ src raw dst b bytes rest, s.held.get? src = some (.buffer b) →
    p.get? src = some (.buffer bytes rest) →
      s.Abides [.act (.leak src raw), .act (.adoptBuffer raw dst b.length)] ∧
        (p.run [.act (.leak src raw), .act (.adoptBuffer raw dst b.length)]).get? dst =
          some (.buffer bytes rest)
  readoptedVector : ∀ src raw dst v elements rest, s.held.get? src = some (.vector v) →
    p.get? src = some (.vector v.element elements rest) →
      s.Abides [.act (.leak src raw), .act (.adoptVector raw dst v.element v.length)] ∧
        (p.run [.act (.leak src raw), .act (.adoptVector raw dst v.element v.length)]).get? dst =
          some (.vector v.element elements rest)

theorem Holdings.next_of_error {request : Request} {stop : Stop}
    (stopped : s.perform request = .error stop) : s.next request = s := by
  rw [next, stopped]

theorem Contents.next_of_ok {request : Request} {reply : Reply} {after : Contents}
    (done : p.perform request = .ok (reply, after)) : p.next request = after := by
  rw [next, done]

theorem Value.ofBytes_eq (bytes : List UInt8) : ∃ rest, Value.ofBytes bytes = .buffer bytes rest := by
  unfold Value.ofBytes
  split
  · rename_i empty
    exact ⟨.null, by rw [empty]⟩
  · exact ⟨_, rfl⟩

theorem Value.ofElements_eq (element : Layout) (elements : List Nat) :
    ∃ rest, Value.ofElements element elements = .vector element elements rest := by
  unfold Value.ofElements
  split
  · rename_i empty
    exact ⟨.null, by rw [empty]⟩
  · split <;> exact ⟨_, rfl⟩

theorem granted_ok {layout : Layout} (size : IsSize layout.size)
    (fine : layout.align ≤ guaranteedAlignment) : granted layout = .ok () := by
  unfold granted
  rw [if_neg (Nat.ne_of_gt size.1), if_neg (Nat.not_lt.2 fine), if_neg (Nat.not_le.2 size.2)]

/-- What goes well inside and is stopped outside is stopped exactly outside. -/
theorem stops_iff {α : Type} {result : Except Stop α} {length index : Nat}
    (inside : index < length → ∃ value, result = .ok value)
    (outside : length ≤ index → result = .error (ElementVector.outOfBounds length index))
    (stop : Stop) :
    result = .error stop ↔ length ≤ index ∧ stop = ElementVector.outOfBounds length index := by
  constructor
  · intro stopped
    obtain below | beyond := Nat.lt_or_ge index length
    · obtain ⟨value, done⟩ := inside below
      cases stopped.symm.trans done
    · exact ⟨beyond, Except.error.inj (stopped.symm.trans (outside beyond))⟩
  · rintro ⟨beyond, rfl⟩
    exact outside beyond

namespace Mirrors

theorem checked (mirrors : Mirrors s p) {v : ElementVector}
    (present : s.held.get? src = some (.vector v)) (index : Nat) {bits : Nat}
    (fits : bits < patterns v.element.size) (stop : Stop) :
    (s.perform (.get src index) = .error stop ↔
        v.length ≤ index ∧ stop = ElementVector.outOfBounds v.length index) ∧
      (s.perform (.act (.set src index bits)) = .error stop ↔
        v.length ≤ index ∧ stop = ElementVector.outOfBounds v.length index) := by
  obtain ⟨elements, rest, kept, shows⟩ := mirrors.exists_vector present
  simp only [Holdings.perform, Holdings.looking, Holdings.step, Holdings.withVector,
    Holdings.withHeld_eq present, present, ElementVector.get, ElementVector.set]
  refine ⟨stops_iff (fun below => ?_) (fun beyond => ?_) stop,
    stops_iff (fun below => ?_) (fun beyond => ?_) stop⟩
  · rw [if_pos below, shows.getUnchecked_ok (shows.length_eq ▸ below)]
    exact ⟨_, rfl⟩
  · rw [if_neg (Nat.not_lt.2 beyond)]
    rfl
  · obtain ⟨after, written, -, -⟩ := shows.setUnchecked_ok (shows.length_eq ▸ below) fits
    rw [if_pos below, written]
    exact ⟨_, rfl⟩
  · rw [if_neg (Nat.not_lt.2 beyond)]
    rfl

theorem done (mirrors : Mirrors s p) {request : Request} (permits : s.Permits request) {reply : Reply}
    {plain : Contents} (done : p.perform request = .ok (reply, plain)) :
    ∃ after, s.perform request = .ok (reply, after) := by
  have matched := mirrors.perform permits
  rw [done] at matched
  generalize s.perform request = left at matched
  cases matched with
  | @ok left _ answered => exact ⟨left.2, congrArg Except.ok (Prod.ext answered.1 rfl)⟩

theorem copiedBytes (mirrors : Mirrors s p) (dst : String) {bytes : List UInt8}
    (small : bytes.length < sizeLimit) :
    ∃ after rest, s.perform (.act (.copyBytes dst bytes)) = .ok (.done, after) ∧
      (p.next (.act (.copyBytes dst bytes))).get? dst = some (.buffer bytes rest) := by
  have fine : (if bytes = [] then .ok () else granted { size := bytes.length, align := 1 }) =
      (.ok () : Except Stop Unit) := by
    split
    · rfl
    · rename_i full
      exact granted_ok ⟨List.length_pos_iff.2 full, small⟩ (Nat.le_add_left 1 7)
  have plain : p.perform (.act (.copyBytes dst bytes)) =
      .ok (.done, p.put dst (.ofBytes bytes)) := by
    simp only [Contents.perform, Contents.step, fine, Except.map]
  have permits : s.Permits (.act (.copyBytes dst bytes)) := ⟨trivial, trivial⟩
  obtain ⟨after, done⟩ := mirrors.done permits plain
  obtain ⟨rest, copied⟩ := Value.ofBytes_eq bytes
  refine ⟨after, rest, done, ?_⟩
  rw [Contents.next_of_ok plain, Registers.get?_put_self, copied]

theorem copiedElements (mirrors : Mirrors s p) (dst : String) {element : Layout}
    {elements : List Nat} (valid : element.isValid = true)
    (fits : ∀ bits ∈ elements, bits < patterns element.size)
    (fine : element.size = 0 ∨ element.align ≤ guaranteedAlignment)
    (small : elements.length * element.size < sizeLimit) :
    ∃ after rest, s.perform (.act (.copyElements dst element elements)) = .ok (.done, after) ∧
      (p.next (.act (.copyElements dst element elements))).get? dst =
        some (.vector element elements rest) := by
  have granted : (if elements = [] ∨ element.size = 0 then .ok ()
      else granted { size := elements.length * element.size, align := element.align }) =
      (.ok () : Except Stop Unit) := by
    split
    · rfl
    · rename_i full
      obtain ⟨full, sized⟩ := not_or.1 full
      have positive := Nat.mul_pos (List.length_pos_iff.2 full) (Nat.pos_of_ne_zero sized)
      exact granted_ok ⟨positive, small⟩ (fine.resolve_left sized)
  have plain : p.perform (.act (.copyElements dst element elements)) =
      .ok (.done, p.put dst (.ofElements element elements)) := by
    simp only [Contents.perform, Contents.step, granted, Except.map]
  have permits : s.Permits (.act (.copyElements dst element elements)) := ⟨trivial, valid, fits⟩
  obtain ⟨after, done⟩ := mirrors.done permits plain
  obtain ⟨rest, copied⟩ := Value.ofElements_eq element elements
  refine ⟨after, rest, done, ?_⟩
  rw [Contents.next_of_ok plain, Registers.get?_put_self, copied]

end Mirrors

theorem coarse_refused (s : Holdings) (dst : String) {element : Layout} {elements : List Nat}
    (full : elements ≠ []) (sized : element.size ≠ 0) (coarse : guaranteedAlignment < element.align) :
    s.perform (.act (.copyElements dst element elements)) =
      .error (.panic
        ("alignment " ++ toString element.align ++ " exceeds the malloc guarantee")) := by
  have positive := Nat.mul_pos (List.length_pos_iff.2 full) (Nat.pos_of_ne_zero sized)
  have refused : s.memory.allocate
      { size := elements.length * element.size, align := element.align } =
        .error (.panic
          ("alignment " ++ toString element.align ++ " exceeds the malloc guarantee")) :=
    (if_neg (Nat.ne_of_gt positive)).trans (if_pos coarse)
  simp only [Holdings.perform, Holdings.step, ElementVector.ofElements_refused full sized refused,
    bind, Except.bind, Except.map]

theorem Mirrors.faithful (mirrors : Mirrors s p) : Faithful s p where
  buffer name b present := by
    obtain ⟨bytes, rest, kept, shows⟩ := mirrors.exists_buffer present
    exact ⟨bytes, rest, kept, shows.suits, shows.bytes_ok⟩
  vector name v present := by
    obtain ⟨elements, rest, kept, shows⟩ := mirrors.exists_vector present
    refine ⟨elements, rest, kept, shows.length_eq, shows.elements_ok, fun index => ?_,
      fun index below => (if_pos below).symm⟩
    rw [shows.length_eq]
    refine (shows.get_eq index).trans ?_
    cases elements[index]? <;> rfl
  replies request permits := by
    have matched := mirrors.perform permits
    generalize s.perform request = left at matched ⊢
    generalize p.perform request = right at matched ⊢
    cases matched with
    | ok answered => exact congrArg Except.ok answered.1
    | stop stop => rfl
  written src element elements rest index bits kept below := by
    simp only [Contents.next, Contents.perform, Contents.step, Contents.withVector,
      Contents.withValue, kept, if_pos below, Except.map, Registers.get?_put_self, and_self]
  reversed src element elements rest kept := by
    simp only [Contents.next, Contents.perform, Contents.withVector, Contents.withValue, kept,
      Registers.get?_put_self]
  frames := Contents.frames_next p
  checked src v index bits stop present fits := by
    obtain ⟨got, set⟩ := mirrors.checked present index fits stop
    refine ⟨got, set, fun outside => ?_⟩
    obtain ⟨got, set⟩ := mirrors.checked present index fits (ElementVector.outOfBounds v.length index)
    exact ⟨Holdings.next_of_error (got.2 ⟨outside, rfl⟩),
      Holdings.next_of_error (set.2 ⟨outside, rfl⟩)⟩
  copiedBytes dst bytes small := mirrors.copiedBytes dst small
  copiedElements dst element elements valid fits fine small :=
    mirrors.copiedElements dst valid fits fine small
  coarse dst element elements full sized coarse := by
    have refused := coarse_refused s dst full sized coarse
    exact ⟨refused, Holdings.next_of_error refused⟩
  readoptedBuffer src raw dst b bytes rest present kept := mirrors.readoptBuffer present kept raw dst
  readoptedVector src raw dst v elements rest present kept :=
    mirrors.readoptVector present kept raw dst

/-- However regions change hands, every owner has the contents that plain values would have. -/
theorem run_faithful (requests : List Request) (abides : ({} : Holdings).Abides requests) :
    Faithful (({} : Holdings).run requests) (Contents.run {} requests) :=
  (Mirrors.start.run abides).faithful

/-- A vector is written to, goes through a raw pointer and comes back, is turned around and read
outside, next to a text and units that change hands. -/
def travels : List Request :=
  [ .act (.copyElements "pair" { size := 4, align := 4 } [1, 2]),
    .act (.copyBytes "text" [7, 8]),
    .act (.set "pair" 1 40),
    .act (.leak "pair" "raw"),
    .act (.assign "text" "other"),
    .act (.adoptVector "raw" "back" { size := 4, align := 4 } 2),
    .act (.copyElements "units" { size := 0, align := 1 } [0, 0, 0]),
    .reverse "back",
    .get "back" 2,
    .act (.take "units" "more") ]

theorem travels_faithful :
    ({} : Holdings).Abides travels ∧
      ∃ s : Holdings, s = ({} : Holdings).run travels ∧
        Faithful s (Contents.run {} travels) ∧
        (∃ v, s.held.get? "back" = some (.vector v) ∧ v.elements s.memory = .ok [40, 1]) ∧
        (∃ v, s.held.get? "more" = some (.vector v) ∧ v.elements s.memory = .ok [0, 0, 0]) := by
  have abides : ({} : Holdings).Abides travels := by
    refine ⟨⟨trivial, by decide, by decide⟩, ⟨trivial, trivial⟩, ⟨⟨_, rfl⟩, ?_⟩, ⟨⟨_, rfl⟩, trivial⟩,
      ⟨⟨_, rfl⟩, trivial⟩, ⟨⟨_, rfl, _, rfl, by decide⟩, trivial⟩, ⟨trivial, by decide, by decide⟩,
      ⟨_, rfl⟩, ⟨_, rfl⟩, ⟨⟨_, rfl⟩, trivial⟩, trivial⟩
    rintro v same
    cases same
    decide
  exact ⟨abides, _, rfl, run_faithful travels abides, ⟨_, rfl, rfl⟩, ⟨_, rfl, rfl⟩⟩

end Custody.Memory
