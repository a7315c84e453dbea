import Custody.Proofs.Memory.Mirrors

/-!
# Operations on memory and on plain values

Where memory mirrors plain values, every operation that keeps its contract goes the same way on both:
it is stopped with the same message, or it gives the same reply and memory mirrors the values again.
-/

set_option autoImplicit false

namespace Custody.Memory

/-- Two computations are stopped alike, or both return and what they return is related. -/
inductive Matched {α β : Type} (related : α → β → Prop) : Except Stop α → Except Stop β → Prop where
  | ok {a : α} {b : β} (holds : related a b) : Matched related (.ok a) (.ok b)
  | stop (stop : Stop) : Matched related (.error stop) (.error stop)

theorem Matched.map {α β γ δ : Type} {related : α → β → Prop} {further : γ → δ → Prop} {f : α → γ}
    {g : β → δ} {left : Except Stop α} {right : Except Stop β} (matched : Matched related left right)
    (onward : ∀ a b, related a b → further (f a) (g b)) :
    Matched further (left.map f) (right.map g) := by
  cases matched with
  | ok holds => exact .ok (onward _ _ holds)
  | stop stop => exact .stop stop

/-! ## What memory grants -/

theorem granted_cases (layout : Layout) :
    (∃ stop, granted layout = .error stop ∧ ∀ m : Memory, m.allocate layout = .error stop) ∨
    (granted layout = .ok () ∧ IsSize layout.size ∧ layout.align ≤ guaranteedAlignment) := by
  unfold granted allocate
  by_cases empty : layout.size = 0
  · simp only [if_pos empty]
    exact .inl ⟨_, rfl, fun _ => rfl⟩
  by_cases coarse : guaranteedAlignment < layout.align
  · simp only [if_neg empty, if_pos coarse]
    exact .inl ⟨_, rfl, fun _ => rfl⟩
  by_cases large : sizeLimit ≤ layout.size
  · simp only [if_neg empty, if_neg coarse, if_pos large]
    exact .inl ⟨_, rfl, fun _ => rfl⟩
  · simp only [if_neg empty, if_neg coarse, if_neg large]
    exact .inr ⟨trivial, ⟨Nat.pos_of_ne_zero empty, Nat.lt_of_not_le large⟩, Nat.le_of_not_lt coarse⟩

namespace Mirrors

variable {s : Holdings} {p : Contents} {src dst : String} {x : Holding} {value : Value}

theorem stored (mirrors : Mirrors s p) (carrying : s.Carrying x) (shows : x.Shows s.memory value)
    (dst : String) : Matched Mirrors (s.store dst x) (.ok (p.put dst value)) := by
  obtain ⟨after, stored, mirrors⟩ := mirrors.store carrying shows dst
  rw [stored]
  exact .ok mirrors

/-! ## New regions -/

theorem copyBytes (mirrors : Mirrors s p) (dst : String) (bytes : List UInt8) :
    Matched Mirrors (s.step (.copyBytes dst bytes)) (p.step (.copyBytes dst bytes)) := by
  simp only [Holdings.step, Contents.step, Value.ofBytes]
  by_cases empty : bytes = []
  · subst empty
    have carrying := mirrors.sound.blank Holding.emptyBuffer_isBlank
    exact mirrors.stored carrying (shows_emptyBuffer s.memory) dst
  · obtain ⟨stop, refused, failed⟩ | ⟨fine, size, -⟩ :=
      granted_cases { size := bytes.length, align := 1 }
    · rw [if_neg empty, if_neg empty, refused, Buffer.ofBytes_refused empty (failed s.memory)]
      exact .stop stop
    · obtain ⟨id, memory, copied, obtained⟩ := Buffer.ofBytes_ok s.memory size
      let b : Buffer := { pointer := .block id, length := bytes.length }
      have carrying := mirrors.sound.obtained (x := .buffer b) obtained size rfl (Nat.le_refl _)
      have shows : (Holding.buffer b).Shows memory (.buffer bytes (.bytes [])) := by
        refine ⟨rfl, .bytes ?_, trivial⟩
        rw [obtained.block?_eq, if_pos rfl, List.append_nil]
      rw [if_neg empty, if_neg empty, fine, copied]
      exact (mirrors.obtained obtained size).stored carrying shows dst

theorem copyElements (mirrors : Mirrors s p) (dst : String) {element : Layout} {elements : List Nat}
    (valid : element.isValid = true) (fits : ∀ bits ∈ elements, bits < patterns element.size) :
    Matched Mirrors (s.step (.copyElements dst element elements))
      (p.step (.copyElements dst element elements)) := by
  simp only [Holdings.step, Contents.step, Value.ofElements]
  by_cases empty : elements = []
  · subst empty
    have carrying := mirrors.sound.blank (Holding.emptyVector_isBlank element)
    exact mirrors.stored carrying (shows_emptyVector s.memory element) dst
  by_cases unsized : element.size = 0
  · let v : ElementVector :=
      { element, pointer := .ofAddress (.ofNat element.align), length := elements.length }
    have carrying := mirrors.sound.unheld (x := .vector v) (Pointer.ofAddress_ne_block _)
      (by rw [Holding.byteLength, ElementVector.byteLength, unsized, Nat.mul_zero])
    have row : elements.flatMap (encode element.size) = [] := by
      refine List.eq_nil_of_length_eq_zero ?_
      rw [length_encoded, unsized, Nat.mul_zero]
    have shows : (Holding.vector v).Shows s.memory (.vector element elements .nothing) := by
      refine ⟨⟨rfl, rfl⟩, ?_, Value.isProper_units row fits⟩
      have behind := behind_ofAlign s.memory element.align
      rw [Cargo.ofAlign, if_neg (align_ne_zero_of_isValid valid)] at behind
      exact behind
    have covered : elements = [] ∨ element.size = 0 := .inr unsized
    rw [ElementVector.ofElements_unsized s.memory unsized empty, if_neg empty, if_pos unsized,
      if_pos covered]
    exact mirrors.stored carrying shows dst
  · have full : ¬(elements = [] ∨ element.size = 0) := not_or.2 ⟨empty, unsized⟩
    obtain ⟨stop, refused, failed⟩ | ⟨fine, size, align⟩ :=
      granted_cases { size := elements.length * element.size, align := element.align }
    · rw [if_neg full, refused, ElementVector.ofElements_refused empty unsized (failed s.memory)]
      exact .stop stop
    · obtain ⟨id, memory, copied, obtained⟩ := ElementVector.ofElements_ok s.memory size align
      let v : ElementVector := { element, pointer := .block id, length := elements.length }
      have length := length_encoded element.size elements
      have size : IsSize (elements.flatMap (encode element.size)).length := length ▸ size
      have carrying := mirrors.sound.obtained (x := .vector v) obtained size rfl
        (Nat.le_of_eq length.symm)
      have shows : (Holding.vector v).Shows memory (.vector element elements (.bytes [])) := by
        refine ⟨⟨rfl, rfl⟩, .bytes ?_, Value.isProper_row [] fits⟩
        rw [obtained.block?_eq, if_pos rfl, List.append_nil]
      rw [if_neg full, if_neg empty, if_neg unsized, fine, copied]
      exact (mirrors.obtained obtained size).stored carrying shows dst

theorem allocate (mirrors : Mirrors s p) (dst : String) (layout : Layout) :
    Matched Mirrors (s.step (.allocate dst layout)) (p.step (.allocate dst layout)) := by
  simp only [Holdings.step, Contents.step]
  obtain ⟨stop, refused, failed⟩ | ⟨fine, size, align⟩ := granted_cases layout
  · rw [refused, failed s.memory]
    exact .stop stop
  · obtain ⟨id, memory, allocated, obtained⟩ := s.memory.allocate_ok layout size align
    have size : IsSize (List.replicate layout.size (0 : UInt8)).length := by
      rwa [List.length_replicate]
    have carrying := mirrors.sound.obtained (x := .region (.block id)) obtained size rfl
      (Nat.zero_le _)
    have live := (obtained.block?_eq id).trans (if_pos rfl)
    rw [fine, allocated]
    exact (mirrors.obtained obtained size).stored carrying (Behind.bytes live).region dst

/-! ## Regions that change hands -/

theorem adoptBuffer (mirrors : Mirrors s p) {q : Pointer} {length : Nat}
    (present : s.held.get? src = some (.region q))
    (adoptable : Holdings.Adoptable s.memory q length) (dst : String) :
    Matched Mirrors (s.step (.adoptBuffer src dst length)) (p.step (.adoptBuffer src dst length)) := by
  obtain ⟨value, kept, shows⟩ := mirrors.exists_value present
  have carrying := (mirrors.sound.erase present).adoptBuffer adoptable
  have matched := (mirrors.erase present).stored carrying (shows.behind.adoptBuffer adoptable) dst
  simpa only [Holdings.step, Contents.step, Holdings.moving, Contents.moving, Contents.withValue,
    Holdings.withHeld_eq present, kept, Holding.pointer] using matched

theorem adoptVector (mirrors : Mirrors s p) {q : Pointer} {element : Layout} {length : Nat}
    (present : s.held.get? src = some (.region q))
    (adoptable : Holdings.Adoptable s.memory q (length * element.size)) (dst : String) :
    Matched Mirrors (s.step (.adoptVector src dst element length))
      (p.step (.adoptVector src dst element length)) := by
  obtain ⟨value, kept, shows⟩ := mirrors.exists_value present
  have carrying := (mirrors.sound.erase present).adoptVector adoptable
  have matched := (mirrors.erase present).stored carrying (shows.behind.adoptVector adoptable) dst
  simpa only [Holdings.step, Contents.step, Holdings.moving, Contents.moving, Contents.withValue,
    Holdings.withHeld_eq present, kept, Holding.pointer] using matched

theorem take (mirrors : Mirrors s p) (present : s.held.get? src = some x) (dst : String) :
    Matched Mirrors (s.step (.take src dst)) (p.step (.take src dst)) := by
  obtain ⟨value, kept, shows⟩ := mirrors.exists_value present
  have carrying := mirrors.sound.put_blank present x.take_isBlank
  have matched := (mirrors.put_blank present x.take_isBlank shows.taken).stored carrying shows dst
  simpa only [Holdings.step, Contents.step, Contents.withValue, Holdings.withHeld_eq present,
    kept, x.take_fst] using matched

theorem assign (mirrors : Mirrors s p) (present : s.held.get? src = some x) (dst : String) :
    Matched Mirrors (s.step (.assign src dst)) (p.step (.assign src dst)) := by
  obtain ⟨value, kept, shows⟩ := mirrors.exists_value present
  have carrying := mirrors.sound.erase present
  have matched := (mirrors.erase present).stored carrying shows dst
  simpa only [Holdings.step, Contents.step, Holdings.moving, Contents.moving, Contents.withValue,
    Holdings.withHeld_eq present, kept] using matched

theorem leak (mirrors : Mirrors s p) (present : s.held.get? src = some x) (dst : String) :
    Matched Mirrors (s.step (.leak src dst)) (p.step (.leak src dst)) := by
  obtain ⟨value, kept, shows⟩ := mirrors.exists_value present
  have carrying := (mirrors.sound.put_blank present x.leak_isBlank).leak
  have left : (x.leak.2).Shows s.memory value.blank := x.leak_snd ▸ shows.taken
  have vacated := mirrors.put_blank present x.leak_isBlank left
  have matched := vacated.stored carrying shows.behind.region dst
  simpa only [Holdings.step, Contents.step, Contents.withValue, Holdings.withHeld_eq present,
    kept, x.leak_fst] using matched

theorem drop (mirrors : Mirrors s p) (present : s.held.get? src = some x) :
    Matched Mirrors (s.step (.drop src)) (p.step (.drop src)) := by
  obtain ⟨value, kept, shows⟩ := mirrors.exists_value present
  have carrying := mirrors.sound.erase present
  obtain ⟨after, dropped, ended⟩ := carrying.backed.drop
  simp only [Holdings.step, Contents.step, Holdings.moving, Contents.moving, Contents.withValue,
    Holdings.withHeld_eq present, kept]
  rw [dropped]
  exact .ok ((mirrors.erase present).ended carrying ended)

theorem release (mirrors : Mirrors s p) {q : Pointer} (present : s.held.get? src = some (.region q))
    (releasable : Holdings.Releasable s.memory q) :
    Matched Mirrors (s.step (.release src)) (p.step (.release src)) := by
  obtain ⟨value, kept, shows⟩ := mirrors.exists_value present
  have vacated := mirrors.erase present
  simp only [Holdings.step, Contents.step, Holdings.moving, Contents.moving, Contents.withValue,
    Holdings.withHeld_eq present, kept, Holding.pointer]
  obtain rfl | ⟨id, bytes, rfl, live⟩ := releasable
  · exact .ok vacated
  · obtain ⟨after, released, freed⟩ := release_block live
    rw [released]
    exact .ok (vacated.freed (mirrors.sound.erase present) rfl freed)

theorem reallocate (mirrors : Mirrors s p) {q : Pointer} {oldSize : Nat}
    (present : s.held.get? src = some (.region q)) (lawful : s.memory.Reallocatable q oldSize)
    (dst : String) (layout : Layout) :
    Matched Mirrors (s.step (.reallocate src dst oldSize layout))
      (p.step (.reallocate src dst oldSize layout)) := by
  obtain ⟨value, kept, shows⟩ := mirrors.exists_value present
  have carrying := mirrors.sound.erase present
  have vacated := mirrors.erase present
  simp only [Holdings.step, Contents.step, Holdings.moving, Contents.moving, Contents.withValue,
    Holdings.withHeld_eq present, kept, Holding.pointer]
  by_cases refused : layout.size ≠ 0 ∧ (guaranteedAlignment < layout.align ∨ sizeLimit ≤ layout.size)
  · obtain ⟨some, refused⟩ := refused
    rw [realloc_refused q oldSize some refused, if_neg some, if_pos refused]
    exact .stop _
  · have granted := (Decidable.not_and_iff_not_or_not.1 refused).imp Decidable.not_not.1 id
    obtain ⟨new, memory, done, reallocated⟩ := realloc_granted mirrors.sound.memory lawful granted
    rw [done]
    cases reallocated with
    | nothing empty unheld =>
        rw [if_pos empty]
        have carrying := vacated.sound.unheld (x := .region (.ofAddress (.ofNat layout.align)))
          (Pointer.ofAddress_ne_block _) rfl
        exact vacated.stored carrying (behind_ofAlign _ _).region dst
    | freed empty pointer freed =>
        rw [if_pos empty]
        have freed := vacated.freed carrying pointer freed
        have carrying := freed.sound.unheld (x := .region (.ofAddress (.ofNat layout.align)))
          (Pointer.ofAddress_ne_block _) rfl
        exact freed.stored carrying (behind_ofAlign _ _).region dst
    | @obtained id memory size unheld obtained =>
        rw [if_neg (Nat.ne_of_gt size.1), if_neg (granted.resolve_left (Nat.ne_of_gt size.1))]
        have size : IsSize (List.replicate layout.size (0 : UInt8)).length := by
          rwa [List.length_replicate]
        have carrying := vacated.sound.obtained (x := .region (.block id)) obtained size rfl
          (Nat.zero_le _)
        have live := (obtained.block?_eq id).trans (if_pos rfl)
        have cargo := shows.behind.reallocated_new unheld layout.size
        exact cargo ▸ (vacated.obtained obtained size).stored carrying (Behind.bytes live).region dst
    | @moved id new bytes memory size pointer live moved =>
        rw [if_neg (Nat.ne_of_gt size.1), if_neg (granted.resolve_left (Nat.ne_of_gt size.1))]
        have size : IsSize (resized bytes layout.size).length := by
          rwa [length_resized]
        have carried := carrying.moved pointer moved size
        have present := (moved.block?_eq new).trans (if_pos rfl)
        have cargo := shows.behind.reallocated_old pointer live layout.size
        exact cargo ▸ (vacated.moved carrying pointer moved size).stored carried
          (Behind.bytes present).region dst

/-! ## Contents that are looked at and written to -/

theorem view (mirrors : Mirrors s p) (present : s.held.get? src = some x) :
    Matched Mirrors (s.step (.view src)) (p.step (.view src)) := by
  obtain ⟨value, kept, shows⟩ := mirrors.exists_value present
  simp only [Holdings.step, Contents.step, Contents.withValue, Holdings.withHeld_eq present, kept,
    (mirrors.sound.backed src x present).view]
  exact .ok mirrors

theorem get (mirrors : Mirrors s p) {v : ElementVector}
    (present : s.held.get? src = some (.vector v)) (index : Nat) :
    Matched Mirrors (s.step (.get src index)) (p.step (.get src index)) := by
  obtain ⟨elements, rest, kept, shows⟩ := mirrors.exists_vector present
  simp only [Holdings.step, Contents.step, Holdings.withVector, Contents.withVector,
    Contents.withValue, Holdings.withHeld_eq present, kept, shows.get_eq]
  by_cases below : index < elements.length
  · rw [List.getElem?_eq_getElem below, if_pos below]
    exact .ok mirrors
  · rw [List.getElem?_eq_none (Nat.le_of_not_lt below), if_neg below]
    exact .stop _

theorem set (mirrors : Mirrors s p) {v : ElementVector}
    (present : s.held.get? src = some (.vector v)) (index : Nat) {bits : Nat}
    (fits : bits < patterns v.element.size) :
    Matched Mirrors (s.step (.set src index bits)) (p.step (.set src index bits)) := by
  obtain ⟨elements, rest, kept, shows⟩ := mirrors.exists_vector present
  simp only [Holdings.step, Contents.step, Holdings.withVector, Contents.withVector,
    Contents.withValue, Holdings.withHeld_eq present, kept, ElementVector.set, shows.length_eq]
  by_cases below : index < elements.length
  · obtain ⟨after, written, altered, shows⟩ := shows.setUnchecked_ok below fits
    rw [if_pos below, if_pos below, written]
    exact .ok (mirrors.altered present altered shows)
  · rw [if_neg below, if_neg below]
    exact .stop _

/-! ## Whatever a guest does -/

theorem step (mirrors : Mirrors s p) {act : Act} (permitted : s.Permitted act) (typed : s.Typed act) :
    Matched Mirrors (s.step act) (p.step act) := by
  cases act with
  | newBuffer dst =>
      have carrying := mirrors.sound.blank Holding.emptyBuffer_isBlank
      exact mirrors.stored carrying (shows_emptyBuffer s.memory) dst
  | copyBytes dst bytes => exact mirrors.copyBytes dst bytes
  | adoptBuffer src dst length =>
      obtain ⟨q, present, adoptable⟩ := permitted
      exact mirrors.adoptBuffer present adoptable dst
  | newVector dst element =>
      have carrying := mirrors.sound.blank (Holding.emptyVector_isBlank element)
      exact mirrors.stored carrying (shows_emptyVector s.memory element) dst
  | copyElements dst element elements => exact mirrors.copyElements dst typed.1 typed.2
  | adoptVector src dst element length =>
      obtain ⟨q, present, adoptable⟩ := permitted
      exact mirrors.adoptVector present adoptable dst
  | take src dst =>
      obtain ⟨x, present⟩ := permitted
      exact mirrors.take present dst
  | assign src dst =>
      obtain ⟨x, present⟩ := permitted
      exact mirrors.assign present dst
  | leak src dst =>
      obtain ⟨x, present⟩ := permitted
      exact mirrors.leak present dst
  | drop src =>
      obtain ⟨x, present⟩ := permitted
      exact mirrors.drop present
  | view src =>
      obtain ⟨x, present⟩ := permitted
      exact mirrors.view present
  | get src index =>
      obtain ⟨v, present⟩ := permitted
      exact mirrors.get present index
  | set src index bits =>
      obtain ⟨v, present⟩ := permitted
      exact mirrors.set present index (typed v present)
  | allocate dst layout => exact mirrors.allocate dst layout
  | release src =>
      obtain ⟨q, present, releasable⟩ := permitted
      exact mirrors.release present releasable
  | reallocate src dst oldSize layout =>
      obtain ⟨q, present, lawful⟩ := permitted
      exact mirrors.reallocate present lawful dst layout

/-- The same reply, and states that mirror each other. -/
def Answered (left : Reply × Holdings) (right : Reply × Contents) : Prop :=
  left.1 = right.1 ∧ Mirrors left.2 right.2

theorem perform (mirrors : Mirrors s p) {request : Request} (permits : s.Permits request) :
    Matched Answered (s.perform request) (p.perform request) := by
  cases request with
  | act act =>
      exact (mirrors.step permits.1 permits.2).map fun _ _ mirrors => ⟨rfl, mirrors⟩
  | length src =>
      obtain ⟨x, present⟩ := permits
      obtain ⟨value, kept, shows⟩ := mirrors.exists_value present
      simp only [Holdings.perform, Contents.perform, Holdings.looking, Contents.withValue, present,
        kept]
      have suits := shows.suits
      cases x <;> cases value <;> first | exact suits.elim | skip
      · exact .ok ⟨congrArg Reply.length suits, mirrors⟩
      · exact .ok ⟨congrArg Reply.length suits.2, mirrors⟩
      · exact .ok ⟨rfl, mirrors⟩
  | bytes src =>
      obtain ⟨b, present⟩ := permits
      obtain ⟨bytes, rest, kept, shows⟩ := mirrors.exists_buffer present
      simp only [Holdings.perform, Contents.perform, Holdings.looking, Contents.withValue, present,
        kept, shows.bytes_ok]
      exact .ok ⟨rfl, mirrors⟩
  | elements src =>
      obtain ⟨v, present⟩ := permits
      obtain ⟨elements, rest, kept, shows⟩ := mirrors.exists_vector present
      simp only [Holdings.perform, Contents.perform, Holdings.looking, Contents.withVector,
        Contents.withValue, present, kept, shows.elements_ok]
      exact .ok ⟨rfl, mirrors⟩
  | get src index =>
      obtain ⟨v, present⟩ := permits
      obtain ⟨elements, rest, kept, shows⟩ := mirrors.exists_vector present
      simp only [Holdings.perform, Contents.perform, Holdings.looking, Contents.withVector,
        Contents.withValue, present, kept, shows.get_eq]
      cases elements[index]? with
      | some bits => exact .ok ⟨rfl, mirrors⟩
      | none => exact .stop _
  | getUnchecked src index =>
      obtain ⟨v, present, below⟩ := permits
      obtain ⟨elements, rest, kept, shows⟩ := mirrors.exists_vector present
      have below : index < elements.length := shows.length_eq ▸ below
      simp only [Holdings.perform, Contents.perform, Holdings.looking, Contents.withVector,
        Contents.withValue, present, kept, shows.getUnchecked_ok below,
        List.getElem?_eq_getElem below]
      exact .ok ⟨rfl, mirrors⟩
  | setUnchecked src index bits =>
      obtain ⟨v, present, below, fits⟩ := permits
      obtain ⟨elements, rest, kept, shows⟩ := mirrors.exists_vector present
      obtain ⟨after, written, altered, shows⟩ :=
        shows.setUnchecked_ok (shows.length_eq ▸ below) fits
      simp only [Holdings.perform, Contents.perform, Holdings.writing, Contents.withVector,
        Contents.withValue, present, kept, written]
      exact .ok ⟨rfl, mirrors.altered present altered shows⟩
  | reverse src =>
      obtain ⟨v, present⟩ := permits
      obtain ⟨elements, rest, kept, shows⟩ := mirrors.exists_vector present
      obtain ⟨after, written, altered, shows⟩ := shows.reverse_ok
      simp only [Holdings.perform, Contents.perform, Holdings.writing, Contents.withVector,
        Contents.withValue, present, kept, written]
      exact .ok ⟨rfl, mirrors.altered present altered shows⟩
  | readRegion src offset size =>
      obtain ⟨id, bytes, present, live, inside⟩ := permits
      simp only [Holdings.perform, Contents.perform, Holdings.looking, Contents.withValue, present,
        mirrors.exists_region present live, Holding.pointer, read_block live inside]
      exact .ok ⟨rfl, mirrors⟩
  | writeRegion src offset new =>
      obtain ⟨id, bytes, present, live, inside⟩ := permits
      obtain ⟨after, written, rewritten⟩ := write_block new offset live inside
      have altered : Altered s.memory (.block id) after :=
        .rewritten rfl live (length_patched inside) rewritten
      have content := (rewritten.block?_eq id).trans (if_pos rfl)
      simp only [Holdings.perform, Contents.perform, Holdings.writing, Contents.withValue, present,
        mirrors.exists_region present live, Holding.pointer, written]
      exact .ok ⟨rfl, mirrors.altered present altered (Behind.bytes content).region⟩

theorem next (mirrors : Mirrors s p) {request : Request} (permits : s.Permits request) :
    Mirrors (s.next request) (p.next request) := by
  have matched := mirrors.perform permits
  unfold Holdings.next Contents.next
  generalize s.perform request = left at matched
  generalize p.perform request = right at matched
  cases matched with
  | ok answered => exact answered.2
  | stop _ => exact mirrors

theorem run (mirrors : Mirrors s p) {requests : List Request} (abides : s.Abides requests) :
    Mirrors (s.run requests) (p.run requests) := by
  induction requests generalizing s p with
  | nil => exact mirrors
  | cons request rest ih => exact ih (mirrors.next abides.1) abides.2

end Mirrors

end Custody.Memory
