import Mathlib.Algebra.Ring.Nat
import Mathlib.Data.List.Nodup
import Custody.Proofs.Host.Installation

/-!
# What a flush has done when it returns

Drop requests are numbered as they are accepted, by whatever host is there, and a number follows its
destructor: into the queue, into the batch of a flush, to the point where it is started, or away with a
host that is replaced. A flush can be called anywhere, inside destructors too, so flushes nest. Each
takes what it finds in the queue. What an outer flush has taken out before is out of its reach, and what
a nested flush has run is not in the number that the outer one returns.
-/

set_option autoImplicit false

namespace Custody.Host

def Activation.total : Activation → Nat
  | .dropping _ => 0
  | .flushing _ _ total => total

/-- The host after a request that starts no destructor and queues none. -/
def serve (host : Host) : Request → Host
  | .register mode call => (host.register mode call).2
  | .lend mode name =>
      match host.lend mode name with
      | .ok (_, host) => host
      | .error _ => host
  | .release h => (host.release h).2
  | .takeFaults => host.takeFaults.2
  | .drop _ | .settle | .rep _ | .flush | .finish => host

theorem insert_pending {host after : Host} {mode : Mode} {entry : Entry} {h : Handle}
    (success : host.insert mode entry = .ok (h, after)) : after.pending = host.pending := by
  obtain ⟨_, _, _, _, _, rfl⟩ := insert_eq_ok success
  rfl

theorem vacate_pending {host after : Host} {slot : Nat} (success : host.vacate slot = .ok after) :
    after.pending = host.pending := by
  obtain ⟨⟨_, table⟩, _, same⟩ := except_bind_eq_ok success
  cases same
  rfl

theorem unregister_pending (host : Host) (h : Handle) :
    (host.unregister h).2.pending = host.pending := by
  unfold unregister
  dsimp only
  split
  · rename_i call after removed
    obtain ⟨_, _, removed⟩ := except_bind_eq_ok removed
    obtain ⟨_, vacated, same⟩ := except_bind_eq_ok removed
    cases same
    have kept := vacate_pending vacated
    exact kept
  · rfl

theorem serve_pending (host : Host) (request : Request) :
    (host.serve request).pending = host.pending := by
  cases request with
  | register mode call =>
      simp only [serve, register]
      cases inserted : host.insert mode (.exported call) with
      | error fault => rfl
      | ok success =>
          have kept := insert_pending inserted
          exact kept
  | lend mode name =>
      simp only [serve]
      cases lent : host.lend mode name with
      | error fault => rfl
      | ok success =>
          obtain ⟨_, inserted, same⟩ := except_bind_eq_ok lent
          cases same
          have kept := insert_pending inserted
          exact kept
  | release h =>
      simp only [serve, release]
      split
      · rename_i after removed
        obtain ⟨_, _, vacated⟩ := except_bind_eq_ok removed
        have kept := vacate_pending vacated
        exact kept
      · rfl
  | drop h => rfl
  | settle => rfl
  | rep h => rfl
  | flush => rfl
  | takeFaults => rfl
  | finish => rfl

namespace Machine

/-- A drop request is refused, waits, or starts its destructor. -/
theorem drop_cases (m : Machine) (h : Handle) :
    (∃ fault host, m.drop h = (.rejected fault, { m with host }) ∧ host.pending = m.host.pending) ∨
    (∃ call host, m.drop h = (.queued, { m with host }) ∧
      host.pending = m.host.pending ++ [call]) ∨
    ∃ call host, m.drop h = (.started call, { host, active := .dropping call :: m.active }) ∧
      host.pending = m.host.pending := by
  have kept := unregister_pending m.host h
  unfold drop settle
  generalize m.host.unregister h = taken at kept ⊢
  obtain ⟨fault | call, host⟩ := taken
  · exact .inl ⟨fault, host, rfl, kept⟩
  · cases timing : host.config.timing with
    | immediate => exact .inr (.inr ⟨call, host, by simp only [timing], kept⟩)
    | deferred =>
        refine .inr (.inl ⟨call, { host with pending := host.pending ++ [call] }, ?_, ?_⟩)
        · simp only [timing]
        · exact congrArg (· ++ [call]) kept

/-- A flush answers when nothing waits, and otherwise takes all that waits. -/
theorem nextBatch_cases (m : Machine) (total : Nat) :
    (m.host.pending = [] ∧ m.nextBatch total = (.flushed total, m)) ∨
    ∃ call rest, m.host.pending = call :: rest ∧
      m.nextBatch total =
        (.started call,
          { host := { m.host with pending := [] }
            active := .flushing call rest (total + (rest.length + 1)) :: m.active }) := by
  unfold nextBatch
  cases pending : m.host.pending with
  | nil => exact .inl ⟨rfl, rfl⟩
  | cons call rest => exact .inr ⟨call, rest, rfl, rfl⟩

/-- The machine when a destructor has returned to one of these calls. -/
def back (m : Machine) (active : List Activation) : Machine :=
  { host := { m.host with counters.destructorsRun := m.host.counters.destructorsRun + 1 }
    active }

/-- A call goes on according to what it was: a drop request is done, and a flush starts the next
destructor of its batch or looks for another batch. -/
theorem finish_cases {m : Machine} {activation : Activation} {under : List Activation}
    (active : m.active = activation :: under) :
    (∃ call, activation = .dropping call ∧ m.finish = (.dropped, m.back under)) ∨
    (∃ call next rest total, activation = .flushing call (next :: rest) total ∧
      m.finish = (.started next, m.back (.flushing next rest total :: under))) ∨
    ∃ call total, activation = .flushing call [] total ∧
      m.finish = (m.back under).nextBatch total := by
  unfold finish
  rw [active]
  cases activation with
  | dropping call => exact .inl ⟨call, rfl, rfl⟩
  | flushing call rest total =>
      cases rest with
      | nil => exact .inr (.inr ⟨call, total, rfl, rfl⟩)
      | cons next rest => exact .inr (.inl ⟨call, next, rest, total, rfl, rfl⟩)

theorem nextBatch_flushed {m : Machine} {total count : Nat}
    (answered : (m.nextBatch total).1 = .flushed count) :
    (m.nextBatch total).2.host.pending = [] := by
  obtain ⟨pending, taken⟩ | ⟨call, rest, _, taken⟩ := m.nextBatch_cases total
  · rw [taken]
    exact pending
  · rw [taken] at answered
    cases answered

theorem finish_flushed {m : Machine} {activation : Activation} {under : List Activation}
    {count : Nat} (active : m.active = activation :: under)
    (answered : m.finish.1 = .flushed count) : m.finish.2.host.pending = [] := by
  obtain ⟨_, _, finished⟩ | ⟨_, _, _, _, _, finished⟩ | ⟨_, total, _, finished⟩ :=
    finish_cases active
  · rw [finished] at answered
    cases answered
  · rw [finished] at answered
    cases answered
  · rw [finished] at answered ⊢
    exact nextBatch_flushed answered

theorem nextBatch_active_suffix (m : Machine) (total : Nat) :
    m.active <:+ (m.nextBatch total).2.active := by
  obtain ⟨_, taken⟩ | ⟨call, rest, _, taken⟩ := m.nextBatch_cases total
  · exact taken ▸ List.suffix_rfl
  · rw [taken]
    exact List.suffix_cons _ _

theorem finish_active_suffix {m : Machine} {activation : Activation} {under : List Activation}
    (active : m.active = activation :: under) : under <:+ m.finish.2.active := by
  obtain ⟨_, _, finished⟩ | ⟨_, _, _, _, _, finished⟩ | ⟨_, total, _, finished⟩ :=
    finish_cases active
  · rw [finished]
    exact List.suffix_rfl
  · rw [finished]
    exact List.suffix_cons _ _
  · rw [finished]
    exact nextBatch_active_suffix (m.back under) total

end Machine

/-- What can happen next: guest code asks for something or returns from a destructor, or a host is
installed in place of the one that is there. -/
inductive Occurrence where
  | asked (request : Request)
  | installed (config : HostConfig)

/-- The drop requests accepted so far, numbered in their order, with what became of them. -/
structure Docket where
  machine : Machine
  accepted : Nat := 0
  queued : List Nat := []
  /-- The calls under way, the innermost in front. -/
  frames : List Frame := []
  started : List Nat := []
  /-- Those that a host took with it when it was replaced. -/
  discarded : List Nat := []
  /-- What the flushes that have returned have answered, added up. -/
  answered : Nat := 0
  /-- How many destructors were started by the drop requests themselves. -/
  direct : Nat := 0

namespace Docket

def start (config : HostConfig) : Docket := { machine := .start config }

def withHost (d : Docket) (host : Host) : Docket := { d with machine := { d.machine with host } }

/-- Those that flushes under way have taken out of the queue and not yet started. -/
def batched (d : Docket) : List Nat := d.frames.flatMap Frame.rest

def begin (d : Docket) (n : Nat) (rest : List Nat) : Docket :=
  { d with frames := { running := n, rest } :: d.frames, started := d.started ++ [n] }

/-- Goes on as the machine does: with the rest of a batch, with a new one, or with an answer. -/
def resume (d : Docket) (rest : List Nat) : Continuation → Docket
  | .started _ =>
      match rest, d.queued with
      | n :: rest, _ => d.begin n rest
      | [], n :: rest => { d with queued := [] }.begin n rest
      | [], [] => d
  | .flushed count => { d with answered := d.answered + count }
  | .dropped | .idle => d

def goOn (d : Docket) (rest : List Nat) (result : Continuation × Machine) : Docket :=
  { d with machine := result.2 }.resume rest result.1

def step (d : Docket) : Occurrence → Docket
  | .asked (.drop h) =>
      match d.machine.drop h with
      | (.rejected _, machine) => { d with machine }
      | (.queued, machine) =>
          { d with machine, accepted := d.accepted + 1, queued := d.queued ++ [d.accepted] }
      | (.started _, machine) =>
          { d with machine, accepted := d.accepted + 1, direct := d.direct + 1 }.begin d.accepted []
  | .asked .flush => d.goOn [] d.machine.flush
  | .asked .finish =>
      match d.frames with
      | [] => d
      | frame :: frames => { d with frames }.goOn frame.rest d.machine.finish
  | .asked request => d.withHost (d.machine.host.serve request)
  | .installed config =>
      { d with
        machine := d.machine.install config
        queued := []
        discarded := d.discarded ++ d.queued }

def run (config : HostConfig) (occurrences : List Occurrence) : Docket :=
  occurrences.foldl step (start config)

theorem step_finish {d : Docket} {frame : Frame} {outer : List Frame}
    (frames : d.frames = frame :: outer) :
    d.step (.asked .finish) = { d with frames := outer }.goOn frame.rest d.machine.finish := by
  simp only [step, frames]

/-! ## The numbers keep step with the machine -/

/-- A number stands for each destructor that waits or is in a batch, every number is in one place, and
each destructor that a flush has taken is in its total. `carried` is the total of a flush that is
between two batches. -/
structure Kept (carried : Nat) (d : Docket) : Prop where
  queued_eq : d.queued.length = d.machine.host.pending.length
  frames_eq : d.frames.map (·.rest.length) = d.machine.active.map (·.rest.length)
  numbers : (d.queued ++ d.batched ++ d.started ++ d.discarded).Perm (List.range d.accepted)
  account : d.started.length + d.batched.length =
    d.answered + (d.machine.active.map Activation.total).sum + d.direct + carried

theorem kept_start (config : HostConfig) : (start config).Kept 0 where
  queued_eq := rfl
  frames_eq := rfl
  numbers := .refl _
  account := rfl

variable {d : Docket}

theorem Kept.depth_eq {carried : Nat} (kept : d.Kept carried) :
    d.frames.length = d.machine.active.length := by
  simpa using congrArg List.length kept.frames_eq

theorem Kept.withHost (kept : d.Kept 0) {host : Host}
    (pending : host.pending = d.machine.host.pending) : (d.withHost host).Kept 0 where
  queued_eq := kept.queued_eq.trans (by rw [← pending]; rfl)
  frames_eq := kept.frames_eq
  numbers := kept.numbers
  account := kept.account

theorem Kept.drop (kept : d.Kept 0) (h : Handle) : (d.step (.asked (.drop h))).Kept 0 := by
  simp only [step]
  obtain ⟨fault, host, dropped, pending⟩ | ⟨call, host, dropped, pending⟩ |
    ⟨call, host, dropped, pending⟩ := d.machine.drop_cases h
  · rw [dropped]
    exact kept.withHost pending
  · rw [dropped]
    refine { queued_eq := ?_, frames_eq := kept.frames_eq, numbers := ?_, account := kept.account }
    · simpa [pending] using kept.queued_eq
    · refine List.perm_iff_count.2 fun n => ?_
      have before := kept.numbers.count_eq n
      simp only [batched, List.range_succ, List.count_append] at before ⊢
      omega
  · rw [dropped]
    refine { queued_eq := ?_, frames_eq := ?_, numbers := ?_, account := ?_ }
    · simpa [begin, pending] using kept.queued_eq
    · simpa [begin, Activation.rest] using kept.frames_eq
    · refine List.perm_iff_count.2 fun n => ?_
      have before := kept.numbers.count_eq n
      simp only [begin, batched, List.flatMap_cons, List.nil_append, List.range_succ,
        List.count_append] at before ⊢
      omega
    · have before := kept.account
      simp only [begin, batched, List.flatMap_cons, List.nil_append, List.length_append,
        List.length_singleton, List.map_cons, List.sum_cons, Activation.total] at before ⊢
      omega

/-- A flush that has run a batch to its end answers, or takes the next one. -/
theorem Kept.nextBatch {carried : Nat} (kept : d.Kept carried) :
    (d.goOn [] (d.machine.nextBatch carried)).Kept 0 := by
  have queued := kept.queued_eq
  have before := kept.account
  obtain ⟨pending, taken⟩ | ⟨call, rest, pending, taken⟩ := d.machine.nextBatch_cases carried
  · rw [taken]
    refine
      { queued_eq := queued, frames_eq := kept.frames_eq, numbers := kept.numbers, account := ?_ }
    simp only [goOn, resume, batched] at before ⊢
    omega
  · rw [pending] at queued
    obtain ⟨n, others, waiting⟩ := List.exists_cons_of_length_eq_add_one queued
    rw [waiting, List.length_cons, List.length_cons] at queued
    rw [taken]
    simp only [goOn, resume, waiting]
    refine { queued_eq := rfl, frames_eq := ?_, numbers := ?_, account := ?_ }
    · simp only [begin, List.map_cons, Activation.rest, kept.frames_eq]
      rw [Nat.succ.inj queued]
    · refine List.perm_iff_count.2 fun m => ?_
      have same := kept.numbers.count_eq m
      simp only [begin, batched, List.flatMap_cons, List.count_append, List.count_cons,
        List.count_nil, waiting] at same ⊢
      omega
    · simp only [begin, batched, List.flatMap_cons, List.length_append, List.length_singleton,
        List.map_cons, List.sum_cons, Activation.total] at before ⊢
      omega

theorem Kept.finish (kept : d.Kept 0) : (d.step (.asked .finish)).Kept 0 := by
  have depth := kept.depth_eq
  have lengths := kept.frames_eq
  have numbers := kept.numbers
  have before := kept.account
  cases frames : d.frames with
  | nil =>
      have idle : d.step (.asked .finish) = d := by simp only [Docket.step, frames]
      rw [idle]
      exact kept
  | cons frame outer =>
      obtain ⟨activation, under, active⟩ : ∃ activation under, d.machine.active = activation :: under :=
        List.exists_cons_of_length_pos (by rw [← depth, frames]; exact Nat.succ_pos _)
      rw [step_finish frames]
      simp only [frames, active, List.map_cons, List.cons.injEq] at lengths
      simp only [batched, frames, active, List.flatMap_cons, List.map_cons, List.sum_cons,
        List.length_append] at numbers before
      obtain ⟨rest, lengths⟩ := lengths
      obtain ⟨call, rfl, finished⟩ | ⟨call, next, others, total, rfl, finished⟩ |
        ⟨call, total, rfl, finished⟩ := Machine.finish_cases active
      · have none : frame.rest = [] := List.eq_nil_of_length_eq_zero rest
        rw [finished]
        simp only [none, Activation.total, List.nil_append, List.length_nil] at numbers before
        refine { queued_eq := kept.queued_eq, frames_eq := lengths, numbers := numbers, account := ?_ }
        simp only [goOn, resume, batched, Machine.back]
        omega
      · -- the number of the next destructor is the first in the rest of the frame
        obtain ⟨n, left, waiting⟩ := List.exists_cons_of_length_eq_add_one rest
        rw [finished]
        simp only [waiting, Activation.rest, Activation.total, List.length_cons, List.cons_append]
          at numbers before rest
        simp only [goOn, resume, waiting]
        refine { queued_eq := kept.queued_eq, frames_eq := ?_, numbers := ?_, account := ?_ }
        · simp only [begin, Machine.back, List.map_cons, Activation.rest, lengths]
          rw [Nat.succ.inj rest]
        · refine List.perm_iff_count.2 fun m => ?_
          have same := numbers.count_eq m
          simp only [begin, batched, List.flatMap_cons, List.count_append, List.count_cons,
            List.count_nil] at same ⊢
          omega
        · simp only [begin, batched, Machine.back, List.flatMap_cons, List.length_append,
            List.length_singleton, List.map_cons, List.sum_cons, Activation.total]
          omega
      · have none : frame.rest = [] := List.eq_nil_of_length_eq_zero rest
        simp only [none, Activation.total, List.nil_append, List.length_nil] at numbers before
        have popped : ({ d with frames := outer, machine := d.machine.back under } : Docket).Kept
            total := by
          refine
            { queued_eq := kept.queued_eq, frames_eq := lengths, numbers := numbers, account := ?_ }
          simp only [batched, Machine.back]
          omega
        rw [finished, none]
        exact popped.nextBatch

theorem Kept.install (kept : d.Kept 0) (config : HostConfig) :
    (d.step (.installed config)).Kept 0 where
  queued_eq := rfl
  frames_eq := kept.frames_eq
  numbers := by
    refine List.perm_iff_count.2 fun n => ?_
    have before := kept.numbers.count_eq n
    simp only [step, batched, List.count_append, List.count_nil] at before ⊢
    omega
  account := kept.account

theorem Kept.step (kept : d.Kept 0) (occurrence : Occurrence) : (d.step occurrence).Kept 0 := by
  cases occurrence with
  | installed config => exact kept.install config
  | asked request =>
      cases request with
      | drop h => exact kept.drop h
      | flush => exact kept.nextBatch
      | finish => exact kept.finish
      | register mode call => exact kept.withHost (serve_pending _ (.register mode call))
      | settle => exact kept.withHost rfl
      | rep h => exact kept.withHost rfl
      | lend mode name => exact kept.withHost (serve_pending _ (.lend mode name))
      | release h => exact kept.withHost (serve_pending _ (.release h))
      | takeFaults => exact kept.withHost rfl

theorem kept_run (config : HostConfig) (occurrences : List Occurrence) :
    (run config occurrences).Kept 0 := by
  have initial := kept_start config
  unfold run
  generalize start config = d at initial
  induction occurrences generalizing d with
  | nil => exact initial
  | cons occurrence rest ih => exact ih (d.step occurrence) (initial.step occurrence)

/-! ## While a flush is under way -/

/-- The flush that was called at `before` has not returned yet. -/
inductive Flushing (before : Docket) : Docket → Prop where
  | called {call : DestructorCall} (started : before.machine.flush.1 = .started call) :
      Flushing before (before.step (.asked .flush))
  | next {d : Docket} (underWay : Flushing before d) (occurrence : Occurrence)
      (deeper : before.frames.length < (d.step occurrence).frames.length) :
      Flushing before (d.step occurrence)

/-- The flush that was called at `before` has returned its answer. -/
inductive Flushed (before : Docket) : Nat → Docket → Prop where
  | atOnce {count : Nat} (answered : before.machine.flush.1 = .flushed count) :
      Flushed before count (before.step (.asked .flush))
  | later {d : Docket} {count : Nat} (underWay : Flushing before d)
      (answered : d.machine.finish.1 = .flushed count)
      (returned : (d.step (.asked .finish)).frames.length = before.frames.length) :
      Flushed before count (d.step (.asked .finish))

/-- What was there when a flush was called is out of reach until it returns: the calls around it stay,
and what is queued or discarded meanwhile was accepted meanwhile. -/
structure Amid (before d : Docket) : Prop where
  accepted_le : before.accepted ≤ d.accepted
  queued_ge : ∀ n ∈ d.queued, before.accepted ≤ n
  discarded_split : ∃ later, d.discarded = before.discarded ++ later ∧
    ∀ n ∈ later, before.accepted ≤ n
  frames_suffix : before.frames <:+ d.frames
  active_suffix : before.machine.active <:+ d.machine.active
  started_prefix : before.started <+: d.started
  answered_le : before.answered ≤ d.answered
  direct_le : before.direct ≤ d.direct

variable {before : Docket}

theorem Amid.withHost (amid : before.Amid d) (host : Host) : before.Amid (d.withHost host) :=
  { amid with }

theorem Amid.begin (amid : before.Amid d) (n : Nat) (rest : List Nat) :
    before.Amid (d.begin n rest) :=
  { amid with
    frames_suffix := amid.frames_suffix.trans (List.suffix_cons _ _)
    started_prefix := amid.started_prefix.trans (List.prefix_append _ _) }

theorem Amid.emptied (amid : before.Amid d) : before.Amid { d with queued := [] } :=
  { amid with queued_ge := fun _ none => absurd none List.not_mem_nil }

theorem Amid.resume (amid : before.Amid d) (rest : List Nat) (continuation : Continuation) :
    before.Amid (d.resume rest continuation) := by
  unfold Docket.resume
  split
  · split
    · exact amid.begin _ _
    · exact amid.emptied.begin _ _
    · exact amid
  · exact { amid with answered_le := Nat.le_add_right_of_le amid.answered_le }
  · exact amid
  · exact amid

theorem Amid.moved (amid : before.Amid d) {m : Machine}
    (active : before.machine.active <:+ m.active) : before.Amid { d with machine := m } where
  accepted_le := amid.accepted_le
  queued_ge := amid.queued_ge
  discarded_split := amid.discarded_split
  frames_suffix := amid.frames_suffix
  active_suffix := active
  started_prefix := amid.started_prefix
  answered_le := amid.answered_le
  direct_le := amid.direct_le

theorem Amid.drop (amid : before.Amid d) (h : Handle) : before.Amid (d.step (.asked (.drop h))) := by
  simp only [Docket.step]
  obtain ⟨fault, host, dropped, -⟩ | ⟨call, host, dropped, -⟩ | ⟨call, host, dropped, -⟩ :=
    d.machine.drop_cases h
  · rw [dropped]
    exact amid.withHost host
  · rw [dropped]
    refine
      { amid with
        accepted_le := Nat.le_add_right_of_le amid.accepted_le
        queued_ge := ?_ }
    intro n queued
    rcases List.mem_append.1 queued with queued | new
    · exact amid.queued_ge n queued
    · rw [List.mem_singleton.1 new]
      exact amid.accepted_le
  · rw [dropped]
    have moved := amid.moved (m := { host, active := .dropping call :: d.machine.active })
      (amid.active_suffix.trans (List.suffix_cons _ _))
    have accepted : before.Amid
        { d with
          machine := { host, active := .dropping call :: d.machine.active }
          accepted := d.accepted + 1
          direct := d.direct + 1 } :=
      { moved with
        accepted_le := Nat.le_add_right_of_le amid.accepted_le
        direct_le := Nat.le_add_right_of_le amid.direct_le }
    exact accepted.begin _ _

private theorem suffix_of_longer {α : Type} {suffix list : List α} {head : α}
    (ends : suffix <:+ head :: list) (shorter : suffix.length ≤ list.length) : suffix <:+ list := by
  rcases List.suffix_cons_iff.1 ends with same | ends
  · have equal := congrArg List.length same
    simp only [List.length_cons] at equal
    omega
  · exact ends

theorem Amid.finish (amid : before.Amid d) (kept : before.Kept 0) (now : d.Kept 0)
    (deeper : before.frames.length < d.frames.length) :
    before.Amid (d.step (.asked .finish)) := by
  have depth := now.depth_eq
  have around := kept.depth_eq
  obtain ⟨frame, outer, frames⟩ := List.exists_cons_of_length_pos (Nat.zero_lt_of_lt deeper)
  obtain ⟨activation, under, active⟩ :=
    List.exists_cons_of_length_pos (depth ▸ Nat.zero_lt_of_lt deeper)
  rw [step_finish frames]
  rw [frames, List.length_cons] at deeper depth
  rw [active, List.length_cons] at depth
  have popped : before.Amid { d with frames := outer } :=
    { amid with
      frames_suffix := suffix_of_longer (frames ▸ amid.frames_suffix) (Nat.le_of_lt_succ deeper) }
  have outside : before.machine.active <:+ under :=
    suffix_of_longer (active ▸ amid.active_suffix) (by omega)
  exact (popped.moved (outside.trans (Machine.finish_active_suffix active))).resume _ _

theorem Amid.install (amid : before.Amid d) (config : HostConfig) :
    before.Amid (d.step (.installed config)) := by
  refine { amid.emptied with discarded_split := ?_ }
  obtain ⟨later, discarded, new⟩ := amid.discarded_split
  refine ⟨later ++ d.queued, ?_, ?_⟩
  · simp only [Docket.step, discarded, List.append_assoc]
  · intro n member
    rcases List.mem_append.1 member with member | queued
    · exact new n member
    · exact amid.queued_ge n queued

theorem Amid.step (amid : before.Amid d) (kept : before.Kept 0) (now : d.Kept 0)
    (deeper : before.frames.length < d.frames.length) (occurrence : Occurrence) :
    before.Amid (d.step occurrence) := by
  cases occurrence with
  | installed config => exact amid.install config
  | asked request =>
      cases request with
      | drop h => exact amid.drop h
      | flush =>
          have inside := amid.active_suffix.trans (d.machine.nextBatch_active_suffix 0)
          exact (amid.moved inside).resume _ _
      | finish => exact amid.finish kept now deeper
      | register mode call => exact amid.withHost _
      | settle => exact amid.withHost _
      | rep h => exact amid.withHost _
      | lend mode name => exact amid.withHost _
      | release h => exact amid.withHost _
      | takeFaults => exact amid.withHost _

theorem amid_flush (kept : before.Kept 0) : before.Amid (before.step (.asked .flush)) := by
  have queued := kept.queued_eq
  have same : before.Amid { before with queued := [] } :=
    { accepted_le := Nat.le_refl _
      queued_ge := fun _ none => absurd none List.not_mem_nil
      discarded_split := ⟨[], (List.append_nil _).symm, fun _ none => absurd none List.not_mem_nil⟩
      frames_suffix := List.suffix_rfl
      active_suffix := List.suffix_rfl
      started_prefix := List.prefix_rfl
      answered_le := Nat.le_refl _
      direct_le := Nat.le_refl _ }
  obtain ⟨pending, taken⟩ | ⟨call, rest, pending, taken⟩ := before.machine.nextBatch_cases 0
  · have empty : before.queued = [] := by
      rw [pending] at queued
      exact List.eq_nil_of_length_eq_zero queued
    simp only [Docket.step, Docket.goOn, Machine.flush, taken]
    rw [← empty] at same
    exact same.resume _ _
  · rw [pending] at queued
    obtain ⟨n, others, waiting⟩ := List.exists_cons_of_length_eq_add_one queued
    simp only [Docket.step, Docket.goOn, Machine.flush, taken, Docket.resume, waiting]
    have moved := same.moved (m := (before.machine.nextBatch 0).2)
      (before.machine.nextBatch_active_suffix 0)
    rw [taken] at moved
    exact moved.begin n others

theorem deeper_of_called (kept : before.Kept 0) {call : DestructorCall}
    (started : before.machine.flush.1 = .started call) :
    before.frames.length < (before.step (.asked .flush)).frames.length := by
  have queued := kept.queued_eq
  rw [Machine.flush] at started
  obtain ⟨pending, taken⟩ | ⟨first, rest, pending, taken⟩ := before.machine.nextBatch_cases 0
  · rw [taken] at started
    cases started
  · rw [pending] at queued
    obtain ⟨n, others, waiting⟩ := List.exists_cons_of_length_eq_add_one queued
    simp only [Docket.step, Docket.goOn, Machine.flush, taken, Docket.resume, waiting]
    exact Nat.lt_succ_self _

theorem Flushing.amid (underWay : before.Flushing d) (kept : before.Kept 0) :
    before.Amid d ∧ d.Kept 0 ∧ before.frames.length < d.frames.length := by
  induction underWay with
  | called started => exact ⟨amid_flush kept, kept.step _, deeper_of_called kept started⟩
  | next underWay occurrence deeper ih =>
      obtain ⟨amid, now, was⟩ := ih
      exact ⟨amid.step kept now was occurrence, now.step occurrence, deeper⟩

/-! ## When it returns -/

/-- What a flush that was called at `before` has done when it returns `count`. -/
structure Discharged (before : Docket) (count : Nat) (after : Docket) : Prop where
  pending_eq : after.machine.host.pending = []
  /-- The calls around the flush, and the batches that other flushes had taken before, are as they
  were. -/
  frames_eq : after.frames = before.frames
  active_eq : after.machine.active = before.machine.active
  started_nodup : after.started.Nodup
  started_prefix : before.started <+: after.started
  /-- Of the requests accepted before the call, all have been started but those in the batches of other
  flushes, and those that were discarded with a host before. -/
  started_iff : ∀ n < before.accepted,
    n ∈ after.started ↔ n ∉ before.batched ∧ n ∉ before.discarded
  /-- A flush counts those of its own batches. The others that ran meanwhile are in the answers of the
  flushes that were called meanwhile, or were started by their drop requests. -/
  count_le : before.answered + count ≤ after.answered
  direct_le : before.direct ≤ after.direct
  ran_eq : after.started.length + before.answered + before.direct =
    before.started.length + after.answered + after.direct

/-- With no other flush under way at the call, nothing is left out. -/
theorem Discharged.complete {count : Nat} {after : Docket} (discharged : before.Discharged count after)
    (alone : before.batched = []) :
    ∀ n < before.accepted, n ∉ before.discarded → n ∈ after.started := by
  intro n accepted kept
  refine (discharged.started_iff n accepted).2 ⟨?_, kept⟩
  rw [alone]
  exact List.not_mem_nil

/-- The answer is the number of destructors that ran during the call exactly when no flush that was
called meanwhile ran any, and no drop request did. -/
theorem Discharged.exact_iff {count : Nat} {after : Docket}
    (discharged : before.Discharged count after) :
    after.started.length = before.started.length + count ↔
      after.answered = before.answered + count ∧ after.direct = before.direct := by
  have counted := discharged.count_le
  have direct := discharged.direct_le
  have ran := discharged.ran_eq
  omega

theorem Amid.discharged {count : Nat} {after : Docket} (amid : before.Amid after)
    (kept : before.Kept 0) (now : after.Kept 0) (pending : after.machine.host.pending = [])
    (returned : after.frames.length = before.frames.length)
    (counted : before.answered + count ≤ after.answered) : before.Discharged count after := by
  have frames := (amid.frames_suffix.eq_of_length returned.symm).symm
  have active : after.machine.active = before.machine.active := by
    refine (amid.active_suffix.eq_of_length ?_).symm
    rw [← kept.depth_eq, ← now.depth_eq, returned]
  have batched : after.batched = before.batched := by rw [Docket.batched, frames, Docket.batched]
  have queued : after.queued = [] := by
    refine List.eq_nil_of_length_eq_zero ?_
    rw [now.queued_eq, pending, List.length_nil]
  have numbers := now.numbers
  rw [queued, batched, List.nil_append] at numbers
  have distinct := numbers.nodup_iff.2 List.nodup_range
  obtain ⟨later, discarded, new⟩ := amid.discarded_split
  refine
    { pending_eq := pending
      frames_eq := frames
      active_eq := active
      started_nodup := (List.nodup_append.1 (List.nodup_append.1 distinct).1).2.1
      started_prefix := amid.started_prefix
      started_iff := ?_
      count_le := counted
      direct_le := amid.direct_le
      ran_eq := ?_ }
  · intro n accepted
    have one : (before.batched ++ after.started ++ after.discarded).count n = 1 :=
      (numbers.count_eq n).trans
        (List.count_eq_one_of_mem List.nodup_range
          (List.mem_range.2 (Nat.lt_of_lt_of_le accepted amid.accepted_le)))
    have old : later.count n = 0 :=
      List.count_eq_zero.2 fun member => absurd (new n member) (Nat.not_le.2 accepted)
    simp only [discarded, List.count_append, old] at one
    rw [← List.count_pos_iff, ← List.count_eq_zero, ← List.count_eq_zero]
    omega
  · have then_ := kept.account
    have now := now.account
    rw [batched, active] at now
    omega

/-- A flush that has returned has left nothing that waits, wherever it was called; it has started what
was in its reach, and it has counted what no other call has counted. -/
theorem run_flushed (config : HostConfig) (occurrences : List Occurrence) {count : Nat}
    {after : Docket} (flushed : (run config occurrences).Flushed count after) :
    (run config occurrences).Discharged count after := by
  have kept := kept_run config occurrences
  generalize run config occurrences = before at flushed kept
  cases flushed with
  | atOnce answered =>
      have step : before.step (.asked .flush) =
          { before with machine := before.machine.flush.2, answered := before.answered + count } := by
        simp only [Docket.step, Docket.goOn, answered, Docket.resume]
      apply (amid_flush kept).discharged kept (kept.step _)
      · rw [step]
        exact Machine.nextBatch_flushed answered
      · rw [step]
      · exact Nat.le_of_eq (by rw [step])
  | @later d _ underWay answered returned =>
      obtain ⟨amid, now, deeper⟩ := underWay.amid kept
      obtain ⟨frame, outer, frames⟩ := List.exists_cons_of_length_pos (Nat.zero_lt_of_lt deeper)
      obtain ⟨activation, under, active⟩ :=
        List.exists_cons_of_length_pos (now.depth_eq ▸ Nat.zero_lt_of_lt deeper)
      have step : d.step (.asked .finish) =
          { d with
            machine := d.machine.finish.2
            frames := outer
            answered := d.answered + count } := by
        simp only [step_finish frames, Docket.goOn, answered, Docket.resume]
      apply (amid.step kept now deeper _).discharged kept (now.step _)
      · rw [step]
        exact Machine.finish_flushed active answered
      · exact returned
      · rw [step]
        exact Nat.add_le_add_right amid.answered_le count

open Tenure (batchOfTwo numbered)

/-- The first destructor of a batch of two registers an object and gives it back. -/
def insideFirst : List Occurrence :=
  batchOfTwo.map .asked ++
    [.asked (.register .integer (numbered 3)), .asked (.drop (.integer 1))]

/-- A flush that the first destructor of a batch of two calls runs the third one only. -/
theorem nested_discharged :
    (run { timing := .deferred } insideFirst).Discharged 1
      (run { timing := .deferred } (insideFirst ++ [.asked .flush, .asked .finish])) :=
  run_flushed { timing := .deferred } insideFirst (.later (.called rfl) rfl rfl)

/-- A flush inside a destructor of a batch leaves the rest of that batch unstarted, and the flush that
took the batch does not count what the flush inside has run. -/
theorem not_always_complete_nor_exact :
    (¬∀ (occurrences : List Occurrence) (count : Nat) (after : Docket),
        (run { timing := .deferred } occurrences).Flushed count after →
        ∀ n < (run { timing := .deferred } occurrences).accepted, n ∈ after.started) ∧
    ¬∀ (occurrences : List Occurrence) (count : Nat) (after : Docket),
        (run { timing := .deferred } occurrences).Flushed count after →
        after.started.length = (run { timing := .deferred } occurrences).started.length + count := by
  constructor
  · intro always
    have started := always insideFirst 1 _ (.later (.called rfl) rfl rfl) 1 (by decide)
    revert started
    decide
  · intro always
    have flushing : (run { timing := .deferred } (batchOfTwo.dropLast.map .asked)).Flushing _ :=
      .called rfl
    have flushing := flushing.next (.asked (.register .integer (numbered 3))) (by decide)
    have flushing := flushing.next (.asked (.drop (.integer 1))) (by decide)
    have flushing := flushing.next (.asked .flush) (by decide)
    have flushing := flushing.next (.asked .finish) (by decide)
    have flushing := flushing.next (.asked .finish) (by decide)
    have counted := always (batchOfTwo.dropLast.map .asked) 2 _ (.later flushing rfl rfl)
    revert counted
    decide

end Docket

end Custody.Host
