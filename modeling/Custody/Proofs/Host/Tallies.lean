import Custody.Proofs.Host.Flushing

/-!
# Each deferred destructor is counted by one flush

A flush adds up how many destructors its batches hold, before it runs them. A destructor that it runs may
flush in turn: the flush inside takes a batch of its own, of what was queued meanwhile, and answers for
that. So a destructor is counted by the flush that takes it out of the queue, however the flushes are
nested, and when none is under way their answers add up to the destructors that ran.
-/

set_option autoImplicit false

namespace Custody.Host

def Activation.IsFlush : Activation → Prop
  | .dropping _ => False
  | .flushing _ _ _ => True

/-- A run with its flushes. A flush counts the registrations in the batches that it takes. -/
structure Tally where
  chronicle : Chronicle
  /-- What each call under way has counted, the innermost in front. A drop request counts nothing. -/
  counting : List (List Nat) := []
  /-- The flushes that have returned, in that order: what each has answered, and what it has counted. -/
  answers : List (Nat × List Nat) := []

namespace Tally

def start (config : HostConfig) : Tally := { chronicle := .start config }

/-- A flush goes on as the machine does. With nothing left of its batch it counts the next one. -/
def goOn (t : Tally) (after : Chronicle) (rest counted : List Nat) : Continuation → Tally
  | .started _ =>
      let batch := if rest = [] then t.chronicle.queued else []
      { t with chronicle := after, counting := (counted ++ batch) :: t.counting }
  | .flushed count => { t with chronicle := after, answers := t.answers ++ [(count, counted)] }
  | .dropped | .idle => { t with chronicle := after }

def step (t : Tally) (request : Request) : Tally :=
  let c := t.chronicle
  let after := c.step request
  match c.held, request with
  | some (_, call), .settle =>
      match (c.machine.settle call).1 with
      | .started _ => { t with chronicle := after, counting := [] :: t.counting }
      | .rejected _ | .queued => { t with chronicle := after }
  | none, .flush => t.goOn after [] [] c.machine.flush.1
  | none, .finish =>
      match c.frames, t.counting with
      | frame :: _, counted :: outer =>
          { t with counting := outer }.goOn after frame.rest counted c.machine.finish.1
      | _, _ => { t with chronicle := after }
  | _, _ => { t with chronicle := after }

def run (config : HostConfig) (requests : List Request) : Tally :=
  requests.foldl step (start config)

/-- Destructors may run for drop requests, but not for a flush. -/
def NoFlush (t : Tally) : Prop :=
  ∀ activation ∈ t.chronicle.machine.active, ¬activation.IsFlush

open Tenure (numbered)

variable {config : HostConfig} {t : Tally}

theorem goOn_chronicle (t : Tally) (after : Chronicle) (rest counted : List Nat)
    (continuation : Continuation) : (t.goOn after rest counted continuation).chronicle = after := by
  cases continuation <;> rfl

/-- A tally only watches. -/
theorem step_chronicle (t : Tally) (request : Request) :
    (t.step request).chronicle = t.chronicle.step request := by
  unfold step
  dsimp only
  split
  · split <;> rfl
  · exact goOn_chronicle ..
  · split
    · exact goOn_chronicle ..
    · rfl
  · rfl

/-! ## What has been counted -/

/-- Only flushes run destructors, and what they have counted is what was started and what is left of
their batches. A flush that is between two batches has counted what is `carried`. -/
structure Kept (carried : List Nat) (t : Tally) : Prop where
  flushes : ∀ activation ∈ t.chronicle.machine.active, activation.IsFlush
  totals_eq : t.counting.map List.length = t.chronicle.machine.active.map Activation.total
  counted_perm : (t.answers.flatMap Prod.snd ++ (carried ++ t.counting.flatten)).Perm
    (t.chronicle.started.map Prod.fst ++ t.chronicle.frames.flatMap Frame.rest)
  answer_eq : ∀ answer ∈ t.answers, answer.1 = answer.2.length

theorem kept_start (config : HostConfig) : (start config).Kept [] where
  flushes := nofun
  totals_eq := rfl
  counted_perm := .nil
  answer_eq := nofun

theorem Kept.quiet {carried : List Nat} (kept : t.Kept carried) {after : Chronicle}
    (active : after.machine.active = t.chronicle.machine.active)
    (started : after.started = t.chronicle.started) (frames : after.frames = t.chronicle.frames) :
    ({ t with chronicle := after } : Tally).Kept carried where
  flushes := by
    rw [active]
    exact kept.flushes
  totals_eq := by
    rw [active]
    exact kept.totals_eq
  counted_perm := by
    rw [started, frames]
    exact kept.counted_perm
  answer_eq := kept.answer_eq

/-- A flush that has run a batch to its end answers, or takes the next one and counts it. -/
theorem Kept.nextBatch {counted : List Nat} (kept : t.Kept counted)
    (queued : t.chronicle.queued.length = t.chronicle.machine.host.pending.length) :
    (t.goOn
      ({ t.chronicle with machine := (t.chronicle.machine.nextBatch counted.length).2 }.resume []
        (t.chronicle.machine.nextBatch counted.length).1)
      [] counted (t.chronicle.machine.nextBatch counted.length).1).Kept [] := by
  obtain ⟨pending, taken⟩ | ⟨call, rest, pending, taken⟩ :=
    t.chronicle.machine.nextBatch_cases counted.length
  · rw [taken]
    constructor
    case flushes => exact kept.flushes
    case totals_eq => exact kept.totals_eq
    case counted_perm =>
      have same := kept.counted_perm
      simp only [goOn, Chronicle.resume, List.flatMap_append, List.flatMap_singleton,
        List.nil_append, List.append_assoc] at same ⊢
      exact same
    case answer_eq =>
      intro answer member
      rcases List.mem_append.1 member with old | new
      · exact kept.answer_eq answer old
      · rw [List.mem_singleton.1 new]
  · rw [pending] at queued
    obtain ⟨n, others, waiting⟩ := List.exists_cons_of_length_eq_add_one queued
    rw [taken]
    simp only [goOn, Chronicle.resume, waiting, if_true]
    rw [waiting, List.length_cons, List.length_cons] at queued
    constructor
    case flushes => exact List.forall_mem_cons.2 ⟨trivial, kept.flushes⟩
    case totals_eq =>
      have totals := kept.totals_eq
      simp only [Chronicle.begin, List.map_cons, List.length_append, List.length_cons,
        Activation.total, totals, queued]
    case counted_perm =>
      refine List.perm_iff_count.2 fun m => ?_
      have same := kept.counted_perm.count_eq m
      simp only [Chronicle.begin, List.map_append, List.map_cons, List.map_nil, List.flatMap_cons,
        List.flatten_cons, List.nil_append, List.count_append, List.count_cons, List.count_nil]
        at same ⊢
      omega
    case answer_eq => exact kept.answer_eq

theorem Kept.flush (kept : t.Kept []) (consistent : t.chronicle.Consistent config)
    (free : t.chronicle.held = none) : (t.step .flush).Kept [] := by
  have stepped : t.step .flush = t.goOn (t.chronicle.perform .flush) [] []
      t.chronicle.machine.flush.1 := by
    unfold step Chronicle.step
    dsimp only
    rw [free]
  rw [stepped]
  exact kept.nextBatch consistent.queued_stands.length_eq

theorem Kept.advance (kept : t.Kept []) {n k total : Nat} {rest : List Nat} {outer : List Frame}
    {call next : DestructorCall} {calls : List DestructorCall} {under : List Activation}
    (frames : t.chronicle.frames = ⟨n, k :: rest⟩ :: outer)
    (active : t.chronicle.machine.active = .flushing call (next :: calls) total :: under) :
    Kept []
      { t with
        chronicle := { t.chronicle with
          machine := t.chronicle.machine.back (.flushing next calls total :: under)
          frames := outer
          returned := t.chronicle.returned ++ [n] }.begin k rest next } where
  flushes := by
    have flushes := kept.flushes
    rw [active] at flushes
    exact List.forall_mem_cons.2 ⟨trivial, (List.forall_mem_cons.1 flushes).2⟩
  totals_eq := by
    have totals := kept.totals_eq
    rw [active] at totals
    exact totals
  counted_perm := by
    refine List.perm_iff_count.2 fun m => ?_
    have same := kept.counted_perm.count_eq m
    simp only [Chronicle.begin, frames, List.map_append, List.map_cons, List.map_nil,
      List.flatMap_cons, List.nil_append, List.count_append, List.count_cons, List.count_nil]
      at same ⊢
    omega
  answer_eq := kept.answer_eq

theorem Kept.return (kept : t.Kept []) {n total : Nat} {outer : List Frame} {call : DestructorCall}
    {under : List Activation} {counted : List Nat} {counting : List (List Nat)}
    (frames : t.chronicle.frames = ⟨n, []⟩ :: outer)
    (active : t.chronicle.machine.active = .flushing call [] total :: under)
    (counts : t.counting = counted :: counting) :
    Kept counted
      { t with
        chronicle := { t.chronicle with
          machine := t.chronicle.machine.back under
          frames := outer
          returned := t.chronicle.returned ++ [n] }
        counting } where
  flushes := by
    have flushes := kept.flushes
    rw [active] at flushes
    exact (List.forall_mem_cons.1 flushes).2
  totals_eq := by
    have totals := kept.totals_eq
    rw [active, counts] at totals
    exact (List.cons.inj totals).2
  counted_perm := by
    have numbers := kept.counted_perm
    rw [frames, counts] at numbers
    exact numbers
  answer_eq := kept.answer_eq

theorem Kept.finish (kept : t.Kept []) (consistent : t.chronicle.Consistent config)
    (free : t.chronicle.held = none) : (t.step .finish).Kept [] := by
  have flushes := kept.flushes
  have totals := kept.totals_eq
  have stand := consistent.frames_stand
  unfold step Chronicle.step
  dsimp only
  rw [free]
  cases frames : t.chronicle.frames with
  | nil =>
      simp only [Chronicle.perform, frames]
      exact kept
  | cons frame outer =>
      obtain ⟨activation, under, active⟩ := consistent.exists_active frames
      rw [active] at totals
      obtain ⟨counted, counting, counts, total_eq, -⟩ := List.map_eq_cons_iff.1 totals
      rw [frames, active] at stand
      obtain _ | ⟨first, _⟩ := stand
      simp only [Chronicle.perform, frames, counts]
      obtain ⟨_, rfl, _⟩ | ⟨call, next, calls, total, rfl, finished⟩ |
        ⟨call, total, rfl, finished⟩ := Machine.finish_cases active
      · rw [active] at flushes
        exact (flushes _ List.mem_cons_self).elim
      · obtain _ | ⟨-, batch⟩ := first
        obtain _ | ⟨-, _⟩ := batch
        rw [finished]
        simp only [goOn, Chronicle.resume, reduceCtorEq, if_false, List.append_nil]
        exact counts ▸ kept.advance frames active
      · obtain _ | ⟨-, batch⟩ := first
        obtain _ | _ := batch
        rw [finished, show total = counted.length from total_eq.symm]
        exact (kept.return frames active counts).nextBatch consistent.queued_stands.length_eq

theorem Kept.other (kept : t.Kept []) {request : Request} (free : t.chronicle.held = none)
    (no_flush : request ≠ .flush) (no_finish : request ≠ .finish) : (t.step request).Kept [] := by
  have stepped : t.step request = { t with chronicle := t.chronicle.perform request } := by
    unfold step Chronicle.step
    dsimp only
    rw [free]
    cases request with
    | flush => exact absurd rfl no_flush
    | finish => exact absurd rfl no_finish
    | _ => rfl
  rw [stepped]
  cases request with
  | flush => exact absurd rfl no_flush
  | finish => exact absurd rfl no_finish
  | register mode call | drop h | lend mode name =>
      simp only [Chronicle.perform]
      split <;> exact kept.quiet rfl rfl rfl
  | settle | rep h | release h | takeFaults => exact kept.quiet rfl rfl rfl

/-- While a drop request has a destructor in hand, it lets the destructor wait before anything else. -/
theorem Kept.held (kept : t.Kept []) (consistent : t.chronicle.Consistent config)
    (deferred : config.timing = .deferred) {n : Nat} {call : DestructorCall}
    (held : t.chronicle.held = some (n, call)) (request : Request) : (t.step request).Kept [] := by
  have settled : t.chronicle.machine.settle call =
      (.queued, { t.chronicle.machine with
        host.pending := t.chronicle.machine.host.pending ++ [call] }) := by
    simp only [Machine.settle, consistent.config_eq, deferred]
  unfold Tally.step Chronicle.step
  dsimp only
  rw [held]
  cases request with
  | settle =>
      unfold Chronicle.settle
      dsimp only
      rw [settled]
      exact kept.quiet rfl rfl rfl
  | _ => exact kept

theorem Kept.step (kept : t.Kept []) (consistent : t.chronicle.Consistent config)
    (deferred : config.timing = .deferred) (request : Request) : (t.step request).Kept [] := by
  cases held : t.chronicle.held with
  | some place => exact kept.held consistent deferred held request
  | none =>
      cases request with
      | flush => exact kept.flush consistent held
      | finish => exact kept.finish consistent held
      | _ => exact kept.other held nofun nofun

theorem kept_run (config : HostConfig) (deferred : config.timing = .deferred)
    (requests : List Request) :
    (run config requests).chronicle = .run config requests ∧ (run config requests).Kept [] := by
  suffices runs : ∀ t : Tally, t.chronicle.Consistent config → t.Kept [] →
      (requests.foldl step t).chronicle = requests.foldl Chronicle.step t.chronicle ∧
        (requests.foldl step t).Kept [] from
    runs (start config) (Chronicle.consistent_start config) (kept_start config)
  induction requests with
  | nil => exact fun t _ kept => ⟨rfl, kept⟩
  | cons request rest ih =>
      intro t consistent kept
      have after := step_chronicle t request
      obtain ⟨watches, done⟩ :=
        ih (t.step request) (after ▸ consistent.step request) (kept.step consistent deferred request)
      exact ⟨watches.trans (by rw [after]; rfl), done⟩

theorem Kept.idle (kept : t.Kept []) (no_flush : t.NoFlush) :
    t.chronicle.machine.active = [] ∧ t.counting = [] := by
  have active : t.chronicle.machine.active = [] :=
    List.eq_nil_iff_forall_not_mem.2 fun activation member =>
      no_flush activation member (kept.flushes activation member)
  have totals := kept.totals_eq
  rw [active] at totals
  exact ⟨active, List.map_eq_nil_iff.1 totals⟩

theorem no_frames {c : Chronicle} (consistent : c.Consistent config)
    (idle : c.machine.active = []) : c.frames = [] := by
  cases frames : c.frames with
  | nil => rfl
  | cons frame outer =>
      obtain ⟨activation, under, active⟩ := consistent.exists_active frames
      rw [idle] at active
      cases active

/-! ## What the flushes answer -/

/-- What each flush has counted, first those that have returned. -/
def counts (t : Tally) : List (List Nat) := t.answers.map Prod.snd ++ t.counting

theorem Kept.counts_perm (kept : t.Kept []) :
    t.counts.flatten.Perm
      (t.chronicle.started.map Prod.fst ++ t.chronicle.frames.flatMap Frame.rest) := by
  rw [counts, List.flatten_append, ← List.flatMap_def]
  exact kept.counted_perm

theorem Kept.counts_nodup (kept : t.Kept []) (consistent : t.chronicle.Consistent config) :
    t.counts.flatten.Nodup := by
  refine List.nodup_iff_count_le_one.2 fun n => ?_
  have numbers := kept.counts_perm.count_eq n
  have once := List.nodup_iff_count_le_one.1 consistent.waiting_started_nodup n
  simp only [Chronicle.waiting, List.count_append] at numbers once
  omega

theorem goOn_answered {after : Chronicle} {rest counted : List Nat} {continuation : Continuation}
    (new : (t.goOn after rest counted continuation).answers ≠ t.answers) :
    ∃ count, continuation = .flushed count := by
  cases continuation with
  | flushed count => exact ⟨count, rfl⟩
  | started call | dropped | idle => exact absurd rfl new

theorem step_answered (consistent : t.chronicle.Consistent config) {request : Request}
    (new : (t.step request).answers ≠ t.answers) :
    (t.step request).chronicle.held = none ∧
      (t.step request).chronicle.machine.host.pending = [] := by
  rw [step_chronicle]
  unfold step at new
  dsimp only at new
  split at new
  · split at new <;> exact absurd rfl new
  · rename_i free
    obtain ⟨count, answered⟩ := goOn_answered new
    simp only [Chronicle.step, free, Chronicle.perform, answered, Chronicle.resume]
    exact ⟨trivial, Machine.nextBatch_flushed answered⟩
  · rename_i free
    split at new
    · rename_i frame outer counted counting frames _
      obtain ⟨activation, under, active⟩ := consistent.exists_active frames
      obtain ⟨count, answered⟩ := goOn_answered new
      simp only [Chronicle.step, free, Chronicle.perform, frames, answered, Chronicle.resume]
      exact ⟨trivial, Machine.finish_flushed active answered⟩
    · exact absurd rfl new
  · exact absurd rfl new

def Counts (t : Tally) (k n : Nat) : Prop := ∃ counted, t.counts[k]? = some counted ∧ n ∈ counted

/-- The flushes of a run share out the destructors that are taken out of the queue. -/
structure Accounted (t : Tally) : Prop where
  /-- A flush answers with how many it has counted. -/
  answer_eq : ∀ answer ∈ t.answers, answer.1 = answer.2.length
  /-- Of two flushes, and of two batches of one flush, at most one counts a registration. -/
  counts_nodup : t.counts.flatten.Nodup
  /-- A registration whose drop was requested is in the hand of the request or in the queue, or a flush
  has counted it, and one only. -/
  counted_once : ∀ n ∈ t.chronicle.dropped,
    (∀ call, t.chronicle.held ≠ some (n, call)) → n ∉ t.chronicle.queued → ∃! k, t.Counts k n
  /-- While no flush is under way, what the flushes have answered adds up to what has run. -/
  sum_eq : t.NoFlush → t.counting = [] ∧
    (t.answers.map Prod.fst).sum = t.chronicle.machine.host.counters.destructorsRun
  /-- When an outermost flush returns, nothing waits, and all that was dropped has been destroyed. -/
  drained : ∀ request, (t.step request).answers ≠ t.answers → (t.step request).NoFlush →
    let host := (t.step request).chronicle.machine.host
    host.pending = [] ∧ host.counters.dropRequests = host.counters.destructorsRun

theorem existsUnique_counts (distinct : t.counts.flatten.Nodup) {n : Nat}
    (counted : n ∈ t.counts.flatten) : ∃! k, t.Counts k n := by
  obtain ⟨list, member, inside⟩ := List.mem_flatten.1 counted
  obtain ⟨k, place⟩ := List.mem_iff_getElem?.1 member
  have apart := (List.nodup_flatten.1 distinct).2
  refine ⟨k, ⟨list, place, inside⟩, fun other ⟨also, there, within⟩ => ?_⟩
  obtain ⟨bound, rfl⟩ := List.getElem?_eq_some_iff.1 place
  obtain ⟨bound', rfl⟩ := List.getElem?_eq_some_iff.1 there
  obtain before | same | after := Nat.lt_trichotomy other k
  · exact absurd inside (List.pairwise_iff_getElem.1 apart other k bound' bound before within)
  · exact same
  · exact absurd within (List.pairwise_iff_getElem.1 apart k other bound bound' after inside)

/-- However flushes nest, a deferred destructor is counted by one of them. -/
theorem run_accounted (config : HostConfig) (deferred : config.timing = .deferred)
    (requests : List Request) :
    (run config requests).chronicle = .run config requests ∧ (run config requests).Accounted := by
  obtain ⟨watches, kept⟩ := kept_run config deferred requests
  obtain ⟨consistent, balanced⟩ := Chronicle.balanced_run config requests
  refine ⟨watches, ?_⟩
  rw [← watches] at consistent balanced
  generalize run config requests = t at kept consistent balanced
  refine
    { answer_eq := kept.answer_eq
      counts_nodup := kept.counts_nodup consistent
      counted_once := fun n dropped unheld unqueued => ?_
      sum_eq := fun no_flush => ?_
      drained := fun request new no_flush => ?_ }
  · refine existsUnique_counts (kept.counts_nodup consistent) (kept.counts_perm.mem_iff.2 ?_)
    have placed := consistent.dropped_perm.mem_iff.1 dropped
    have elsewhere : n ∉ t.chronicle.held.toList.map Prod.fst := by
      simpa [eq_comm] using unheld
    simp only [Chronicle.waiting, List.mem_append, unqueued, elsewhere, false_or, or_false] at placed
    exact List.mem_append.2 placed.symm
  · obtain ⟨idle, counting⟩ := kept.idle no_flush
    refine ⟨counting, ?_⟩
    calc (t.answers.map Prod.fst).sum
        = t.counts.flatten.length := by
          rw [counts, counting, List.append_nil, List.length_flatten, List.map_map,
            List.map_congr_left kept.answer_eq]
          rfl
      _ = (t.chronicle.started.map Prod.fst).length := by
          rw [kept.counts_perm.length_eq, no_frames consistent idle, List.flatMap_nil,
            List.append_nil]
      _ = t.chronicle.returned.length := by
          rw [consistent.started_perm.length_eq, no_frames consistent idle, List.map_nil,
            List.nil_append]
      _ = t.chronicle.machine.host.counters.destructorsRun := balanced.destructorsRun_eq.symm
  · obtain ⟨free, pending⟩ := step_answered consistent new
    have kept := kept.step consistent deferred request
    have watches := step_chronicle t request
    have balanced := balanced.step consistent request
    have consistent := consistent.step request
    rw [← watches] at consistent balanced
    obtain ⟨waiting, returned⟩ := consistent.settled free (kept.idle no_flush).1
    have queued := consistent.queued_stands.length_eq
    have dropped := consistent.dropped_perm.length_eq
    rw [waiting, List.length_append, queued, pending, returned.length_eq, List.length_nil,
      Nat.zero_add] at dropped
    exact ⟨pending, by rw [balanced.dropRequests_eq, balanced.destructorsRun_eq, dropped]⟩

/-- Two are dropped and flushed. The destructor of the first registers a third object, drops it and
flushes. -/
def flushInFlush : List Request :=
  [.register .integer (numbered 1), .register .integer (numbered 2), .drop (.integer 0), .settle,
    .drop (.integer 1), .settle, .flush, .register .integer (numbered 3), .drop (.integer 1),
    .settle, .flush, .finish, .finish, .finish]

/-- The flush inside has counted the third, and the flush outside the first two. -/
theorem flush_in_flush_accounted :
    (run { timing := .deferred } flushInFlush).answers = [(1, [2]), (2, [0, 1])] ∧
      (run { timing := .deferred } flushInFlush).chronicle = .run { timing := .deferred } flushInFlush ∧
      (run { timing := .deferred } flushInFlush).Accounted :=
  ⟨rfl, run_accounted { timing := .deferred } rfl flushInFlush⟩

end Tally

end Custody.Host
