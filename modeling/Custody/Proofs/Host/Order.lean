import Custody.Proofs.Host.Destruction
import Custody.Proofs.Host.Flushing

/-!
# Deferred destructors run first come, first served

A flush takes the queue as one batch and lets drop requests fill a new one. As long as no destructor
flushes itself, the batch in the making always comes after the one that runs, so the two together are one
line: a drop request that is accepted joins at its end, and destructors are started from its front.
-/

set_option autoImplicit false

namespace Custody.Host.Chronicle

/-- The registrations whose destructors are still to be started, the one that is next in front. -/
def line (c : Chronicle) : List Nat :=
  c.frames.flatMap Frame.rest ++ c.queued ++ c.held.toList.map Prod.fst

/-- What a step does to the line when destructors leave flushing to others. -/
inductive Advance (c after : Chronicle) : Prop where
  /-- Nothing is started, and a drop request may have been accepted. -/
  | quiet (accepted : List Nat) (active : after.machine.active = c.machine.active)
      (started : after.started = c.started) (line : after.line = c.line ++ accepted)
      (dropped : after.dropped = c.dropped ++ accepted)
  /-- A flush goes on with its batch. -/
  | next {n total : Nat} {last call : DestructorCall} {rest : List DestructorCall}
      (before : c.machine.active = [.flushing last (call :: rest) total])
      (active : after.machine.active = [.flushing call rest total])
      (started : after.started = c.started ++ [(n, call)]) (line : c.line = n :: after.line)
      (dropped : after.dropped = c.dropped)
  /-- A flush takes the queue as its first batch or as another one. -/
  | batch {n total : Nat} {call : DestructorCall} {rest : List DestructorCall}
      (before : c.machine.active = [] ∧ total = 0 ∨
        ∃ last, c.machine.active = [.flushing last [] total])
      (active : after.machine.active = [.flushing call rest (total + (rest.length + 1))])
      (started : after.started = c.started ++ [(n, call)]) (line : c.line = n :: after.line)
      (dropped : after.dropped = c.dropped)
  | done {total : Nat} {last : DestructorCall}
      (before : c.machine.active = [.flushing last [] total]) (active : after.machine.active = [])
      (started : after.started = c.started) (line : after.line = c.line)
      (dropped : after.dropped = c.dropped)

/-- No call is under way but one flush. -/
def Single (c : Chronicle) : Prop :=
  c.machine.active = [] ∨ ∃ call rest total, c.machine.active = [.flushing call rest total]

/-- Flushes are asked for only when no destructor runs. -/
def Permitted (c : Chronicle) (request : Request) : Prop :=
  request = .flush → c.machine.active = []

variable {config : HostConfig} {c : Chronicle}

private theorem Advance.same : Advance c c :=
  .quiet [] rfl rfl (List.append_nil _).symm (List.append_nil _).symm

private theorem Advance.withHost (host : Host) : Advance c (c.withHost host) :=
  .quiet [] rfl rfl (List.append_nil _).symm (List.append_nil _).symm

private theorem Consistent.advance_settle (consistent : c.Consistent config)
    (deferred : config.timing = .deferred) {n : Nat} {call : DestructorCall}
    (held : c.held = some (n, call)) : Advance c (c.settle n call) := by
  have timing : c.machine.host.config.timing = .deferred := by rw [consistent.config_eq, deferred]
  simp only [Chronicle.settle, Machine.settle, timing]
  refine .quiet [] rfl rfl ?_ (List.append_nil _).symm
  simp [line, held]

private theorem Consistent.advance_drop (consistent : c.Consistent config) (free : c.held = none)
    (h : Handle) : Advance c (c.perform (.drop h)) := by
  obtain ⟨fault, refused⟩ | ⟨call, slot, table, taken, names, removed⟩ :=
    unregister_cases c.machine.host h consistent.sound
  · simp only [perform, refused]
    exact .withHost _
  · obtain ⟨n, _, _, performed⟩ := consistent.perform_drop taken names
    rw [performed]
    refine .quiet [n] rfl rfl ?_ rfl
    simp [line, free, Chronicle.withHost]

/-- A flush between two batches, or before the first one, takes the front of the line if there is one. -/
private theorem Consistent.advance_nextBatch {before : Chronicle}
    (consistent : c.Consistent config) (free : c.held = none) {total : Nat}
    (idle : c.frames = [] ∧ c.machine.active = [])
    (same : c.started = before.started ∧ c.line = before.line ∧ c.dropped = before.dropped)
    (under : before.machine.active = [] ∧ total = 0 ∨
      ∃ last, before.machine.active = [.flushing last [] total]) :
    Advance before
      ({ c with machine := (c.machine.nextBatch total).2 }.resume []
        (c.machine.nextBatch total).1) := by
  obtain ⟨frames, active⟩ := idle
  obtain ⟨started, line, dropped⟩ := same
  obtain ⟨_, taken⟩ | ⟨call, rest, pending, taken⟩ := c.machine.nextBatch_cases total
  · rw [taken]
    obtain ⟨empty, _⟩ | ⟨last, flushing⟩ := under
    · exact .quiet [] (active.trans empty.symm) started (line.trans (List.append_nil _).symm)
        (dropped.trans (List.append_nil _).symm)
    · exact .done flushing active started line dropped
  · have stand := consistent.queued_stands
    rw [pending] at stand
    cases queued : c.queued with
    | nil =>
        rw [queued] at stand
        cases stand
    | cons n numbers =>
        rw [taken]
        simp only [resume, begin]
        have now : Activation.flushing call rest (total + (rest.length + 1)) :: c.machine.active =
            [.flushing call rest (total + (rest.length + 1))] := by rw [active]
        refine .batch under now (congrArg (· ++ [(n, call)]) started) ?_ dropped
        rw [← line]
        simp [Chronicle.line, frames, queued, free]

private theorem Consistent.advance_finish (consistent : c.Consistent config) (free : c.held = none)
    (single : c.Single) : Advance c (c.perform .finish) := by
  cases frames : c.frames with
  | nil =>
      simp only [perform, frames]
      exact .same
  | cons frame outer =>
      obtain ⟨n, numbers⟩ := frame
      have stand := consistent.frames_stand
      obtain empty | ⟨last, calls, total, active⟩ := single
      · rw [frames, empty] at stand
        cases stand
      · rw [frames, active] at stand
        obtain ⟨running, below⟩ := List.forall₂_cons.1 stand
        obtain rfl := List.forall₂_nil_right_iff.1 below
        simp only [perform, frames]
        cases calls with
        | nil =>
            cases running with
            | flushing _ batch =>
                cases batch
                have finished : c.machine.finish = (c.machine.back []).nextBatch total := by
                  unfold Machine.finish
                  rw [active]
                  rfl
                rw [finished]
                refine Consistent.advance_nextBatch (consistent.return frames active _) free
                  ⟨rfl, rfl⟩ ⟨rfl, ?_, rfl⟩ (.inr ⟨last, active⟩)
                simp [line, frames]
        | cons call rest =>
            cases running with
            | flushing _ batch =>
                obtain ⟨k, others, _, _, rfl⟩ := List.forall₂_cons_right_iff.1 batch
                have finished : c.machine.finish =
                    (.started call, c.machine.back [.flushing call rest total]) := by
                  unfold Machine.finish
                  rw [active]
                  rfl
                rw [finished]
                refine .next active rfl rfl ?_ rfl
                simp [line, frames, resume, begin]

theorem Consistent.advance_step (consistent : c.Consistent config)
    (deferred : config.timing = .deferred) (single : c.Single) {request : Request}
    (permitted : c.Permitted request) : Advance c (c.step request) := by
  cases held : c.held with
  | some place =>
      obtain ⟨n, call⟩ := place
      cases request <;> simp only [Chronicle.step, held] <;> first
        | exact consistent.advance_settle deferred held
        | exact .same
  | none =>
      simp only [Chronicle.step, held]
      cases request with
      | register mode call =>
          simp only [perform]
          obtain ⟨fault | h, host⟩ := c.machine.host.register mode call
          · exact .withHost host
          · exact .quiet [] rfl rfl (List.append_nil _).symm (List.append_nil _).symm
      | drop h => exact consistent.advance_drop held h
      | settle => exact .same
      | rep h => exact .same
      | lend mode name =>
          simp only [perform]
          cases c.machine.host.lend mode name with
          | ok success => exact .withHost _
          | error fault => exact .same
      | release h => exact .withHost _
      | flush =>
          have idle := permitted rfl
          have stand := consistent.frames_stand
          rw [idle] at stand
          exact consistent.advance_nextBatch held
            ⟨List.forall₂_nil_right_iff.1 stand, idle⟩ ⟨rfl, rfl, rfl⟩ (.inl ⟨idle, rfl⟩)
      | takeFaults => exact .quiet [] rfl rfl (List.append_nil _).symm (List.append_nil _).symm
      | finish => exact consistent.advance_finish held single

/-! ## Runs -/

/-- The chronicles of a host whose destructors do not flush. -/
inductive Orderly (config : HostConfig) : Chronicle → Prop where
  | start : Orderly config (start config)
  | step {c : Chronicle} {request : Request} (reached : Orderly config c)
      (permitted : c.Permitted request) : Orderly config (c.step request)

/-- The destructors started and those in the line are all that drop requests have asked for, in the
order of the requests. -/
structure Lined (config : HostConfig) (c : Chronicle) : Prop where
  consistent : c.Consistent config
  single : c.Single
  order : c.started.map Prod.fst ++ c.line = c.dropped

theorem lined_start (config : HostConfig) : (start config).Lined config where
  consistent := consistent_start config
  single := .inl rfl
  order := rfl

theorem Lined.step (lined : c.Lined config) (deferred : config.timing = .deferred) {request : Request}
    (permitted : c.Permitted request) : (c.step request).Lined config := by
  have order := lined.order
  refine ⟨lined.consistent.step request, ?_, ?_⟩
  · cases lined.consistent.advance_step deferred lined.single permitted with
    | quiet _ active =>
        unfold Single
        rw [active]
        exact lined.single
    | next _ active => exact .inr ⟨_, _, _, active⟩
    | batch _ active => exact .inr ⟨_, _, _, active⟩
    | done _ active => exact .inl active
  · cases lined.consistent.advance_step deferred lined.single permitted with
    | quiet accepted _ started line dropped =>
        rw [started, line, dropped, ← order, List.append_assoc]
    | next _ _ started line dropped | batch _ _ started line dropped =>
        rw [started, dropped, ← order, line]
        simp
    | done _ _ started line dropped => rw [started, line, dropped, order]

theorem Orderly.lined (reached : c.Orderly config) (deferred : config.timing = .deferred) :
    c.Lined config := by
  induction reached with
  | start => exact lined_start config
  | step _ permitted ih => exact ih.step deferred permitted

/-- What guest code does between two flushes, and destructors inside one, is in order. -/
theorem Orderly.asked (reached : c.Orderly config) {requests : List Request}
    (quiet : ∀ request ∈ requests, request ≠ .flush) :
    Orderly config (requests.foldl Chronicle.step c) := by
  induction requests generalizing c with
  | nil => exact reached
  | cons request rest ih =>
      have permitted : c.Permitted request := fun flush =>
        absurd flush (quiet request List.mem_cons_self)
      exact ih (reached.step permitted) fun other member =>
        quiet other (List.mem_cons_of_mem _ member)

/-! ## From the call of a flush to its return -/

/-- The flush that was called in the first chronicle is under way in the second one. -/
inductive Flushing (before : Chronicle) : Chronicle → Prop where
  | called (free : before.held = none) (under : (before.step .flush).machine.active ≠ []) :
      Flushing before (before.step .flush)
  | more {c : Chronicle} {request : Request} (flushing : Flushing before c)
      (permitted : c.Permitted request) (under : (c.step request).machine.active ≠ []) :
      Flushing before (c.step request)

/-- The flush that was called in the first chronicle has returned a number. -/
inductive Flushed (before : Chronicle) (count : Nat) : Chronicle → Prop where
  | empty (free : before.held = none) (answered : before.machine.flush.1 = .flushed count) :
      Flushed before count (before.step .flush)
  | ran {c : Chronicle} (flushing : Flushing before c) (free : c.held = none)
      (answered : c.machine.finish.1 = .flushed count) : Flushed before count (c.step .finish)

/-- The destructors that a flush has started are those in its total that it still has not to start. -/
structure Amid (config : HostConfig) (before c : Chronicle) (call : DestructorCall)
    (rest : List DestructorCall) (total : Nat) : Prop where
  lined : c.Lined config
  active_eq : c.machine.active = [.flushing call rest total]
  count_eq : c.started.length + rest.length = before.started.length + total

theorem Flushing.amid {before : Chronicle} (flushing : Flushing before c)
    (deferred : config.timing = .deferred) (lined : before.Lined config)
    (idle : before.machine.active = []) :
    ∃ call rest total, Amid config before c call rest total := by
  induction flushing with
  | called free under =>
      have permitted : before.Permitted .flush := fun _ => idle
      have next := lined.step deferred permitted
      cases lined.consistent.advance_step deferred lined.single permitted with
      | quiet _ active => exact absurd (active.trans idle) under
      | next flushing => cases flushing.symm.trans idle
      | done flushing => cases flushing.symm.trans idle
      | batch first active started =>
          obtain ⟨_, rfl⟩ | ⟨last, flushing⟩ := first
          · refine ⟨_, _, _, next, active, ?_⟩
            rw [started, List.length_append, List.length_singleton]
            omega
          · cases flushing.symm.trans idle
  | @more c request _ permitted under ih =>
      obtain ⟨call, rest, total, amid⟩ := ih
      have next := amid.lined.step deferred permitted
      have count := amid.count_eq
      cases amid.lined.consistent.advance_step deferred amid.lined.single permitted with
      | quiet _ active started =>
          refine ⟨call, rest, total, next, active.trans amid.active_eq, ?_⟩
          rw [started]
          exact count
      | next flushing active started =>
          cases flushing.symm.trans amid.active_eq
          refine ⟨_, _, _, next, active, ?_⟩
          rw [started, List.length_append, List.length_singleton]
          rw [List.length_cons] at count
          omega
      | batch last active started =>
          obtain ⟨empty, _⟩ | ⟨_, flushing⟩ := last
          · cases empty.symm.trans amid.active_eq
          · cases flushing.symm.trans amid.active_eq
            refine ⟨_, _, _, next, active, ?_⟩
            rw [started, List.length_append, List.length_singleton]
            rw [List.length_nil] at count
            omega
      | done _ active => exact absurd active under

/-- A destructor that returns inside a flush is followed by another one, or by the answer. -/
theorem Amid.returns {before : Chronicle} {call : DestructorCall} {rest : List DestructorCall}
    {total : Nat} (amid : Amid config before c call rest total) :
    (∃ next, c.machine.finish.1 = .started next) ∨
      c.machine.finish.1 = .flushed total ∧ c.machine.finish.2.host.pending = [] ∧
        c.machine.finish.2.active = [] ∧ rest = [] := by
  obtain ⟨_, dropping, _⟩ | ⟨_, next, _, _, _, finished⟩ | ⟨_, _, flushing, finished⟩ :=
    Machine.finish_cases amid.active_eq
  · cases dropping
  · exact .inl ⟨next, by rw [finished]⟩
  · cases flushing
    rw [finished]
    obtain ⟨pending, taken⟩ | ⟨next, _, _, taken⟩ := (c.machine.back []).nextBatch_cases total
    · rw [taken]
      exact .inr ⟨rfl, pending, rfl, rfl⟩
    · rw [taken]
      exact .inl ⟨next, rfl⟩

theorem Consistent.step_finish (consistent : c.Consistent config) (free : c.held = none)
    (running : c.machine.active ≠ []) {count : Nat} (answered : c.machine.finish.1 = .flushed count) :
    (c.step .finish).started = c.started ∧ (c.step .finish).machine = c.machine.finish.2 := by
  have stand := consistent.frames_stand
  cases frames : c.frames with
  | nil =>
      rw [frames] at stand
      exact absurd (List.forall₂_nil_left_iff.1 stand) running
  | cons frame outer =>
      simp only [Chronicle.step, free, perform, frames, answered]
      exact ⟨rfl, rfl⟩

theorem Flushed.spec {before : Chronicle} {count : Nat} (flushed : Flushed before count c)
    (deferred : config.timing = .deferred) (lined : before.Lined config)
    (idle : before.machine.active = []) :
    c.started.length = before.started.length + count ∧ c.machine.host.pending = [] ∧
      c.machine.active = [] := by
  cases flushed with
  | empty free answered =>
      obtain ⟨pending, taken⟩ | ⟨call, rest, _, taken⟩ := before.machine.nextBatch_cases 0
      · rw [Machine.flush, taken] at answered
        cases answered
        simp only [Chronicle.step, free, perform, Machine.flush, taken]
        exact ⟨rfl, pending, idle⟩
      · rw [Machine.flush, taken] at answered
        cases answered
  | @ran c flushing free answered =>
      obtain ⟨call, rest, total, amid⟩ := flushing.amid deferred lined idle
      have running : c.machine.active ≠ [] := by
        rw [amid.active_eq]
        exact List.cons_ne_nil _ _
      obtain ⟨started, machine⟩ := amid.lined.consistent.step_finish free running answered
      obtain ⟨next, more⟩ | ⟨same, pending, active, none⟩ := amid.returns
      · rw [answered] at more
        cases more
      · have count_eq := amid.count_eq
        rw [answered] at same
        cases same
        rw [started, machine]
        refine ⟨?_, pending, active⟩
        rw [none, List.length_nil] at count_eq
        exact count_eq

/-- What holds whenever drop requests have been accepted and flushes have been called. -/
structure FirstComeFirstServed (c : Chronicle) : Prop where
  /-- The registrations whose drop requests were accepted, in that order, are those whose destructors
  were started, in that order, and those in the line. -/
  order : c.started.map Prod.fst ++ c.line = c.dropped
  stands : ∀ start ∈ c.started, c.made[start.1]? = some start.2
  /-- A destructor is started as the one that a flush runs. -/
  in_flush : ∀ request, c.Permitted request → (c.step request).started ≠ c.started →
    ∃ n call rest total, (c.step request).started = c.started ++ [(n, call)] ∧
      (c.step request).machine.active = [.flushing call rest total]
  returns : ∀ later, c.machine.active = [] → Flushing c later →
    (∃ next, later.machine.finish.1 = .started next) ∨ ∃ count, later.machine.finish.1 = .flushed count
  flushed : ∀ count after, c.machine.active = [] → Flushed c count after →
    after.started.length = c.started.length + count ∧ after.machine.host.pending = [] ∧
      after.machine.active = []

theorem Orderly.first_come_first_served (deferred : config.timing = .deferred)
    (reached : c.Orderly config) : c.FirstComeFirstServed := by
  have lined := reached.lined deferred
  refine ⟨lined.order, lined.consistent.started_stands, ?_, ?_, ?_⟩
  · intro request permitted started
    cases lined.consistent.advance_step deferred lined.single permitted with
    | quiet _ _ same => exact absurd same started
    | next _ active started => exact ⟨_, _, _, _, started, active⟩
    | batch _ active started => exact ⟨_, _, _, _, started, active⟩
    | done _ _ same => exact absurd same started
  · intro later idle flushing
    obtain ⟨call, rest, total, amid⟩ := flushing.amid deferred lined idle
    obtain next | ⟨answered, _⟩ := amid.returns
    · exact .inl next
    · exact .inr ⟨total, answered⟩
  · intro count after idle flushed
    exact flushed.spec deferred lined idle

/-- Two objects are dropped, and the destructor of the first one registers and drops a third one. -/
def nestedVisit : Chronicle :=
  [.register .integer default, .drop (.integer 0), .settle, .finish, .finish, .finish].foldl step
    ((run { timing := .deferred }
      [.register .integer default, .register .integer default, .drop (.integer 1), .settle,
        .drop (.integer 0), .settle]).step .flush)

theorem nestedVisit_orderly : nestedVisit.Orderly { timing := .deferred } := by
  refine Orderly.asked (.step (Orderly.asked .start ?_) fun _ => rfl) ?_ <;> simp

theorem nestedVisit_served :
    (nestedVisit.started.map Prod.fst = [1, 0, 2] ∧ nestedVisit.machine.host.pending = []) ∧
      nestedVisit.FirstComeFirstServed :=
  ⟨by decide, Orderly.first_come_first_served rfl nestedVisit_orderly⟩

end Custody.Host.Chronicle
