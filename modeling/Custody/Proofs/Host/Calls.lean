import Custody.Proofs.Host.Room

/-!
# What can be asked of a host

Guest code and whoever embeds a host call its operations one after the other, inside destructors or
outside. A response is all that the caller of one of them gets back.
-/

set_option autoImplicit false

namespace Custody.Host

/-- A call of a host. At `finish` the innermost destructor returns to it. -/
inductive Call where
  | register (mode : Mode) (call : DestructorCall)
  | drop (h : Handle)
  | rep (h : Handle)
  | lend (mode : Mode) (name : String)
  | release (h : Handle)
  | flush
  | finish
  | takeFaults
  | counters
  | settings
  | census
  | install (config : HostConfig)

inductive Response where
  | registered (result : Except Fault Handle)
  | dropped (outcome : DropOutcome)
  | represented (result : Except Fault Rep)
  | lent (result : Except Fault Handle)
  | released (result : Except Fault Unit)
  | continued (continuation : Continuation)
  | faults (faults : List Fault)
  | counters (counters : Counters)
  | settings (mode : Mode) (timing : Timing)
  /-- How many entries the table has, and how many destructors wait for a flush. -/
  | census (live pending : Nat)
  | installed

namespace Response

def fault? : Response → Option Fault
  | .registered (.error fault) | .represented (.error fault) | .lent (.error fault)
  | .released (.error fault) | .dropped (.rejected fault) => some fault
  | _ => none

def started? : Response → Option DestructorCall
  | .dropped outcome => outcome.started?
  | .continued continuation => continuation.started?
  | _ => none

end Response

namespace Machine

def ask (m : Machine) : Call → Response × Machine
  | .register mode call =>
      let (result, host) := m.host.register mode call
      (.registered result, { m with host })
  | .drop h =>
      let (outcome, m) := m.drop h
      (.dropped outcome, m)
  | .rep h => (.represented (m.host.rep h), m)
  | .lend mode name =>
      match m.host.lend mode name with
      | .ok (h, host) => (.lent (.ok h), { m with host })
      | .error fault => (.lent (.error fault), m)
  | .release h =>
      let (result, host) := m.host.release h
      (.released result, { m with host })
  | .flush =>
      let (continuation, m) := m.flush
      (.continued continuation, m)
  | .finish =>
      let (continuation, m) := m.finish
      (.continued continuation, m)
  | .takeFaults =>
      let (faults, host) := m.host.takeFaults
      (.faults faults, { m with host })
  | .counters => (.counters m.host.counters, m)
  | .settings => (.settings m.host.config.mode m.host.config.timing, m)
  | .census => (.census m.host.live m.host.pending.length, m)
  | .install config => (.installed, m.install config)

/-- The machine after some calls, each of which does what `answer` says. -/
def asked (answer : Machine → Call → Response × Machine) (m : Machine) (calls : List Call) : Machine :=
  calls.foldl (fun m call => (answer m call).2) m

def responses (answer : Machine → Call → Response × Machine) : Machine → List Call → List Response
  | _, [] => []
  | m, call :: rest => (answer m call).1 :: responses answer (answer m call).2 rest

theorem ask_operated (m : Machine) (call : Call) :
    m.host.Operated (m.ask call).2.host ∨ ∃ config, (m.ask call).2.host = .install config := by
  cases call with
  | register mode call => exact .inl (.register m.host mode call)
  | drop h => exact .inl (.drop m h)
  | lend mode name =>
      refine .inl ?_
      simp only [ask]
      cases lent : m.host.lend mode name with
      | ok success => exact .lend lent
      | error fault => exact .of_eq rfl rfl
  | release h => exact .inl (.release m.host h)
  | flush => exact .inl (.flush m)
  | finish => exact .inl (.finish m)
  | install config => exact .inr ⟨config, rfl⟩
  | takeFaults | rep | counters | settings | census => exact .inl (.of_eq rfl rfl)

theorem fits_ask {m : Machine} (fits : m.host.Fits) (call : Call) : (m.ask call).2.host.Fits := by
  obtain operated | ⟨config, installed⟩ := m.ask_operated call
  · exact fits.operated operated
  · exact installed ▸ fits_install config

/-! ## Changes of a host aside from what it runs -/

def onHost (change : Host → Host) (m : Machine) : Machine := { m with host := change m.host }

/-- A change that has to do neither with the configuration nor with the queue nor with the count of
destructors. -/
structure Aside (change : Host → Host) : Prop where
  config_eq : ∀ host, (change host).config = host.config
  pending_eq : ∀ host, (change host).pending = host.pending
  requeued : ∀ host pending, { change host with pending } = change { host with pending }
  counted : ∀ host : Host,
    { change host with counters.destructorsRun := (change host).counters.destructorsRun + 1 } =
      change { host with counters.destructorsRun := host.counters.destructorsRun + 1 }

namespace Aside

variable {change : Host → Host}

theorem settle (aside : Aside change) (m : Machine) (call : DestructorCall) :
    (m.onHost change).settle call = ((m.settle call).1, (m.settle call).2.onHost change) := by
  have requeued := aside.requeued m.host (m.host.pending ++ [call])
  cases timing : m.host.config.timing <;>
    simp only [Machine.settle, onHost, timing, ← requeued, aside.config_eq, aside.pending_eq]

theorem nextBatch (aside : Aside change) (m : Machine) (total : Nat) :
    (m.onHost change).nextBatch total =
      ((m.nextBatch total).1, (m.nextBatch total).2.onHost change) := by
  have requeued := aside.requeued m.host []
  cases pending : m.host.pending <;>
    simp only [Machine.nextBatch, onHost, pending, ← requeued, aside.pending_eq]

theorem finish (aside : Aside change) (m : Machine) :
    (m.onHost change).finish = (m.finish.1, m.finish.2.onHost change) := by
  obtain ⟨host, active⟩ := m
  cases active with
  | nil => rfl
  | cons activation under =>
      cases activation with
      | dropping call => simp only [Machine.finish, onHost, aside.counted]
      | flushing call rest total =>
          cases rest with
          | nil =>
              simp only [Machine.finish, onHost, aside.counted]
              exact aside.nextBatch { host := _, active := under } total
          | cons next rest => simp only [Machine.finish, onHost, aside.counted]

end Aside

end Machine

end Custody.Host
