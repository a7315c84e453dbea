import Mathlib.Data.List.Forall2
import Custody.Proofs.Host.Operations
import Custody.Proofs.Host.Waiting

/-!
# Chronicles

A chronicle is a run of a host since its installation, with what guest code asked for at the top or
inside destructors in any order. Registrations are numbered as they are made, and a number follows
its registration from the table to the drop request that takes it out, to the queue or the batch
where its destructor waits, and to the destructor's start and return. Neither the host nor the guest
sees the numbers: they are there to tell equal registrations apart.
-/

set_option autoImplicit false

namespace Custody.Host

/-- What can happen next in a run. All but `settle` and `finish` are calls of guest code, and any
handle may be passed. At `settle` a drop request goes on with the destructor that it has taken out of
the table, and at `finish` the innermost destructor returns. -/
inductive Request where
  | register (mode : Mode) (call : DestructorCall)
  | drop (h : Handle)
  | settle
  | rep (h : Handle)
  | lend (mode : Mode) (name : String)
  | release (h : Handle)
  | flush
  | takeFaults
  | finish

/-- The registration whose destructor runs for a call under way, and those that follow it in the same
batch. -/
structure Frame where
  running : Nat
  rest : List Nat

/-- A run so far. The number of a registration is its place in `made`. Numbers stand at the slots of
the table, in the hand of the drop request that has just taken one out, in the queue, and in the calls
under way, the innermost in front. -/
structure Chronicle where
  machine : Machine
  made : List DestructorCall := []
  lodged : Nat → Option Nat := fun _ => none
  held : Option (Nat × DestructorCall) := none
  queued : List Nat := []
  frames : List Frame := []
  dropped : List Nat := []
  started : List (Nat × DestructorCall) := []
  returned : List Nat := []
  taken : Nat := 0

namespace Chronicle

def start (config : HostConfig) : Chronicle := { machine := .start config }

def withHost (c : Chronicle) (host : Host) : Chronicle :=
  { c with machine := { c.machine with host } }

def begin (c : Chronicle) (n : Nat) (rest : List Nat) (call : DestructorCall) : Chronicle :=
  { c with
    frames := { running := n, rest } :: c.frames
    started := c.started ++ [(n, call)] }

/-- Goes on as the machine does: with the rest of a batch, or with a new one. -/
def resume (c : Chronicle) (rest : List Nat) : Continuation → Chronicle
  | .started call =>
      match rest, c.queued with
      | n :: rest, _ => c.begin n rest call
      | [], n :: rest => { c with queued := [] }.begin n rest call
      | [], [] => c
  | _ => c

def settle (c : Chronicle) (n : Nat) (call : DestructorCall) : Chronicle :=
  match c.machine.settle call with
  | (.started call, machine) => { c with machine, held := none }.begin n [] call
  | (_, machine) => { c with machine, held := none, queued := c.queued ++ [n] }

/-- What guest code brings about while no drop request has a destructor in hand. -/
def perform (c : Chronicle) : Request → Chronicle
  | .register mode call =>
      match c.machine.host.register mode call with
      | (.ok h, host) =>
          { c.withHost host with
            made := c.made ++ [call]
            lodged := fun slot => if h.slot? = some slot then some c.made.length else c.lodged slot }
      | (.error _, host) => c.withHost host
  | .drop h =>
      match c.machine.host.unregister h with
      | (.ok call, host) =>
          let number := h.slot?.bind c.lodged
          { c.withHost host with
            lodged := fun slot => if h.slot? = some slot then none else c.lodged slot
            held := number.map (·, call)
            dropped := c.dropped ++ number.toList }
      | (.error _, host) => c.withHost host
  | .rep _ | .settle => c
  | .lend mode name =>
      match c.machine.host.lend mode name with
      | .ok (_, host) => c.withHost host
      | .error _ => c
  | .release h => c.withHost (c.machine.host.release h).2
  | .flush =>
      let (continuation, machine) := c.machine.flush
      { c with machine }.resume [] continuation
  | .takeFaults =>
      let (faults, host) := c.machine.host.takeFaults
      { c.withHost host with taken := c.taken + faults.length }
  | .finish =>
      match c.frames with
      | [] => c
      | frame :: frames =>
          let (continuation, machine) := c.machine.finish
          { c with machine, frames, returned := c.returned ++ [frame.running] }.resume frame.rest
            continuation

def step (c : Chronicle) (request : Request) : Chronicle :=
  match c.held, request with
  | some (n, call), .settle => c.settle n call
  | some _, _ => c
  | none, request => c.perform request

def run (config : HostConfig) (requests : List Request) : Chronicle :=
  requests.foldl step (start config)

theorem run_induction {invariant : Chronicle → Prop} (config : HostConfig)
    (initial : invariant (start config))
    (preserved : ∀ c request, invariant c → invariant (c.step request))
    (requests : List Request) : invariant (run config requests) := by
  unfold run
  generalize start config = c at initial
  induction requests generalizing c with
  | nil => exact initial
  | cons request rest ih => exact ih (c.step request) (preserved c request initial)

/-! ## What starting a destructor leaves alone -/

theorem resume_frame (c : Chronicle) (rest : List Nat) (continuation : Continuation) :
    ∃ queued frames started, c.started <+: started ∧
      c.resume rest continuation = { c with queued, frames, started } := by
  unfold resume
  split
  · split
    · exact ⟨_, _, _, List.prefix_append _ _, rfl⟩
    · exact ⟨_, _, _, List.prefix_append _ _, rfl⟩
    · exact ⟨_, _, _, List.prefix_rfl, rfl⟩
  · exact ⟨_, _, _, List.prefix_rfl, rfl⟩

theorem settle_frame (c : Chronicle) (n : Nat) (call : DestructorCall) :
    ∃ pending active queued frames started, c.started <+: started ∧
      c.settle n call =
        { c with
          machine := { host := { c.machine.host with pending }, active }
          held := none
          queued
          frames
          started } := by
  unfold settle Machine.settle
  cases c.machine.host.config.timing with
  | immediate => exact ⟨_, _, _, _, _, List.prefix_append _ _, rfl⟩
  | deferred => exact ⟨_, _, _, _, _, List.prefix_rfl, rfl⟩

theorem flush_frame (c : Chronicle) :
    ∃ pending active queued frames started, c.started <+: started ∧
      c.perform .flush =
        { c with
          machine := { host := { c.machine.host with pending }, active }
          queued
          frames
          started } := by
  obtain ⟨pending, active, machine⟩ := c.machine.flush_frame
  obtain ⟨queued, frames, started, grown, resumed⟩ :=
    resume_frame { c with machine := c.machine.flush.2 } [] c.machine.flush.1
  refine ⟨pending, active, queued, frames, started, grown, resumed.trans ?_⟩
  simp only [machine]

theorem finish_frame (c : Chronicle) {frame : Frame} {frames : List Frame}
    {activation : Activation} {under : List Activation} (innermost : c.frames = frame :: frames)
    (running : c.machine.active = activation :: under) :
    ∃ pending active queued frames started, c.started <+: started ∧
      c.perform .finish =
        { c with
          machine :=
            { host :=
                { c.machine.host with
                  pending
                  counters.destructorsRun := c.machine.host.counters.destructorsRun + 1 }
              active }
          returned := c.returned ++ [frame.running]
          queued
          frames
          started } := by
  obtain ⟨pending, active, machine⟩ := c.machine.finish_frame (by simp [running])
  obtain ⟨queued, outer, started, grown, resumed⟩ :=
    resume_frame
      { c with machine := c.machine.finish.2, frames, returned := c.returned ++ [frame.running] }
      frame.rest c.machine.finish.1
  refine ⟨pending, active, queued, outer, started, grown, ?_⟩
  simp only [perform, innermost]
  exact resumed.trans (by simp only [machine])

/-! ## Where a registration is -/

/-- The registrations whose destructor is still to be started: those in the queue, in the rest of a
batch, and in the hand of a drop request. -/
def waiting (c : Chronicle) : List Nat :=
  c.queued ++ c.frames.flatMap Frame.rest ++ (c.held.toList.map Prod.fst)

def IsLive (c : Chronicle) (n : Nat) : Prop :=
  ∃ slot call, c.lodged slot = some n ∧ c.made[n]? = some call ∧
    c.machine.host.table.get? slot = some (.exported call)

def IsWaiting (c : Chronicle) (n : Nat) : Prop := n ∈ c.waiting

def IsStarted (c : Chronicle) (n : Nat) : Prop := n ∈ c.started.map Prod.fst

/-- The registrations whose drop request was accepted and whose destructor neither waits for a flush
nor has returned. -/
def inFlight (c : Chronicle) : List Nat :=
  c.dropped.filter fun n => n ∉ c.queued ∧ n ∉ c.returned

end Chronicle

end Custody.Host
