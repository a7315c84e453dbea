import Mathlib.Data.List.Perm.Subperm
import Custody.Proofs.Host.Accounting

/-!
# What an installation leaves under way

A host can be replaced while calls are under way, from inside a destructor that it runs. Its queue goes
with it. A batch that a flush has taken out of the queue stays, and the destructors in it run although
the host that accepted them is gone; and when a destructor returns, the host that is there by then counts
it. The books of a new host are therefore right up to what was in flight when it was installed, and right
without exception when nothing was.
-/

set_option autoImplicit false

namespace Custody.Host

namespace Machine

/-- The destructors that flushes under way have taken out of the queue and not yet started. -/
def batched (m : Machine) : List DestructorCall := m.active.flatMap Activation.rest

/-- The number of destructors that run or that nothing keeps from running. -/
def inFlight (m : Machine) : Nat := m.active.length + m.batched.length

theorem waiting_install (m : Machine) (config : HostConfig) :
    (m.install config).waiting = m.batched := rfl

/-! ## How many destructors run -/

theorem settle_active (m : Machine) (call : DestructorCall) :
    (m.settle call).2.active.length =
      m.active.length + (m.settle call).1.started?.toList.length := by
  unfold settle
  cases m.host.config.timing with
  | immediate => rfl
  | deferred => rfl

theorem drop_active (m : Machine) (h : Handle) :
    (m.drop h).2.active.length = m.active.length + (m.drop h).1.started?.toList.length := by
  unfold drop
  rcases m.host.unregister h with ⟨fault | call, host⟩
  · rfl
  · exact settle_active _ call

theorem nextBatch_active (m : Machine) (total : Nat) :
    (m.nextBatch total).2.active.length =
      m.active.length + (m.nextBatch total).1.started?.toList.length := by
  unfold nextBatch
  split <;> rfl

theorem finish_active {m : Machine} (running : m.active ≠ []) :
    m.finish.2.active.length + 1 = m.active.length + m.finish.1.started?.toList.length := by
  unfold finish
  cases active : m.active with
  | nil => exact absurd active running
  | cons activation under =>
      cases activation with
      | dropping call => rfl
      | flushing call rest total =>
          cases rest with
          | nil =>
              simp only [nextBatch_active, List.length_cons]
              omega
          | cons next rest => rfl

end Machine

/-! ## The time of one host -/

/-- What happened since a host was installed. -/
structure Tenure where
  machine : Machine
  /-- The destructors that this host was asked to call, in the order of the requests. -/
  accepted : List DestructorCall := []
  started : List DestructorCall := []

namespace Tenure

def start (m : Machine) (config : HostConfig) : Tenure := { machine := m.install config }

def withHost (t : Tenure) (host : Host) : Tenure := { t with machine := { t.machine with host } }

def goOn (t : Tenure) (result : Continuation × Machine) : Tenure :=
  { t with machine := result.2, started := t.started ++ result.1.started?.toList }

/-- What a request brings about. A drop request goes on to the start of its destructor at once, and
leaves nothing to settle. -/
def step (t : Tenure) : Request → Tenure
  | .register mode call => t.withHost (t.machine.host.register mode call).2
  | .drop h =>
      { machine := (t.machine.drop h).2
        accepted := t.accepted ++ (t.machine.host.unregister h).1.toOption.toList
        started := t.started ++ (t.machine.drop h).1.started?.toList }
  | .settle | .rep _ => t
  | .lend mode name =>
      match t.machine.host.lend mode name with
      | .ok (_, host) => t.withHost host
      | .error _ => t
  | .release h => t.withHost (t.machine.host.release h).2
  | .flush => t.goOn t.machine.flush
  | .takeFaults => t.withHost t.machine.host.takeFaults.2
  | .finish => t.goOn t.machine.finish

def run (m : Machine) (config : HostConfig) (requests : List Request) : Tenure :=
  requests.foldl step (start m config)

/-- A host that has to do with its own registrations only. -/
structure Isolated (t : Tenure) : Prop where
  own : t.started.Subperm t.accepted
  run_le : t.machine.host.counters.destructorsRun ≤ t.machine.host.counters.dropRequests
  requests_le : t.machine.host.counters.dropRequests ≤ t.machine.host.counters.registered

/-! ## The books of one host -/

/-- The counters count what happened since the installation, and what was in flight then. -/
structure Balanced (m : Machine) (t : Tenure) : Prop where
  sound : t.machine.host.table.Sound
  calls_perm : (t.started ++ t.machine.waiting).Perm (m.batched ++ t.accepted)
  run_eq : t.machine.host.counters.destructorsRun + t.machine.active.length =
    m.active.length + t.started.length
  requests_eq : t.machine.host.counters.dropRequests = t.accepted.length
  registered_eq : t.machine.host.counters.registered =
    t.machine.host.liveOf .exported + t.machine.host.counters.dropRequests

theorem balanced_start (m : Machine) (config : HostConfig) : (start m config).Balanced m where
  sound := Table.sound_empty _
  calls_perm := by simp [start, Machine.waiting_install]
  run_eq := Nat.add_comm _ _
  requests_eq := rfl
  registered_eq := rfl

variable {m : Machine} {t : Tenure}

private theorem Balanced.withHost (balanced : t.Balanced m) {host : Host} (sound : host.table.Sound)
    (pending : host.pending = t.machine.host.pending)
    (run : host.counters.destructorsRun = t.machine.host.counters.destructorsRun)
    (requests : host.counters.dropRequests = t.machine.host.counters.dropRequests)
    (registered : host.counters.registered = host.liveOf .exported + host.counters.dropRequests) :
    (t.withHost host).Balanced m where
  sound := sound
  calls_perm := by
    have same : (t.withHost host).machine.waiting = t.machine.waiting := by
      simp only [Tenure.withHost, Machine.waiting, pending]
    rw [same]
    exact balanced.calls_perm
  run_eq := run ▸ balanced.run_eq
  requests_eq := requests.trans balanced.requests_eq
  registered_eq := registered

private theorem Balanced.register (balanced : t.Balanced m) (mode : Mode) (call : DestructorCall) :
    (t.step (.register mode call)).Balanced m := by
  simp only [step]
  obtain ⟨fault, refused⟩ | ⟨h, slot, table, registered, inserted, _, _⟩ :=
    register_cases t.machine.host mode call balanced.sound
  · rw [refused]
    exact balanced.withHost balanced.sound rfl rfl rfl balanced.registered_eq
  · rw [registered]
    refine balanced.withHost inserted.sound rfl rfl rfl ?_
    have exported := countP_inserted inserted .exported
    have before := balanced.registered_eq
    simp only [liveOf, Entry.kind_exported, if_true] at exported before ⊢
    omega

private theorem Balanced.lend (balanced : t.Balanced m) (mode : Mode) (name : String) :
    (t.step (.lend mode name)).Balanced m := by
  simp only [step]
  obtain ⟨fault, refused⟩ | ⟨h, slot, table, lent, inserted, _⟩ :=
    lend_cases t.machine.host mode name balanced.sound
  · rw [refused]
    exact balanced
  · rw [lent]
    refine balanced.withHost inserted.sound rfl rfl rfl ?_
    have exported := countP_inserted inserted .exported
    have before := balanced.registered_eq
    simpa [liveOf, exported] using before

private theorem Balanced.release (balanced : t.Balanced m) (h : Handle) :
    (t.step (.release h)).Balanced m := by
  simp only [step]
  obtain ⟨fault, refused⟩ | ⟨slot, name, table, given, _, removed⟩ :=
    release_cases t.machine.host h balanced.sound
  · rw [refused]
    exact balanced.withHost balanced.sound rfl rfl rfl balanced.registered_eq
  · rw [given]
    refine balanced.withHost removed.sound rfl rfl rfl ?_
    have exported := countP_removed removed .exported
    have before := balanced.registered_eq
    simpa [liveOf, exported] using before

private theorem Balanced.drop (balanced : t.Balanced m) (h : Handle) :
    (t.step (.drop h)).Balanced m := by
  simp only [step]
  obtain ⟨fault, refused⟩ | ⟨call, slot, table, taken, names, removed⟩ :=
    unregister_cases t.machine.host h balanced.sound
  · have dropped : t.machine.drop h =
        (.rejected fault, { t.machine with host := t.machine.host.record fault }) := by
      rw [Machine.drop, refused]
    have recorded : (t.withHost (t.machine.host.record fault)).Balanced m :=
      balanced.withHost balanced.sound rfl rfl rfl balanced.registered_eq
    rw [dropped, refused]
    simpa [Tenure.withHost, Except.toOption, DropOutcome.started?] using recorded
  · obtain ⟨table, pending, active, removed, dropped, waiting⟩ := names.drop_frame balanced.sound
    have running := t.machine.drop_active h
    constructor
    case sound =>
      rw [dropped]
      exact removed.sound
    case calls_perm =>
      refine List.perm_iff_count.2 fun one => ?_
      have before := balanced.calls_perm.count_eq one
      have now := waiting.count_eq one
      simp only [taken, Except.toOption, Option.toList_some, List.count_append, List.count_cons,
        List.count_nil] at before now ⊢
      omega
    case run_eq =>
      have before := balanced.run_eq
      rw [running, dropped]
      simp only [List.length_append]
      omega
    case requests_eq =>
      rw [dropped, taken]
      simp [balanced.requests_eq, Except.toOption]
    case registered_eq =>
      have exported := countP_removed removed .exported
      have before := balanced.registered_eq
      rw [dropped]
      simp only [liveOf, Entry.kind_exported, if_true] at exported before ⊢
      omega

private theorem Balanced.goOn (balanced : t.Balanced m) {result : Continuation × Machine}
    {pending : List DestructorCall} {active : List Activation} (returned : Nat)
    (frame : result.2 =
      { host :=
          { t.machine.host with
            pending
            counters.destructorsRun := t.machine.host.counters.destructorsRun + returned }
        active })
    (waiting : (result.1.started?.toList ++ result.2.waiting).Perm t.machine.waiting)
    (running : result.2.active.length + returned =
      t.machine.active.length + result.1.started?.toList.length) :
    (t.goOn result).Balanced m where
  sound := by
    simp only [Tenure.goOn, frame]
    exact balanced.sound
  calls_perm := by
    simp only [Tenure.goOn, List.append_assoc]
    exact (waiting.append_left _).trans balanced.calls_perm
  run_eq := by
    have before := balanced.run_eq
    simp only [Tenure.goOn, List.length_append]
    rw [frame] at running ⊢
    dsimp only at running ⊢
    omega
  requests_eq := by
    simp only [Tenure.goOn, frame]
    exact balanced.requests_eq
  registered_eq := by
    simp only [Tenure.goOn, frame]
    exact balanced.registered_eq

private theorem Balanced.finish (balanced : t.Balanced m) : (t.step .finish).Balanced m := by
  simp only [step]
  by_cases running : t.machine.active = []
  · -- without a call under way there is nothing to return from
    have idle : t.machine.finish = (.idle, t.machine) := by
      simp only [Machine.finish, running]
    rw [idle]
    exact balanced.goOn 0 rfl (.refl _) rfl
  · obtain ⟨pending, active, frame⟩ := t.machine.finish_frame running
    exact balanced.goOn 1 frame t.machine.finish_waiting (Machine.finish_active running)

private theorem Balanced.step (balanced : t.Balanced m) (request : Request) :
    (t.step request).Balanced m := by
  cases request with
  | register mode call => exact balanced.register mode call
  | drop h => exact balanced.drop h
  | settle => exact balanced
  | rep h => exact balanced
  | lend mode name => exact balanced.lend mode name
  | release h => exact balanced.release h
  | flush =>
      obtain ⟨pending, active, frame⟩ := t.machine.flush_frame
      exact balanced.goOn 0 frame t.machine.flush_waiting (t.machine.nextBatch_active 0)
  | takeFaults => exact balanced.withHost balanced.sound rfl rfl rfl balanced.registered_eq
  | finish => exact balanced.finish

theorem balanced_run (m : Machine) (config : HostConfig) (requests : List Request) :
    (run m config requests).Balanced m := by
  have initial := balanced_start m config
  unfold run
  generalize start m config = t at initial
  induction requests generalizing t with
  | nil => exact initial
  | cons request rest ih => exact ih (t.step request) (initial.step request)

/-! ## What a host can be held to -/

/-- What the host that was installed over a machine can be held to, at every point until the next
installation. -/
structure Accounts (m : Machine) (t : Tenure) : Prop where
  /-- The destructors that were started or that wait are those of the requests that this host accepted,
  and those in the batches of flushes that were under way. The queue of the host before is gone. -/
  calls_perm : (t.started ++ t.machine.waiting).Perm (m.batched ++ t.accepted)
  requests_eq : t.machine.host.counters.dropRequests = t.accepted.length
  requests_le : t.machine.host.counters.dropRequests ≤ t.machine.host.counters.registered
  /-- Every destructor of a request, and every one that was in flight, was counted, runs or waits. -/
  run_eq : t.machine.host.counters.destructorsRun + t.machine.active.length +
    t.machine.waiting.length = m.inFlight + t.machine.host.counters.dropRequests
  /-- Without a flush under way, no destructor of the host before is started. -/
  own_of_unbatched : m.batched = [] → t.started.Subperm t.accepted
  isolated_of_idle : m.active = [] → t.Isolated

theorem Balanced.accounts (balanced : t.Balanced m) : t.Accounts m := by
  have account := balanced.calls_perm.length_eq
  simp only [List.length_append] at account
  have requests := balanced.requests_eq
  have run := balanced.run_eq
  have requests_le := Nat.le.intro ((Nat.add_comm _ _).trans balanced.registered_eq.symm)
  have own : m.batched = [] → t.started.Subperm t.accepted := by
    intro unbatched
    have same := balanced.calls_perm
    rw [unbatched, List.nil_append] at same
    exact (List.sublist_append_left _ _).subperm.trans same.subperm
  refine
    { calls_perm := balanced.calls_perm
      requests_eq := requests
      requests_le
      run_eq := ?_
      own_of_unbatched := own
      isolated_of_idle := ?_ }
  · rw [Machine.inFlight]
    omega
  · intro idle
    have unbatched : m.batched = [] := by
      rw [Machine.batched, idle]
      rfl
    refine { own := own unbatched, run_le := ?_, requests_le }
    rw [unbatched, List.length_nil] at account
    rw [idle, List.length_nil] at run
    omega

/-- A new host runs the destructors of its own registrations, whatever was queued before it, and its
counters are off by what was in flight when it was installed and by nothing else. -/
theorem run_accounts (m : Machine) (config : HostConfig) (requests : List Request) :
    (run m config requests).Accounts m :=
  (balanced_run m config requests).accounts

def numbered (value : UInt64) : DestructorCall :=
  { rep := .number value, destructor := .note, typeName := "number" }

/-- Two registrations are dropped, and a flush has started the first destructor of the two. -/
def batchOfTwo : List Request :=
  [ .register .integer (numbered 1), .register .integer (numbered 2), .drop (.integer 0), .settle,
    .drop (.integer 1), .settle, .flush ]

/-- When the first destructor of a batch installs a host, the second one runs all the same, and the new
host counts both of them although it was asked for neither. -/
theorem not_always_isolated :
    ¬∀ (first second : HostConfig) (before after : List Request),
        (run (Chronicle.run first before).machine second after).Isolated := by
  intro always
  have isolated := always { timing := .deferred } { timing := .deferred } batchOfTwo [.finish, .finish]
  have counted := isolated.run_le
  revert counted
  decide

end Tenure

end Custody.Host
