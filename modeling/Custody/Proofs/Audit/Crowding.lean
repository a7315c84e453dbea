import Custody.Proofs.Audit.Lendings
import Custody.Proofs.Audit.Regions

/-!
# Scenarios that do not come to their end

An assertion of the guest that fails inside a scenario is not caught there: it ends the audit. One
scenario registers three objects at a time and asserts that the host accepts each of them. When the
table has room for one or two only, the first one goes away again, but two that were accepted stay.
Memory that cannot be obtained ends the program.
-/

set_option autoImplicit false

namespace Custody.Audit

open Session (Control Script World)

variable {α β : Type}

/-! ## Stops -/

def Stops (scenario : Scenario α) (world : World) (stop : Stop) (after : World) : Prop :=
  scenario.run world = .error stop after

variable {control : Control} {scenario : Scenario α} {world middle after : World} {stop : Stop}
  {mode : Mode} {message : String}

theorem stops_lift {script : Script α} (stopped : script world = .error stop after) :
    Stops (liftM script) world stop after := by
  change (Except.ok <$> script : Script (Except String α)) world = _
  simp only [Functor.map, EStateM.map, stopped]

theorem Stops.bind {next : α → Scenario β} (stops : Stops scenario world stop after) :
    Stops (scenario >>= next) world stop after :=
  Script.bind_error stops

theorem Runs.bind_stops {next : α → Scenario β} {value : α}
    (run : Runs scenario world value middle) (stops : Stops (next value) middle stop after) :
    Stops (scenario >>= next) world stop after :=
  (Script.bind_ok run).trans stops

theorem onPanic_stops {script : Script α} {cleanup : Script Unit}
    (stopped : script world = .error (.panic message) middle)
    (cleaned : cleanup middle = .ok () after) :
    Script.onPanic script cleanup world = .error (.panic message) after := by
  simp only [Script.onPanic, stopped, cleaned]

theorem runAll_stops {scenario : Scenario Unit} (stops : Stops scenario world stop after)
    (name : String) (iteration : Nat) (rest : List (String × Scenario Unit)) (checks : List Check) :
    runAll iteration ((name, scenario) :: rest) checks world = .error stop after := by
  have ended : tried name iteration scenario checks world = .error stop after :=
    Script.bind_error stops
  rw [runAll, Script.bind_error ended]

/-! ## Registration without room -/

/-- What the assertion of a guest says whose registration was refused. -/
def refusal (mode : Mode) : String :=
  "host returned an invalid handle for a new " ++ probeTypeName mode ++ " registration"

/-- The object stays where it is, and nothing else has changed but the record of the fault. -/
theorem registerProbe_full (own : mode = world.machine.host.config.mode)
    (full : world.machine.host.table.capacity ≤ world.machine.host.live)
    (children : List Session.Owner) :
    ∃ after fault,
      registerProbe mode children world = .error (.panic (refusal mode)) after ∧
      after.machine = { world.machine with host := world.machine.host.record fault } ∧
      ∀ id r, world.heap.get? id = some r → after.heap.get? id = some r := by
  subst own
  have refused := Host.register_full full
    (Session.reclaiming probeEntryName world.heap.next)
  refine ⟨_, _, Session.register_refused _ (.probe children) refused, rfl, fun id r present => ?_⟩
  have apart : id ≠ world.heap.next := by
    rintro rfl
    rw [world.heap.get?_next] at present
    cases present
  exact (world.heap.get?_add _ _ id).trans ((if_neg apart).trans present)

/-- With room for one, the first child goes away when the second one is refused. -/
theorem nestedTeardown_stops_at_second (reaches : Reaches control 1) (ready : Ready mode 1 world)
    (single : world.machine.host.table.capacity = world.machine.host.live + 1) :
    ∃ after, Stops (nestedTeardown control mode) world (.panic (refusal mode)) after ∧
      after.machine.host.live ≤ world.machine.host.live := by
  obtain ⟨left, one, h, slot, registered, toOne, probe⟩ :=
    registerProbe_ok ready.fits ready.room ready.mode_eq []
  have own : mode = one.machine.host.config.mode := (toOne.mode_eq_iff mode).2 ready.mode_eq
  have live := toOne.live
  rw [List.length_singleton] at live
  have full : one.machine.host.table.capacity ≤ one.machine.host.live := by
    exact Nat.le_of_eq (toOne.capacity_eq.trans (single.trans live.symm))
  obtain ⟨two, fault, refused, machine, kept⟩ := registerProbe_full own full []
  have probe' : Registered two probeEntryName left.id h slot [] :=
    ⟨kept _ _ probe.present, probe.names.of_eq (by rw [machine]; rfl) (by rw [machine]; rfl)⟩
  have fits : two.machine.host.Fits := by
    rw [machine]
    exact (toOne.fits ready.fits).operated (.of_eq rfl rfl)
  have idle : two.machine.host.pending = [] := by
    rw [machine]
    exact toOne.pending_eq.trans ready.idle
  obtain ⟨asked, settled, order, felled⟩ :=
    dropOwner_felled reaches probe'.planted fits idle left rfl
  refine ⟨asked, ?_, ?_⟩
  · unfold nestedTeardown
    refine (runs_lift (Session.flush_idle control ready.idle)).bind_stops ?_
    refine (runs_lift (liveHandles_ok world)).bind_stops ?_
    refine (stops_lift ?_).bind
    unfold registerPair
    refine (Script.bind_ok registered).trans ?_
    exact Script.bind_error (onPanic_stops refused felled.asked_ok)
  · have fewer := felled.asked_live
    have same : two.machine.host.live = one.machine.host.live := by
      rw [machine]
      rfl
    omega

/-- With room for two, the parent is refused, and both children stay registered. -/
theorem nestedTeardown_stops_at_parent (ready : Ready mode 2 world)
    (double : world.machine.host.table.capacity = world.machine.host.live + 2) :
    ∃ after, Stops (nestedTeardown control mode) world (.panic (refusal mode)) after ∧
      after.machine.host.live = world.machine.host.live + 2 := by
  obtain ⟨left, one, first, firstSlot, leftRegistered, toOne, leftProbe⟩ :=
    registerProbe_ok ready.fits (ready.fewer (Nat.le_succ 1)).room ready.mode_eq []
  obtain ⟨right, two, second, secondSlot, rightRegistered, toTwo, rightProbe⟩ :=
    registerProbe_ok (toOne.fits ready.fits) (toOne.hasRoom ready.room)
      ((toOne.mode_eq_iff _).2 ready.mode_eq) []
  have pair := toOne.trans toTwo
  have full : two.machine.host.table.capacity ≤ two.machine.host.live := by
    rw [pair.capacity_eq, double, pair.live]
    exact Nat.le_refl _
  obtain ⟨three, fault, refused, machine, -⟩ := registerProbe_full
    ((pair.mode_eq_iff _).2 ready.mode_eq) full [left, right]
  refine ⟨three, ?_, ?_⟩
  · unfold nestedTeardown
    refine (runs_lift (Session.flush_idle control ready.idle)).bind_stops ?_
    refine (runs_lift (liveHandles_ok world)).bind_stops ?_
    refine (runs_lift (registerPair_ok control leftRegistered rightRegistered)).bind_stops ?_
    exact (stops_lift refused).bind
  · rw [machine]
    exact pair.live

/-! ## Memory that cannot be obtained -/

/-- A payload that memory cannot hold ends the first scenario. -/
theorem bufferCopy_stops {payload : List UInt8} (large : Memory.sizeLimit ≤ payload.length)
    (world : World) :
    Stops (bufferCopy payload) world (Memory.outOfMemory { size := payload.length, align := 1 })
      world := by
  have failed := Memory.Buffer.ofBytes_exhausted world.workspace.memory large
  unfold bufferCopy
  refine (runs_lift (memoryCounters_ok world)).bind_stops ?_
  refine (stops_lift ?_).bind
  unfold bufferOf Script.callMemory
  rw [Script.get_bind]
  change (Script.ofExcept (Memory.Buffer.ofBytes world.workspace.memory payload) >>= _) world = _
  rw [failed]
  rfl

end Custody.Audit
