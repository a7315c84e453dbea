import Custody.Audit.Run
import Custody.Proofs.Audit.Excursion

/-!
# Scenarios that come to their end

A scenario runs from one world to another when it comes to its end there without a detail. The rules
follow the way scenarios are put together. A scenario passes when from every world that is ready for
it, it runs to its end and is home again.
-/

set_option autoImplicit false

namespace Custody.Audit

open Session (Excursion Script World)

variable {α β : Type}

/-! ## Runs -/

def Runs (scenario : Scenario α) (world : World) (value : α) (after : World) : Prop :=
  scenario.run world = .ok (.ok value) after

variable {scenario : Scenario α} {world middle after : World} {value : α}

theorem runs_pure (value : α) (world : World) : Runs (pure value) world value world := rfl

theorem runs_lift {script : Script α} (ran : script world = .ok value after) :
    Runs (liftM script) world value after := by
  change (Except.ok <$> script : Script (Except String α)) world = _
  simp only [Functor.map, EStateM.map, ran]

theorem Runs.bind {next : α → Scenario β} {result : β} (first : Runs scenario world value middle)
    (rest : Runs (next value) middle result after) : Runs (scenario >>= next) world result after :=
  (Script.bind_ok first).trans rest

theorem runs_ensure {condition : Bool} (holds : condition = true) (detail : String)
    (world : World) : Runs (ensure condition detail) world () world := by
  rw [ensure, if_pos holds]
  exact runs_pure () world

theorem Runs.holding (value : α) (middle : World) {cleanup : Script Unit}
    (run : Runs scenario world value middle)
    (cleaned : cleanup middle = .ok () after) :
    Runs (holding scenario cleanup) world value after := by
  unfold Runs at run
  change Script.andFinally scenario.run cleanup world = _
  simp only [Script.andFinally, run, cleaned]

theorem Runs.keeping (value : α) (after : World) {cleanup : Script Unit}
    (run : Runs scenario world value after) : Runs (keeping scenario cleanup) world value after := by
  have kept : Script.onPanic scenario.run cleanup world = .ok (.ok value) after := by
    unfold Runs at run
    simp only [Script.onPanic, run]
  exact (Script.bind_ok kept).trans rfl

theorem takeFaults_ok (world : World) :
    takeFaults world = .ok world.machine.host.faults world.forgiven := rfl

/-- What is written down of a scenario that came to its end and left no fault behind. -/
theorem Runs.tried {scenario : Scenario Unit} (run : Runs scenario world () after)
    (clean : after.machine.host.faults = []) (name : String) (iteration : Nat)
    (checks : List Check) :
    tried name iteration scenario checks world =
      .ok (record name iteration (.ok ()) checks) after := by
  have taken : takeFaults after = .ok [] after := by
    rw [takeFaults_ok, clean, World.forgiven_of_clean clean]
  unfold Audit.tried
  rw [Script.bind_ok run, Script.bind_ok taken]
  rfl

/-! ## Scenarios that pass -/

/-- A world in which the audit can register so many entries. -/
structure Ready (mode : Mode) (room : Nat) (world : World) : Prop where
  mode_eq : mode = world.machine.host.config.mode
  fits : world.machine.host.Fits
  room : world.machine.host.HasRoom room
  idle : world.machine.host.pending = []
  clean : world.machine.host.faults = []

def Passes (mode : Mode) (room : Nat) (scenario : Scenario Unit) (tally : Host.Counters) : Prop :=
  ∀ world, Ready mode room world →
    ∃ after, Runs scenario world () after ∧ Excursion world after [] [] tally

variable {mode : Mode} {room : Nat} {tally : Host.Counters}

theorem Ready.fewer {less : Nat} (ready : Ready mode room world) (fewer : less ≤ room) :
    Ready mode less world :=
  { ready with
    room :=
      ⟨Nat.le_trans (Nat.add_le_add_left fewer _) ready.room.capacity,
        Nat.le_trans (Nat.add_le_add_left fewer _) ready.room.nameable⟩ }

theorem Ready.home (ready : Ready mode room world) (excursion : Excursion world after [] [] tally) :
    Ready mode room after where
  mode_eq := (excursion.mode_eq_iff mode).2 ready.mode_eq
  fits := excursion.fits ready.fits
  room := excursion.hasRoom (by simpa using ready.room)
  idle := excursion.pending_eq.trans ready.idle
  clean := excursion.faults_eq.trans ready.clean

theorem Passes.more {more : Nat} {scenario : Scenario Unit} (passes : Passes mode room scenario tally)
    (enough : room ≤ more) : Passes mode more scenario tally :=
  fun world ready => passes world (ready.fewer enough)

end Custody.Audit
