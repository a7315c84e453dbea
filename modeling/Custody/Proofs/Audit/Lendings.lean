import Custody.Proofs.Audit.Objects

/-!
# Scenarios of lent handles

Each of these scenarios borrows resources of the host and gives them back. One of them makes an
assertion of its own fail on purpose: a handle must not be assigned over another one.
-/

set_option autoImplicit false

namespace Custody.Audit

open Guest (Cell OwnedImport)
open Session (Excursion Script World)

def lending (count : Nat) : Host.Counters := { importsCreated := count, importsReleased := count }

variable {world after : World} {mode : Mode} {h : Handle}

theorem borrowed_runs (fits : world.machine.host.Fits) (room : world.machine.host.HasRoom 1)
    (own : mode = world.machine.host.config.mode) (name : String) :
    ∃ h after slot, Runs (borrowed mode name) world h after ∧
      Excursion world after [] [slot] { importsCreated := 1 } ∧
      after.machine.host.Names h slot (.imported name) := by
  obtain ⟨h, after, slot, lent, excursion, names⟩ := Session.lend_excursion fits room own name
  exact ⟨h, after, slot, (Script.bind_ok lent).trans rfl, excursion, names⟩

theorem importRelease_passes (name : String) :
    Passes mode 1 (importRelease mode name) (lending 1) := by
  intro world ready
  obtain ⟨h, now, slot, borrowed, excursion, names⟩ :=
    borrowed_runs ready.fits ready.room ready.mode_eq name
  obtain ⟨settled, released, home, -⟩ :=
    excursion.release (excursion.fits ready.fits) names (.refl [slot])
  have given : Session.dropOwned Session.releaseImport (.ofHandle h) now = .ok () settled := by
    rw [Session.dropOwned_ofHandle _ (Handle.isValid_of_slot? names.slot?_eq), released]
  refine ⟨settled, ?_, home⟩
  unfold importRelease
  refine (runs_lift (hostCounters_ok world)).bind ?_
  refine borrowed.bind ?_
  refine Runs.bind (.holding () now (runs_ensure (by simp [OwnedImport.handle, OwnedImport.ofHandle])
    _ _) given) ?_
  refine (runs_lift (hostCounters_ok settled)).bind ?_
  exact runs_ensure (by simp [home.counters_eq, Host.Counters.plus]) _ _

private theorem dropCells_empty (mode other : Mode) (world : World) :
    (do
      Session.dropCell (.empty mode)
      Session.dropCell (.empty other) : Script Unit) world = .ok () world := by
  rw [Session.dropCell_empty, Session.dropCell_empty]
  rfl

theorem importTransfer_passes (name : String) :
    Passes mode 1 (importTransfer mode name) (lending 1) := by
  intro world ready
  obtain ⟨h, now, slot, borrowed, excursion, names⟩ :=
    borrowed_runs ready.fits ready.room ready.mode_eq name
  obtain ⟨settled, released, home, -⟩ :=
    excursion.release (excursion.fits ready.fits) names (.refl [slot])
  have own : h.mode = mode :=
    ((excursion.mode_eq_iff _).1 names.mode_eq).trans ready.mode_eq.symm
  refine ⟨settled, ?_, home⟩
  unfold importTransfer
  refine borrowed.bind ?_
  refine .holding () settled ?_ (dropCells_empty _ _ settled)
  refine (runs_lift released).bind ?_
  refine (runs_ensure ?_ _ _).bind ?_
  · simp [Cell.isValid, Cell.empty]
  refine (runs_ensure ?_ _ _).bind ?_
  · simp
  refine runs_ensure ?_ _ _
  simp [Cell.mode, Cell.empty, own]

/-- Assigning over a live handle is refused, and the events say which handles were lost. -/
theorem panics_assignTo {held incoming : Handle} (heldValid : held.isValid = true)
    (incomingValid : incoming.isValid = true) (world : World) :
    panics (assignTo { handle := held } { handle := incoming }) world =
      .ok true
        { world with
          log := .notice (.lost held) :: .notice (.lost incoming) :: world.log } := by
  have refused : ({ handle := held } : Cell).assign { handle := incoming } =
      .error (.panic ("assigning over live imported handle " ++ held.text)) := if_pos heldValid
  have heldLost : ({ handle := held } : Cell).lost? = some held := if_pos heldValid
  have incomingLost : ({ handle := incoming } : Cell).lost? = some incoming := if_pos incomingValid
  have stopped : assignTo { handle := held } { handle := incoming } world =
      .error (.panic ("assigning over live imported handle " ++ held.text))
        { world with
          log := .notice (.lost held) :: .notice (.lost incoming) :: world.log } := by
    unfold assignTo
    rw [refused]
    unfold Session.dropCell
    rw [heldLost, incomingLost]
    rfl
  unfold panics
  rw [Script.bind_ok (Script.attempt_panic stopped)]
  rfl

theorem assignOverLive_passes : Passes mode 2 (assignOverLive mode) (lending 2) := by
  intro world ready
  obtain ⟨held, one, heldSlot, heldBorrowed, toOne, heldNames⟩ := borrowed_runs ready.fits
    (ready.fewer (Nat.le_add_left 1 1)).room ready.mode_eq "assign-target"
  obtain ⟨incoming, two, slot, borrowed, toTwo, names⟩ := borrowed_runs (toOne.fits ready.fits)
    (toOne.hasRoom ready.room) ((toOne.mode_eq_iff _).2 ready.mode_eq) "assign-source"
  have heldNames' := toTwo.names heldNames
  have apart : slot ≠ heldSlot := by
    rintro rfl
    have empty := toTwo.vacant slot List.mem_cons_self
    rw [heldNames.get?_eq] at empty
    cases empty
  have excursion := (toOne.trans toTwo).written
    (.notice (.lost held) :: .notice (.lost incoming) :: two.log)
  -- the events do not matter to the host, which takes the two handles back one after the other
  obtain ⟨three, heldReleased, toThree, keeps⟩ :=
    excursion.release (excursion.fits ready.fits) (heldNames'.of_eq rfl rfl) (.refl _)
  obtain ⟨settled, released, home, -⟩ :=
    toThree.release (toThree.fits ready.fits) (keeps _ _ _ apart (names.of_eq rfl rfl)) (.refl _)
  refine ⟨settled, ?_, home⟩
  unfold assignOverLive
  refine heldBorrowed.bind ?_
  refine borrowed.bind ?_
  refine (runs_lift (panics_assignTo (Handle.isValid_of_slot? heldNames.slot?_eq)
    (Handle.isValid_of_slot? names.slot?_eq) two)).bind ?_
  refine (runs_lift heldReleased).bind ?_
  refine (runs_lift released).bind ?_
  exact runs_ensure rfl _ _

end Custody.Audit
