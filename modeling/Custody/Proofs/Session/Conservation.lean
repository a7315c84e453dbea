import Custody.Proofs.Session.Handovers

/-!
# Imported handles are conserved

A guest moves the handles that the host lent it from cell to cell and from owner to owner. However it
does so, and also when a step panics half way, each valid handle that was put in is in one place
afterwards: in a cell or with an owner, or it was moved out, given back by an owner that went away, or
reported as lost when a bare cell went away with it.
-/

set_option autoImplicit false

namespace Custody.Session

open Guest (Cell OwnedImport)
open Script

section Steps

variable {control : Control} {nodeType : Mode → String} {world : World} {step : Step}

def Lands (control : Control) (nodeType : Mode → String) (world : World) (step : Step) : Prop :=
  ∃ answer after, answerOf control nodeType step world = .ok answer after ∧
    (Taken.ofStep world step answer after).Lawful

theorem answerOf_ok {answer : Answer} {after : World}
    (ran : perform control nodeType step world = .ok answer after) :
    answerOf control nodeType step world = .ok answer after := by
  unfold answerOf
  rw [bind_ok (attempt_ok ran)]
  rfl

theorem answerOf_panic {message : String} {after : World}
    (stopped : perform control nodeType step world = .error (.panic message) after) :
    answerOf control nodeType step world = .ok (.panicked message) after := by
  unfold answerOf
  rw [bind_ok (attempt_panic stopped)]
  rfl

/-- A step that only moves handles between bare cells, and that goes well. -/
theorem lands_of_cells (tidy : world.Tidy) {answer : Answer} {cells : Registers Cell}
    {saved : Registers Handle} (gone : Option Cell)
    (ran : perform control nodeType step world =
      .ok answer { world with cells, saved, log := lostEvents gone ++ world.log })
    (calm : ∀ message, answer ≠ .panicked message) (distinct : cells.Distinct)
    (put out : Multiset Handle)
    (bare_eq : world.bare + put = cells.total Cell.counted + out + gone.elim 0 Cell.counted)
    (bareIn : (Taken.ofStep world step answer world).bareIn = put)
    (bareOut : (Taken.ofStep world step answer world).bareOut = out)
    (dropped : (Taken.ofStep world step answer world).droppedCell?.bind Cell.lost? =
      gone.bind Cell.lost?)
    (ownedIn : (Taken.ofStep world step answer world).ownedIn = 0)
    (ownedOut : (Taken.ofStep world step answer world).ownedOut = 0)
    (kept : (Taken.ofStep world step answer world).droppedImport? = none) :
    Lands control nodeType world step :=
  ⟨_, _, answerOf_ok ran,
    Taken.lawful_of_cells tidy gone rfl rfl distinct bareIn bareOut bare_eq dropped ownedIn ownedOut
      kept fun message panics => absurd panics (calm message)⟩

theorem lands_of_imports (tidy : world.Tidy) {answer : Answer} {imports : Registers OwnedImport}
    {saved : Registers Handle} (gone : Option OwnedImport)
    (ran : perform control nodeType step world =
      .ok answer
        { world with
          machine := { world.machine with host := returned world.machine.host gone }
          imports
          saved
          log := releaseEvents world.machine.host gone ++ world.log })
    (calm : ∀ message, answer ≠ .panicked message) (distinct : imports.Distinct)
    (put out : Multiset Handle)
    (owned_eq : world.owned + put =
      imports.total OwnedImport.counted + out + gone.elim 0 OwnedImport.counted)
    (ownedIn : (Taken.ofStep world step answer world).ownedIn = put)
    (ownedOut : (Taken.ofStep world step answer world).ownedOut = out)
    (dropped : (Taken.ofStep world step answer world).droppedImport? = gone)
    (bareIn : (Taken.ofStep world step answer world).bareIn = 0)
    (bareOut : (Taken.ofStep world step answer world).bareOut = 0)
    (kept : (Taken.ofStep world step answer world).droppedCell? = none) :
    Lands control nodeType world step :=
  ⟨_, _, answerOf_ok ran,
    Taken.lawful_of_imports tidy gone rfl rfl distinct ownedIn ownedOut owned_eq dropped bareIn bareOut
      kept calm⟩

theorem lands_idle (tidy : world.Tidy) {answer : Answer}
    (ran : answerOf control nodeType step world = .ok answer world)
    (bareIn : (Taken.ofStep world step answer world).bareIn = 0)
    (bareOut : (Taken.ofStep world step answer world).bareOut = 0)
    (ownedIn : (Taken.ofStep world step answer world).ownedIn = 0)
    (ownedOut : (Taken.ofStep world step answer world).ownedOut = 0)
    (noCell : (Taken.ofStep world step answer world).droppedCell? = none)
    (noImport : (Taken.ofStep world step answer world).droppedImport? = none) :
    Lands control nodeType world step := by
  refine ⟨answer, world, ran, ?_⟩
  apply Taken.lawful_of_cells tidy none rfl rfl tidy.cells_distinct bareIn bareOut _ _ ownedIn ownedOut
    noImport
  · exact fun _ _ => .inl rfl
  · rw [add_zero, Option.elim_none, add_zero, add_zero]
    rfl
  · rw [noCell]

theorem lands_refused (tidy : world.Tidy) {reason : Refusal}
    (ran : perform control nodeType step world = .ok (.refused reason) world) :
    Lands control nodeType world step := by
  apply lands_idle tidy (answerOf_ok ran)
  all_goals cases step <;> rfl

theorem lands_panicked (tidy : world.Tidy) {message : String}
    (stopped : perform control nodeType step world = .error (.panic message) world)
    (unassigned : ∀ src dst, step ≠ .assignCell src dst) : Lands control nodeType world step := by
  apply lands_idle tidy (answerOf_panic stopped)
  case noCell =>
    cases step with
    | assignCell src dst => exact absurd rfl (unassigned src dst)
    | _ => rfl
  all_goals cases step <;> rfl

/-! ### Arguments and registers -/

theorem withHandle_found {arg : HandleArg} {h : Handle} (next : Handle → Script Answer)
    (found : arg.value? world = some h) : withHandle arg next world = next h world := by
  cases arg with
  | literal given =>
      cases found
      rfl
  | saved name =>
      have saved : world.saved.get? name = some h := found
      simp only [withHandle, get_bind, saved]
  | unreadable message => cases found

theorem lands_without_handle (tidy : world.Tidy) {arg : HandleArg} {next : Handle → Script Answer}
    (absent : arg.value? world = none)
    (performs : perform control nodeType step world = withHandle arg next world)
    (unassigned : ∀ src dst, step ≠ .assignCell src dst) : Lands control nodeType world step := by
  cases arg with
  | literal given => cases absent
  | saved name =>
      have missing : world.saved.get? name = none := absent
      apply lands_refused tidy
      simp only [performs, withHandle, get_bind, missing]
      rfl
  | unreadable message => exact lands_panicked tidy performs unassigned

theorem withCell_found {src : String} {cell : Cell} (next : Cell → Script Answer)
    (found : world.cells.get? src = some cell) : withCell src next world = next cell world := by
  simp only [withCell, get_bind, found]

theorem lands_without_cell (tidy : world.Tidy) {src : String} {next : Cell → Script Answer}
    (absent : world.cells.get? src = none)
    (performs : perform control nodeType step world = withCell src next world) :
    Lands control nodeType world step := by
  apply lands_refused tidy
  simp only [performs, withCell, get_bind, absent]
  rfl

theorem withImport_found {src : String} {owned : OwnedImport} (next : OwnedImport → Script Answer)
    (found : world.imports.get? src = some owned) : withImport src next world = next owned world := by
  simp only [withImport, get_bind, found]

theorem lands_without_import (tidy : world.Tidy) {src : String} {next : OwnedImport → Script Answer}
    (absent : world.imports.get? src = none)
    (performs : perform control nodeType step world = withImport src next world) :
    Lands control nodeType world step := by
  apply lands_refused tidy
  simp only [performs, withImport, get_bind, absent]
  rfl

/-! ### Bare cells -/

theorem lands_newCell (tidy : world.Tidy) (dst : String) (arg : HandleArg) :
    Lands control nodeType world (.newCell dst arg) := by
  cases found : arg.value? world with
  | none => exact lands_without_handle tidy found rfl nofun
  | some h =>
      have ran : perform control nodeType (.newCell dst arg) world =
          .ok .done
            { world with
              cells := world.cells.put dst { handle := h }
              log := lostEvents (world.cells.get? dst) ++ world.log } := by
        rw [perform, withHandle_found _ found, bind_ok (putCell_eq dst _ world)]
        rfl
      apply lands_of_cells tidy _ ran nofun (tidy.cells_distinct.put dst _)
        (Cell.counted { handle := h }) 0
      case bare_eq =>
        rw [add_zero]
        exact (world.cells.total_put Cell.counted dst { handle := h }).symm
      case bareIn => exact congrArg (Option.elim · 0 _) found
      all_goals rfl

theorem lands_emptyCell (tidy : world.Tidy) (dst : String) (mode : Mode) :
    Lands control nodeType world (.emptyCell dst mode) := by
  have ran : perform control nodeType (.emptyCell dst mode) world =
      .ok .done
        { world with
          cells := world.cells.put dst (.empty mode)
          log := lostEvents (world.cells.get? dst) ++ world.log } := by
    rw [perform, bind_ok (putCell_eq dst _ world)]
    rfl
  apply lands_of_cells tidy _ ran nofun (tidy.cells_distinct.put dst _) 0 0
  case bare_eq =>
    have put := world.cells.total_put Cell.counted dst (.empty mode)
    rw [Cell.counted_empty] at put
    rw [add_zero (Registers.total _ _)]
    exact put.symm
  all_goals rfl

theorem lands_inspectCell (tidy : world.Tidy) (src : String) :
    Lands control nodeType world (.inspectCell src) := by
  cases found : world.cells.get? src with
  | none => exact lands_without_cell tidy found rfl
  | some cell =>
      have ran : perform control nodeType (.inspectCell src) world = .ok (.cell cell) world := by
        rw [perform, withCell_found _ found]
        rfl
      exact lands_idle tidy (answerOf_ok ran) rfl rfl rfl rfl rfl rfl

theorem perform_fillCell {src : String} {arg : HandleArg} {h : Handle} {cell : Cell}
    (given : arg.value? world = some h) (found : world.cells.get? src = some cell) :
    perform control nodeType (.fillCell src arg) world =
      if cell.mode ≠ h.mode then .ok (.refused .noSuchHandle) world
      else if cell.isValid then
        .error (.panic ("overwriting live imported handle " ++ cell.handle.text)) world
      else .ok .done { world with cells := world.cells.put src { handle := h } } := by
  have start : perform control nodeType (.fillCell src arg) world = withCell src _ world :=
    withHandle_found _ given
  rw [start, withCell_found _ found]
  by_cases other : cell.mode ≠ h.mode
  · rw [if_pos other, if_pos other]
    rfl
  rw [if_neg other, if_neg other]
  cases live : cell.isValid with
  | true =>
      rw [Cell.fill_of_valid live]
      rfl
  | false =>
      rw [Cell.fill_of_invalid live]
      rfl

theorem lands_fillCell (tidy : world.Tidy) (src : String) (arg : HandleArg) :
    Lands control nodeType world (.fillCell src arg) := by
  cases given : arg.value? world with
  | none => exact lands_without_handle tidy given rfl nofun
  | some h =>
      cases found : world.cells.get? src with
      | none => exact lands_without_cell tidy found (withHandle_found _ given)
      | some cell =>
          have ran := @perform_fillCell control nodeType world src arg h cell given found
          by_cases other : cell.mode ≠ h.mode
          · rw [if_pos other] at ran
            exact lands_refused tidy ran
          rw [if_neg other] at ran
          cases live : cell.isValid with
          | true =>
              rw [live] at ran
              exact lands_panicked tidy ran nofun
          | false =>
              rw [live] at ran
              apply lands_of_cells tidy none ran nofun (tidy.cells_distinct.put src _)
                (Cell.counted { handle := h }) 0
              case bare_eq =>
                have put := world.cells.total_put Cell.counted src { handle := h }
                rw [Registers.weightAt_of_get? _ found, Cell.counted_of_invalid live] at put
                rw [add_zero]
                exact put.symm
              case bareIn => exact congrArg (Option.elim · 0 _) given
              all_goals rfl

theorem lands_emptyOut (tidy : world.Tidy) (src dst : String) :
    Lands control nodeType world (.emptyOut src dst) := by
  cases found : world.cells.get? src with
  | none => exact lands_without_cell tidy found rfl
  | some cell =>
      have ran : perform control nodeType (.emptyOut src dst) world =
          .ok (.handle cell.handle)
            { world with
              cells := world.cells.put src (.empty cell.mode)
              saved := world.saved.put dst cell.handle } := by
        rw [perform, withCell_found _ found]
        rfl
      apply lands_of_cells tidy none ran nofun (tidy.cells_distinct.put src _) 0 cell.counted
      case bare_eq =>
        have put := world.cells.total_put Cell.counted src (.empty cell.mode)
        rw [Registers.weightAt_of_get? _ found, Cell.counted_empty] at put
        rw [Option.elim_none, add_zero (_ + _)]
        exact put.symm
      all_goals rfl

theorem lands_takeCell (tidy : world.Tidy) (src dst : String) :
    Lands control nodeType world (.takeCell src dst) := by
  cases found : world.cells.get? src with
  | none => exact lands_without_cell tidy found rfl
  | some cell =>
      let emptied := world.cells.put src (.empty cell.mode)
      have ran : perform control nodeType (.takeCell src dst) world =
          .ok .done
            { world with
              cells := emptied.put dst cell
              log := lostEvents (emptied.get? dst) ++ world.log } := by
        rw [perform, withCell_found _ found]
        dsimp only [Cell.take, Cell.intoHandle]
        rw [modify_bind]
        exact bind_ok (putCell_eq dst cell { world with cells := emptied })
      apply lands_of_cells tidy _ ran nofun ((tidy.cells_distinct.put src _).put dst _) 0 0
      case bare_eq =>
        have out := world.cells.total_put Cell.counted src (.empty cell.mode)
        have put := emptied.total_put Cell.counted dst cell
        rw [Registers.weightAt_of_get? _ found, Cell.counted_empty] at out
        rw [add_zero (Registers.total _ _)]
        exact (put.trans out).symm
      case dropped =>
        change (if dst = src then none else world.cells.get? dst).bind Cell.lost? = _
        by_cases same : dst = src
        · subst same
          rw [if_pos rfl, Registers.get?_put_self]
          exact (if_neg (by simp [Cell.isValid, Cell.empty])).symm
        · rw [if_neg same, Registers.get?_put_of_ne _ _ same]
      all_goals rfl

/-- An assignment over a valid handle panics, and its source goes away with the handle in it. -/
theorem lands_assigned_over (tidy : world.Tidy) {src dst message : String} {source : Cell}
    (found : world.cells.get? src = some source)
    (stopped : perform control nodeType (.assignCell src dst) world =
      .error (.panic message)
        { world with
          cells := world.cells.erase src
          log := lostEvents (some source) ++ world.log }) :
    Lands control nodeType world (.assignCell src dst) := by
  refine ⟨_, _, answerOf_panic stopped, ?_⟩
  apply Taken.lawful_of_cells tidy (some source) rfl rfl (tidy.cells_distinct.erase src) rfl rfl
  case bare_eq =>
    have erased := Registers.total_erase Cell.counted tidy.cells_distinct src
    rw [Registers.weightAt_of_get? _ found] at erased
    change world.bare + 0 = _ + 0 + source.counted
    rw [add_zero, add_zero]
    exact erased.symm
  case dropped => exact congrArg (Option.bind · Cell.lost?) found
  case panicked => exact fun _ _ => .inr ⟨src, dst, rfl, rfl⟩
  all_goals rfl

theorem lands_assigned (tidy : world.Tidy) {src dst : String} {source target : Cell}
    (found : world.cells.get? src = some source) (apart : dst ≠ src)
    (target? : world.cells.get? dst = some target) (empty : target.isValid = false)
    (ran : perform control nodeType (.assignCell src dst) world =
      .ok .done { world with cells := (world.cells.erase src).put dst source }) :
    Lands control nodeType world (.assignCell src dst) := by
  apply lands_of_cells tidy none ran nofun ((tidy.cells_distinct.erase src).put dst source) 0 0
  case bare_eq =>
    have erased := Registers.total_erase Cell.counted tidy.cells_distinct src
    have put := (world.cells.erase src).total_put Cell.counted dst source
    have kept := (Registers.get?_erase_of_ne _ apart).trans target?
    rw [Registers.weightAt_of_get? _ found] at erased
    rw [Registers.weightAt_of_get? _ kept, Cell.counted_of_invalid empty, add_zero] at put
    rw [Option.elim_none, add_zero, add_zero, add_zero]
    exact (put.trans erased).symm
  all_goals rfl

theorem perform_assignCell {src dst : String} {source target : Cell}
    (source? : world.cells.get? src = some source) (target? : world.cells.get? dst = some target) :
    perform control nodeType (.assignCell src dst) world =
      if src = dst ∨ source.mode ≠ target.mode then .ok (.refused .noSuchHandle) world
      else if target.isValid then
        .error (.panic ("assigning over live imported handle " ++ target.handle.text))
          { world with
            cells := world.cells.erase src
            log := lostEvents (some source) ++ world.log }
      else .ok .done { world with cells := (world.cells.erase src).put dst source } := by
  have start : perform control nodeType (.assignCell src dst) world = assignCells src dst world := rfl
  rw [assignCells, get_bind] at start
  simp only [source?, target?] at start
  rw [start]
  by_cases unfit : src = dst ∨ source.mode ≠ target.mode
  · rw [if_pos unfit, if_pos unfit]
    rfl
  rw [if_neg unfit, if_neg unfit, modify_bind]
  cases live : target.isValid with
  | true =>
      rw [Cell.assign_of_valid live]
      exact bind_ok (dropCell_eq source { world with cells := world.cells.erase src })
  | false =>
      rw [Cell.assign_of_invalid live]
      dsimp only
      rw [modify_bind, dropCell_empty]
      rfl

theorem perform_assignCell_without {src dst : String}
    (absent : world.cells.get? src = none ∨ world.cells.get? dst = none) :
    perform control nodeType (.assignCell src dst) world = .ok (.refused .noSuchHandle) world := by
  have start : perform control nodeType (.assignCell src dst) world = assignCells src dst world := rfl
  rw [start, assignCells, get_bind]
  rcases absent with absent | absent
  · simp only [absent]
    rfl
  · cases world.cells.get? src <;> simp only [absent] <;> rfl

theorem lands_assignCell (tidy : world.Tidy) (src dst : String) :
    Lands control nodeType world (.assignCell src dst) := by
  cases source? : world.cells.get? src with
  | none => exact lands_refused tidy (perform_assignCell_without (.inl source?))
  | some source =>
      cases target? : world.cells.get? dst with
      | none => exact lands_refused tidy (perform_assignCell_without (.inr target?))
      | some target =>
          have ran :=
            @perform_assignCell control nodeType world src dst source target source? target?
          by_cases unfit : src = dst ∨ source.mode ≠ target.mode
          · rw [if_pos unfit] at ran
            exact lands_refused tidy ran
          rw [if_neg unfit] at ran
          cases live : target.isValid with
          | true =>
              rw [live] at ran
              exact lands_assigned_over tidy source? ran
          | false =>
              rw [live] at ran
              have apart : dst ≠ src := fun same => unfit (.inl same.symm)
              exact lands_assigned tidy source? apart target? live ran

theorem lands_dropCell (tidy : world.Tidy) (src : String) :
    Lands control nodeType world (.dropCell src) := by
  cases found : world.cells.get? src with
  | none => exact lands_without_cell tidy found rfl
  | some cell =>
      have ran : perform control nodeType (.dropCell src) world =
          .ok .done
            { world with
              cells := world.cells.erase src
              log := lostEvents (some cell) ++ world.log } := by
        rw [perform, withCell_found _ found, modify_bind]
        exact bind_ok (dropCell_eq cell { world with cells := world.cells.erase src })
      apply lands_of_cells tidy (some cell) ran nofun (tidy.cells_distinct.erase src) 0 0
      case bare_eq =>
        have erased := Registers.total_erase Cell.counted tidy.cells_distinct src
        rw [Registers.weightAt_of_get? _ found] at erased
        rw [add_zero, add_zero]
        exact erased.symm
      case dropped => exact congrArg (Option.bind · Cell.lost?) found
      all_goals rfl

/-! ### Owned handles -/

theorem lands_ownImport (tidy : world.Tidy) (dst : String) (arg : HandleArg) :
    Lands control nodeType world (.ownImport dst arg) := by
  cases found : arg.value? world with
  | none => exact lands_without_handle tidy found rfl nofun
  | some h =>
      have ran : perform control nodeType (.ownImport dst arg) world =
          .ok .done
            { world with
              machine :=
                { world.machine with host := returned world.machine.host (world.imports.get? dst) }
              imports := world.imports.put dst (.ofHandle h)
              log := releaseEvents world.machine.host (world.imports.get? dst) ++ world.log } := by
        rw [perform, withHandle_found _ found, bind_ok (putImport_eq dst _ world)]
        rfl
      apply lands_of_imports tidy _ ran nofun (tidy.imports_distinct.put dst _)
        (OwnedImport.ofHandle h).counted 0
      case owned_eq =>
        rw [add_zero]
        exact (world.imports.total_put OwnedImport.counted dst (.ofHandle h)).symm
      case ownedIn => exact congrArg (Option.elim · 0 _) found
      all_goals rfl

theorem lands_inspectImport (tidy : world.Tidy) (src : String) :
    Lands control nodeType world (.inspectImport src) := by
  cases found : world.imports.get? src with
  | none => exact lands_without_import tidy found rfl
  | some owned =>
      have ran : perform control nodeType (.inspectImport src) world =
          .ok (.ownedImport owned) world := by
        rw [perform, withImport_found _ found]
        rfl
      exact lands_idle tidy (answerOf_ok ran) rfl rfl rfl rfl rfl rfl

theorem lands_transferImport (tidy : world.Tidy) (src dst : String) :
    Lands control nodeType world (.transferImport src dst) := by
  cases found : world.imports.get? src with
  | none => exact lands_without_import tidy found rfl
  | some owned =>
      have ran : perform control nodeType (.transferImport src dst) world =
          .ok (.handle owned.handle)
            { world with
              imports := world.imports.erase src
              saved := world.saved.put dst owned.handle } := by
        rw [perform, withImport_found _ found, modify_bind, owned.intoHandle_eq]
        dsimp only
        rw [dropImport_empty]
        rfl
      apply lands_of_imports tidy none ran nofun (tidy.imports_distinct.erase src) 0 owned.counted
      case owned_eq =>
        have erased := Registers.total_erase OwnedImport.counted tidy.imports_distinct src
        rw [Registers.weightAt_of_get? _ found] at erased
        rw [Option.elim_none, add_zero, add_zero]
        exact erased.symm
      all_goals rfl

theorem lands_dropImport (tidy : world.Tidy) (src : String) :
    Lands control nodeType world (.dropImport src) := by
  cases found : world.imports.get? src with
  | none => exact lands_without_import tidy found rfl
  | some owned =>
      have ran : perform control nodeType (.dropImport src) world =
          .ok .done
            { world with
              machine := { world.machine with host := returned world.machine.host (some owned) }
              imports := world.imports.erase src
              log := releaseEvents world.machine.host (some owned) ++ world.log } := by
        rw [perform, withImport_found _ found, modify_bind]
        exact bind_ok (dropImport_eq owned { world with imports := world.imports.erase src })
      apply lands_of_imports tidy (some owned) ran nofun (tidy.imports_distinct.erase src) 0 0
      case owned_eq =>
        have erased := Registers.total_erase OwnedImport.counted tidy.imports_distinct src
        rw [Registers.weightAt_of_get? _ found] at erased
        rw [add_zero, add_zero]
        exact erased.symm
      case dropped => exact found
      all_goals rfl

theorem Step.lands (handles : step.handlesImports = true) (tidy : world.Tidy) :
    Lands control nodeType world step := by
  cases step with
  | newCell dst arg => exact lands_newCell tidy dst arg
  | emptyCell dst mode => exact lands_emptyCell tidy dst mode
  | inspectCell src => exact lands_inspectCell tidy src
  | fillCell src arg => exact lands_fillCell tidy src arg
  | emptyOut src dst => exact lands_emptyOut tidy src dst
  | takeCell src dst => exact lands_takeCell tidy src dst
  | assignCell src dst => exact lands_assignCell tidy src dst
  | dropCell src => exact lands_dropCell tidy src
  | ownImport dst arg => exact lands_ownImport tidy dst arg
  | inspectImport src => exact lands_inspectImport tidy src
  | transferImport src dst => exact lands_transferImport tidy src dst
  | dropImport src => exact lands_dropImport tidy src
  | _ => cases handles

end Steps

/-! ## What a run does -/

/-- What is put in during a run is in place after it, or it was moved out, given back or lost. Bare cells
lose handles and give none back, and owners give handles back and lose none. -/
structure Conserved (world : World) (taken : List Taken) (last : World) : Prop where
  bare_eq : world.bare + (taken.map Taken.bareIn).sum =
    last.bare + (taken.map Taken.bareOut).sum + (taken.flatMap Taken.lost : List Handle)
  owned_eq : world.owned + (taken.map Taken.ownedIn).sum =
    last.owned + (taken.map Taken.ownedOut).sum + (taken.flatMap Taken.released : List Handle)
  lawful : ∀ t ∈ taken, t.Lawful
  machine_eq : last.machine =
    { world.machine with
      host := (taken.flatMap Taken.released).foldl (fun host h => (host.release h).2)
        world.machine.host }

private theorem sum_step {held put next out gone puts last outs lost : Multiset Handle}
    (now : held + put = next + out + gone) (later : next + puts = last + outs + lost) :
    held + (put + puts) = last + (out + outs) + (gone + lost) :=
  calc held + (put + puts) = next + out + gone + puts := by rw [← add_assoc, now]
    _ = next + puts + (out + gone) := by rw [add_assoc next, add_right_comm]
    _ = last + outs + lost + (out + gone) := by rw [later]
    _ = last + (out + outs) + (gone + lost) := by ac_rfl

theorem conserved_nil (world : World) : Conserved world [] world where
  bare_eq := by
    rw [List.map_nil, List.map_nil, List.flatMap_nil, List.sum_nil, Multiset.coe_nil, add_zero, add_zero]
  owned_eq := by
    rw [List.map_nil, List.map_nil, List.flatMap_nil, List.sum_nil, Multiset.coe_nil, add_zero, add_zero]
  lawful := List.forall_mem_nil _
  machine_eq := rfl

theorem Conserved.cons {t : Taken} {taken : List Taken} {last : World} (lawful : t.Lawful)
    (conserved : Conserved t.after taken last) : Conserved t.before (t :: taken) last where
  bare_eq := by
    rw [List.map_cons, List.map_cons, List.sum_cons, List.sum_cons, List.flatMap_cons,
      ← Multiset.coe_add]
    exact sum_step lawful.bare_eq conserved.bare_eq
  owned_eq := by
    rw [List.map_cons, List.map_cons, List.sum_cons, List.sum_cons, List.flatMap_cons,
      ← Multiset.coe_add]
    exact sum_step lawful.owned_eq conserved.owned_eq
  lawful := List.forall_mem_cons.2 ⟨lawful, conserved.lawful⟩
  machine_eq := by
    rw [conserved.machine_eq, lawful.machine_eq, List.flatMap_cons, List.foldl_append]

theorem Conserved.account {world last : World} {taken : List Taken}
    (conserved : Conserved world taken last) :
    world.bare + world.owned + (taken.map fun t => t.bareIn + t.ownedIn).sum =
      last.bare + last.owned + (taken.map fun t => t.bareOut + t.ownedOut).sum +
        (taken.flatMap Taken.released : List Handle) + (taken.flatMap Taken.lost : List Handle) := by
  rw [List.sum_map_add, List.sum_map_add, add_add_add_comm, conserved.bare_eq, conserved.owned_eq]
  ac_rfl

/-- A run that only handles imported handles comes to an end and conserves them. -/
theorem trace_conserves (control : Control) (nodeType : Mode → String) {world : World}
    {steps : List Step} (tidy : world.Tidy) (handles : ∀ step ∈ steps, step.handlesImports = true) :
    ∃ taken last, trace (answerOf control nodeType) world steps = .ok (taken, last) ∧
      runFrom (answerOf control nodeType) world steps = .ok (taken.map Taken.record) ∧
      Conserved world taken last ∧
      world.bare + world.owned + (taken.map fun t => t.bareIn + t.ownedIn).sum =
        last.bare + last.owned + (taken.map fun t => t.bareOut + t.ownedOut).sum +
          (taken.flatMap Taken.released : List Handle) +
          (taken.flatMap Taken.lost : List Handle) := by
  have traced : ∃ taken last, trace (answerOf control nodeType) world steps = .ok (taken, last) ∧
      Conserved world taken last := by
    induction steps generalizing world with
    | nil => exact ⟨[], world, rfl, conserved_nil world⟩
    | cons step rest ih =>
        obtain ⟨first, others⟩ := List.forall_mem_cons.1 handles
        obtain ⟨answer, after, ran, lawful⟩ := step.lands first tidy
        obtain ⟨taken, last, traced, conserved⟩ := ih lawful.tidy others
        refine ⟨.ofStep world step answer after :: taken, last, ?_, conserved.cons lawful⟩
        rw [trace, ran]
        change (trace _ after.takeLog.2 rest >>= _) = _
        rw [show trace _ after.takeLog.2 rest = _ from traced]
        rfl
  obtain ⟨taken, last, traced, conserved⟩ := traced
  refine ⟨taken, last, traced, ?_, conserved, conserved.account⟩
  rw [runFrom_eq_trace, traced]
  rfl

theorem tidy_start (config : HostConfig) : (World.start config).Tidy :=
  ⟨List.nodup_nil, List.nodup_nil, rfl⟩

/-- A cell is filled over, one is assigned over and one is stored over. A handle goes from owner to owner
and is given back by the second one. -/
def errand : List Step :=
  [ .newCell "a" (.literal (.integer 3)), .emptyCell "b" .integer,
    .fillCell "b" (.literal (.integer 4)), .fillCell "b" (.literal (.integer 5)), .takeCell "b" "c",
    .assignCell "a" "c", .newCell "c" (.literal (.integer 6)), .emptyOut "c" "s",
    .ownImport "x" (.saved "s"), .transferImport "x" "s", .ownImport "y" (.saved "s"),
    .dropImport "y" ]

theorem errand_conserves :
    ∃ taken last,
      trace (answerOf (controlFor Mode.name 0) Mode.name) (.start {}) errand = .ok (taken, last) ∧
      Conserved (.start {}) taken last ∧
      taken.flatMap Taken.lost = [.integer 3, .integer 4] ∧
      taken.flatMap Taken.released = [.integer 6] ∧ last.bare = 0 ∧ last.owned = 0 := by
  obtain ⟨taken, last, traced, -, conserved, -⟩ :=
    trace_conserves (controlFor Mode.name 0) Mode.name (tidy_start {})
      (show ∀ step ∈ errand, step.handlesImports = true by decide)
  refine ⟨taken, last, traced, conserved, ?_⟩
  have computed : ∃ taken last,
      trace (answerOf (controlFor Mode.name 0) Mode.name) (.start {}) errand = .ok (taken, last) ∧
      taken.flatMap Taken.lost = [.integer 3, .integer 4] ∧
      taken.flatMap Taken.released = [.integer 6] ∧ last.bare = 0 ∧ last.owned = 0 :=
    ⟨_, _, rfl, rfl, rfl, rfl, rfl⟩
  obtain ⟨_, _, same, results⟩ := computed
  cases traced.symm.trans same
  exact results

end Custody.Session
