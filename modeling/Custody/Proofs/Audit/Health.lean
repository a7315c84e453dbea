import Custody.Proofs.Audit.Checks
import Custody.Proofs.Audit.Lendings
import Custody.Proofs.Audit.Regions

/-!
# The audit of a healthy host

Scenarios that pass one after the other come home together, and so do as many iterations of them. A
host on which no destructor waits and which has room for three more entries is healthy: every scenario
passes there, and the audit leaves the host as it found it, except that it forgets the faults and
goes on counting.
-/

set_option autoImplicit false

namespace Custody.Audit

open Host (Chronicle)
open Session (Control Excursion Script World)

variable {control : Control} {world after : World} {mode : Mode} {room : Nat}
  {scenario : Scenario Unit} {rest : List (String × Scenario Unit)} {name : String}
  {tally tally' : Host.Counters} {payload : List UInt8}

/-! ## Scenarios in order -/

/-- All scenarios of a list pass, and each name that is new gets a check without a detail. -/
def PassAll (mode : Mode) (room : Nat) (scenarios : List (String × Scenario Unit))
    (tally : Host.Counters) : Prop :=
  ∀ (iteration : Nat) (listed : List String) (world : World), Ready mode room world →
    ∃ after,
      runAll iteration scenarios (listed.map Check.fresh) world =
        .ok (((scenarios.map Prod.fst).foldl enlist listed).map Check.fresh) after ∧
      Excursion world after [] [] tally

theorem passAll_nil : PassAll mode room [] {} := fun _ _ world _ => ⟨world, rfl, .refl world⟩

theorem tried_ok (run : Runs scenario world () after) (clean : after.machine.host.faults = [])
    (name : String) (iteration : Nat) (listed : List String) :
    tried name iteration scenario (listed.map Check.fresh) world =
      .ok ((enlist listed name).map Check.fresh) after := by
  rw [run.tried clean, record_ok]

theorem PassAll.cons (passes : Passes mode room scenario tally) (all : PassAll mode room rest tally') :
    PassAll mode room ((name, scenario) :: rest) (tally.plus tally') := by
  intro iteration listed world ready
  obtain ⟨middle, run, first⟩ := passes world ready
  have ready := ready.home first
  obtain ⟨after, ran, second⟩ := all iteration (enlist listed name) middle ready
  exact ⟨after, (Script.bind_ok (tried_ok run ready.clean name iteration listed)).trans ran,
    first.trans second⟩

/-- Steady scenarios pass whatever waits on the host, as long as no fault is recorded there. -/
theorem runAll_steady {scenarios : List (String × Scenario Unit)}
    (steady : ∀ entry ∈ scenarios, Steady entry.2) (clean : world.machine.host.faults = [])
    (iteration : Nat) (listed : List String) :
    ∃ after,
      runAll iteration scenarios (listed.map Check.fresh) world =
        .ok (((scenarios.map Prod.fst).foldl enlist listed).map Check.fresh) after ∧
      Excursion world after [] [] {} := by
  induction scenarios generalizing world listed with
  | nil => exact ⟨world, rfl, .refl world⟩
  | cons entry rest ih =>
      obtain ⟨name, scenario⟩ := entry
      obtain ⟨middle, run, first⟩ := steady _ List.mem_cons_self world
      have clean : middle.machine.host.faults = [] := first.faults_eq.trans clean
      obtain ⟨after, ran, second⟩ :=
        ih (fun entry member => steady entry (List.mem_cons_of_mem _ member)) clean
          (enlist listed name)
      exact ⟨after, (Script.bind_ok (tried_ok run clean name iteration listed)).trans ran,
        first.trans second⟩

/-- A destructor that the first of these two scenarios leaves behind runs in the second one. -/
theorem PassAll.registration (reaches : Reaches control 1) (enough : 1 ≤ room)
    (all : PassAll mode room rest tally') :
    PassAll mode room
      (("export.registration", registration control mode) ::
        ("export.drop_once", dropOnce control mode) :: rest)
      ((passage 1).plus (((passage 1).plus { faults := 1 }).plus tally')) := by
  intro iteration listed world ready
  obtain ⟨asked, middle, count, run, clean, flushed, first⟩ :=
    registration_runs reaches (ready.fewer enough)
  have readyMiddle := ready.home first
  obtain ⟨second, dropRun, dropped⟩ := dropOnce_runs reaches (readyMiddle.fewer enough) flushed
  have readySecond := readyMiddle.home dropped
  obtain ⟨after, ran, last⟩ := all iteration
    (enlist (enlist listed "export.registration") "export.drop_once") second readySecond
  refine ⟨after, ?_, first.trans (dropped.trans last)⟩
  refine (Script.bind_ok (tried_ok run clean _ iteration listed)).trans ?_
  exact (Script.bind_ok (tried_ok dropRun readySecond.clean _ iteration _)).trans ran

theorem runAll_append {iteration : Nat} {front back : List (String × Scenario Unit)}
    {checks listed : List Check} {middle : World}
    (ran : runAll iteration front checks world = .ok listed middle) :
    runAll iteration (front ++ back) checks world = runAll iteration back listed middle := by
  induction front generalizing checks world with
  | nil =>
      cases ran
      rfl
  | cons first front ih =>
      obtain ⟨name, scenario⟩ := first
      rw [List.cons_append, runAll]
      rw [runAll] at ran
      cases result : tried name iteration scenario checks world with
      | ok value reached =>
          rw [Script.bind_ok result] at ran ⊢
          exact ih ran
      | error stop reached => simp [bind, EStateM.bind, result] at ran

theorem PassAll.append {front back : List (String × Scenario Unit)}
    (first : PassAll mode room front tally) (second : PassAll mode room back tally') :
    PassAll mode room (front ++ back) (tally.plus tally') := by
  intro iteration listed world ready
  obtain ⟨middle, ran, toMiddle⟩ := first iteration listed world ready
  obtain ⟨after, ranOn, toAfter⟩ := second iteration _ middle (ready.home toMiddle)
  refine ⟨after, (runAll_append ran).trans ?_, toMiddle.trans toAfter⟩
  rw [List.map_append, List.foldl_append]
  exact ranOn

theorem PassAll.more {less : Nat} (all : PassAll mode less rest tally) (enough : less ≤ room) :
    PassAll mode room rest tally :=
  fun iteration listed world ready => all iteration listed world (ready.fewer enough)

/-! ## One iteration -/

def memoryScenarios (payload : List UInt8) : List (String × Scenario Unit) :=
  [ ("buffer.copy_from_view", bufferCopy payload),
    ("buffer.move", bufferMove payload),
    ("buffer.leak", bufferLeak payload),
    ("vector.elements", vectorElements) ]

def objectScenarios (control : Control) (mode : Mode) : List (String × Scenario Unit) :=
  [ ("export.registration", registration control mode),
    ("export.drop_once", dropOnce control mode),
    ("export.into_handle_once", intoHandleOnce control mode),
    ("export.reattach", reattach control mode) ]

/-- The scenarios that need room for one entry at most and come first. -/
def firstScenarios (control : Control) (mode : Mode) (payload : List UInt8) :
    List (String × Scenario Unit) :=
  memoryScenarios payload ++ objectScenarios control mode

def importScenarios (mode : Mode) (entry : ImportEntry) : List (String × Scenario Unit) :=
  [ ("import." ++ entry.name ++ ".release", importRelease mode entry.name),
    ("import." ++ entry.name ++ ".transfer", importTransfer mode entry.name) ]

theorem scenarios_eq (control : Control) (mode : Mode) (payload : List UInt8)
    (imports : List ImportEntry) :
    scenarios control mode payload imports =
      firstScenarios control mode payload ++
        ("export.nested_teardown", nestedTeardown control mode) ::
          (imports.flatMap (importScenarios mode) ++
            [("import.assign_over_live", assignOverLive mode)]) := rfl

theorem steady_of_mem_memoryScenarios (small : payload.length < Memory.sizeLimit) :
    ∀ entry ∈ memoryScenarios payload, Steady entry.2 := by
  intro entry member
  simp only [memoryScenarios, List.mem_cons, List.not_mem_nil, or_false] at member
  rcases member with rfl | rfl | rfl | rfl
  · exact bufferCopy_steady small
  · exact bufferMove_steady small
  · exact bufferLeak_steady small
  · exact vectorElements_steady

theorem passAll_objectScenarios (reaches : Reaches control 1) :
    PassAll mode 1 (objectScenarios control mode)
      { registered := 4, dropRequests := 4, destructorsRun := 4, faults := 1 } :=
  .registration reaches (Nat.le_refl 1)
    (.cons (intoHandleOnce_passes reaches) (.cons (reattach_passes reaches) passAll_nil))

theorem passAll_firstScenarios (reaches : Reaches control 1)
    (small : payload.length < Memory.sizeLimit) :
    PassAll mode 1 (firstScenarios control mode payload)
      { registered := 4, dropRequests := 4, destructorsRun := 4, faults := 1 } := by
  have first : PassAll mode 1 (memoryScenarios payload) {} := fun iteration listed world ready =>
    runAll_steady (steady_of_mem_memoryScenarios small) ready.clean iteration listed
  exact first.append (passAll_objectScenarios reaches)

theorem passAll_imports (mode : Mode) (imports : List ImportEntry) :
    PassAll mode 1 (imports.flatMap (importScenarios mode)) (lending (2 * imports.length)) := by
  induction imports with
  | nil => exact passAll_nil
  | cons entry imports ih =>
      have sum : (lending 1).plus ((lending 1).plus (lending (2 * imports.length))) =
          lending (2 * (imports.length + 1)) := by
        simp only [lending, Host.Counters.plus, Host.Counters.mk.injEq, true_and, and_true]
        omega
      rw [List.length_cons, ← sum]
      exact .cons (importRelease_passes entry.name) (.cons (importTransfer_passes entry.name) ih)

def iterationTally (imports : Nat) : Host.Counters :=
  { registered := 7
    dropRequests := 7
    destructorsRun := 7
    importsCreated := 2 * imports + 2
    importsReleased := 2 * imports + 2
    faults := 1 }

theorem passAll_scenarios (reaches : Reaches control 3) (small : payload.length < Memory.sizeLimit)
    (imports : List ImportEntry) :
    PassAll mode 3 (scenarios control mode payload imports) (iterationTally imports.length) := by
  have first : PassAll mode 3 (firstScenarios control mode payload) _ :=
    (passAll_firstScenarios (reaches.less (Nat.le_add_left 1 2)) small).more (Nat.le_add_left 1 2)
  have imported := (passAll_imports mode imports).more (Nat.le_add_left 1 2)
  have last : PassAll mode 3 [("import.assign_over_live", assignOverLive mode)] (lending 2) :=
    .cons (assignOverLive_passes.more (Nat.le_succ 2)) passAll_nil
  have nested : Passes mode 3 (nestedTeardown control mode) _ := nestedTeardown_passes reaches
  have sum : ({ registered := 4, dropRequests := 4, destructorsRun := 4, faults := 1 } :
      Host.Counters).plus ((passage 3).plus
        ((lending (2 * imports.length)).plus (lending 2))) = iterationTally imports.length := by
    simp [iterationTally, passage, lending, Host.Counters.plus]
  rw [scenarios_eq, ← sum]
  exact first.append (.cons nested (imported.append last))

/-! ## Iterations -/

/-- Once every scenario has its check, further iterations only go on counting. -/
theorem repeated_again {scenarios : List (String × Scenario Unit)}
    (all : PassAll mode room scenarios tally) {listed : List String}
    (known : scenarios.map Prod.fst ⊆ listed) (times iteration : Nat) (world : World)
    (ready : Ready mode room world) :
    ∃ after,
      repeated scenarios times iteration (listed.map Check.fresh) world =
        .ok (listed.map Check.fresh) after ∧
      Excursion world after [] [] (.times times tally) := by
  induction times generalizing iteration world with
  | zero =>
      rw [Host.Counters.times_zero]
      exact ⟨world, rfl, .refl world⟩
  | succ times ih =>
      obtain ⟨middle, ran, first⟩ := all iteration listed world ready
      rw [foldl_enlist_of_subset known] at ran
      obtain ⟨after, ranOn, second⟩ := ih (iteration + 1) middle (ready.home first)
      rw [Host.Counters.times_succ]
      exact ⟨after, (Script.bind_ok ran).trans ranOn, first.trans second⟩

theorem repeated_ok {scenarios : List (String × Scenario Unit)}
    (all : PassAll mode room scenarios tally) {times : Nat} (some : 0 < times)
    (ready : Ready mode room world) :
    ∃ after,
      repeated scenarios times 0 [] world =
        .ok (((scenarios.map Prod.fst).foldl enlist []).map Check.fresh) after ∧
      Excursion world after [] [] (.times times tally) := by
  obtain ⟨times, rfl⟩ := Nat.exists_eq_add_one_of_ne_zero (Nat.ne_of_gt some)
  obtain ⟨middle, ran, first⟩ := all 0 [] world ready
  obtain ⟨after, ranOn, second⟩ := repeated_again all
    (subset_foldl_enlist (scenarios.map Prod.fst) []) times 1 middle (ready.home first)
  rw [Host.Counters.times_succ]
  exact ⟨after, (Script.bind_ok ran).trans ranOn, first.trans second⟩

/-! ## The audit -/

theorem noLeaks_runs (live : after.machine.host.live = world.machine.host.live)
    (idle : after.machine.host.pending = [])
    (restored : world.workspace.memory.Restored after.workspace.memory) :
    Runs (noLeaks world.machine.host.live world.workspace.memory.counters) after () after := by
  obtain ⟨regions, counted⟩ := restored.counters_eq
  unfold noLeaks
  refine (runs_lift (liveHandles_ok after)).bind ?_
  refine (runs_ensure (by simp [live]) _ _).bind ?_
  refine (runs_lift (host_ok after)).bind ?_
  refine (runs_ensure (by simp [idle]) _ _).bind ?_
  refine (runs_lift (memoryCounters_ok after)).bind ?_
  refine runs_ensure ?_ _ _
  simp [counted, Memory.Counters.since, Memory.Counters.live]

/-- What an audit with so many iterations and imports leaves of the world before it: all of it but
the faults and what is counted. -/
structure Neutral (world after : World) (iterations imports : Nat) : Prop where
  table : ∀ slot, after.machine.host.table.get? slot = world.machine.host.table.get? slot
  live : after.machine.host.live = world.machine.host.live
  capacity_eq : after.machine.host.table.capacity = world.machine.host.table.capacity
  config_eq : after.machine.host.config = world.machine.host.config
  idle : after.machine.host.pending = []
  clean : after.machine.host.faults = []
  counters_eq : after.machine.host.counters =
    { registered := world.machine.host.counters.registered + 7 * iterations
      dropRequests := world.machine.host.counters.dropRequests + 7 * iterations
      destructorsRun := world.machine.host.counters.destructorsRun + 7 * iterations
      importsCreated :=
        world.machine.host.counters.importsCreated + iterations * (2 * imports + 2)
      importsReleased :=
        world.machine.host.counters.importsReleased + iterations * (2 * imports + 2)
      faults := world.machine.host.counters.faults + iterations }
  active_eq : after.machine.active = world.machine.active
  heap : ∀ id, after.heap.get? id = world.heap.get? id
  memory : world.workspace.memory.Restored after.workspace.memory
  frame : ∃ machine heap memory log,
    after = { world with machine, heap, workspace := { world.workspace with memory }, log }

/-- The world in which the audit begins: it has forgotten the faults and has its own log. -/
def cleared (world : World) (log : List Session.Event) : World := { world.forgiven with log }

/-- The faults of before are noted, if there are any. -/
theorem discard_ok (faults : List Host.Fault) (world : World) :
    ∃ log, ∀ next : Unit → Script Report,
      (if (!faults.isEmpty) = true then Script.note (.discarded faults.length) >>= next
        else next ()) world.forgiven = next () (cleared world log) := by
  cases faults with
  | nil => exact ⟨world.log, fun _ => rfl⟩
  | cons fault rest => exact ⟨_, fun _ => rfl⟩

theorem neutral_of_excursion {iterations imports : Nat} {log : List Session.Event}
    (idle : world.machine.host.pending = [])
    (home : Excursion (cleared world log) after [] []
      (.times iterations (iterationTally imports))) :
    Neutral world after iterations imports where
  table slot := home.table slot List.not_mem_nil
  live := home.live
  capacity_eq := home.capacity_eq
  config_eq := home.config_eq
  idle := home.pending_eq.trans idle
  clean := home.faults_eq
  counters_eq := by
    rw [home.counters_eq, cleared, World.forgiven]
    simp only [Host.Counters.plus, Host.Counters.times, iterationTally, Nat.mul_one,
      Nat.mul_comm iterations 7]
  active_eq := home.active_eq
  heap id := home.heap id List.not_mem_nil
  memory := home.memory
  frame := by
    obtain ⟨_, _, _, _, rfl⟩ := home.frame
    exact ⟨_, _, _, _, rfl⟩

theorem run_ok (reaches : Reaches control 3) (fits : world.machine.host.Fits)
    (idle : world.machine.host.pending = []) (room : world.machine.host.HasRoom 3)
    (config : AuditConfig) (small : config.payload.toUTF8.toList.length < Memory.sizeLimit)
    (imports : List ImportEntry) :
    ∃ after,
      run control config imports world =
        .ok
          { mode := world.machine.host.config.mode
            timing := world.machine.host.config.timing
            iterations := max 1 config.iterations.toNat
            checks := (checkNames imports).map Check.fresh
            counters := after.machine.host.counters } after ∧
      Neutral world after (max 1 config.iterations.toNat) imports.length := by
  obtain ⟨log, discarded⟩ := discard_ok world.machine.host.faults world
  have ready : Ready world.machine.host.config.mode 3 (cleared world log) :=
    ⟨rfl, fits.operated (.of_eq rfl rfl), ⟨room.capacity, room.nameable⟩, idle, rfl⟩
  have all : PassAll world.machine.host.config.mode 3 (scenarios control _ _ imports) _ :=
    passAll_scenarios reaches small imports
  obtain ⟨after, ran, home⟩ := repeated_ok all
    (Nat.lt_of_lt_of_le Nat.zero_lt_one (Nat.le_max_left 1 config.iterations.toNat)) ready
  have neutral := neutral_of_excursion idle home
  have leaks := tried_ok (noLeaks_runs home.live neutral.idle home.memory) neutral.clean
    "host.no_leaks" (max 1 config.iterations.toNat)
  refine ⟨after, ?_, neutral⟩
  unfold run
  refine (Script.bind_ok (host_ok world)).trans ?_
  refine (Script.bind_ok (takeFaults_ok world)).trans ?_
  refine (discarded _).trans ?_
  refine (Script.bind_ok (liveHandles_ok _)).trans ?_
  refine (Script.bind_ok (memoryCounters_ok _)).trans ?_
  refine (Script.bind_ok ran).trans ?_
  refine (Script.bind_ok (Session.flush_idle control neutral.idle)).trans ?_
  refine (Script.bind_ok (leaks _)).trans ?_
  refine (Script.bind_ok (hostCounters_ok after)).trans ?_
  rw [enlisted_scenarios]
  rfl

/-- On every host that guest code can bring about, if no destructor waits there and three more entries
have room, the audit passes all its checks, and the host is neither better nor worse off. -/
theorem healthy_run (settings : HostConfig) (requests : List Host.Request) (world : World)
    (reached : world.machine.host = (Chronicle.run settings requests).machine.host)
    (idle : world.machine.host.pending = [])
    (room : 3 ≤ min world.machine.host.table.capacity (2 ^ 31) - world.machine.host.live)
    (control : Control) (reaches : Reaches control 3) (config : AuditConfig)
    (small : config.payload.toUTF8.toList.length < Memory.sizeLimit) (imports : List ImportEntry) :
    ∃ report after,
      run control config imports world = .ok report after ∧
      report.mode = world.machine.host.config.mode ∧
      report.timing = world.machine.host.config.timing ∧
      report.iterations = max 1 config.iterations.toNat ∧
      report.checks = (checkNames imports).map ({ name := ·, passed := true, detail := none }) ∧
      (checkNames imports).Nodup ∧
      report.counters = after.machine.host.counters ∧
      Neutral world after report.iterations imports.length := by
  have fits : world.machine.host.Fits := reached ▸ Chronicle.fits_run settings requests
  have enough := (Host.hasRoom_iff world.machine.host 3 (Nat.succ_pos 2)).2 room
  obtain ⟨after, ran, neutral⟩ := run_ok reaches fits idle enough config small imports
  exact ⟨_, after, ran, rfl, rfl, rfl, rfl, nodup_checkNames imports, rfl, neutral⟩

/-- A host on which a guest has made a registration, borrowed a resource and dropped a handle that
names nothing. -/
def usedHost : Chronicle :=
  Chronicle.run { mode := .integer, maxHandles := 5, timing := .deferred }
    [ .register .integer { rep := .number 7, destructor := .note, typeName := "tool" },
      .lend .integer "clock",
      .drop (.integer 9) ]

theorem healthy_run_of_used :
    usedHost.machine.host.live = 2 ∧ usedHost.machine.host.faults.length = 1 ∧
      ∃ report after,
        run (Session.controlFor (fun _ => "") 7) { iterations := 2, payload := "hello" }
          [⟨"clock"⟩, ⟨"clock"⟩] { machine := usedHost.machine } = .ok report after ∧
        report.checks.length = 13 ∧ Neutral { machine := usedHost.machine } after 2 2 := by
  have reaches := (reaches_controlFor (fun _ => "") 7).less (Nat.le_add_left 3 5)
  obtain ⟨report, after, ran, -, -, iterations, checks, -, -, neutral⟩ :=
    healthy_run _ _ { machine := usedHost.machine } rfl rfl (by decide) _ reaches
      { iterations := 2, payload := "hello" } (by cbv) [⟨"clock"⟩, ⟨"clock"⟩]
  refine ⟨rfl, rfl, report, after, ran, ?_, ?_⟩
  · rw [checks]
    rfl
  · rw [iterations] at neutral
    exact neutral

end Custody.Audit
