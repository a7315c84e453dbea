import Custody.Proofs.Audit.Health
import Custody.Proofs.Host.Accounting
import Custody.Proofs.Teardown.Agreement

/-!
# What an audit makes of the time before it

An audit forgets the faults that were recorded before it, and at its end it compares the live handles
with those that it counted at its start. When it counts them, destructors may still wait. The first
scenario of registered objects runs them, and from there the audit goes on as on a host where nothing
waits. But what the objects of those destructors owned has gone down as well, and the last check misses
it. So the verdict depends on what was queued before, and on nothing else.
-/

set_option autoImplicit false

namespace Custody.Audit

open Host (Chronicle)
open Session (Conduct Control Excursion Planted Progress Script Tree Waits World)

variable {α β : Type} {control : Control} {world middle after : World} {mode : Mode}
  {payload : List UInt8} {detail : String}

/-! ## Scenarios that break off -/

def Throws (scenario : Scenario α) (world : World) (detail : String) (after : World) : Prop :=
  scenario.run world = .ok (.error detail) after

theorem throws_ensure {condition : Bool} (fails : condition = false) (detail : String)
    (world : World) : Throws (ensure condition detail) world detail world := by
  rw [ensure, fails]
  rfl

theorem Throws.bind {scenario : Scenario α} {next : α → Scenario β}
    (throws : Throws scenario world detail after) : Throws (scenario >>= next) world detail after :=
  (Script.bind_ok throws).trans rfl

theorem Runs.bind_run {scenario : Scenario α} {next : α → Scenario β} {value : α}
    (run : Runs scenario world value middle) :
    (scenario >>= next).run world = (next value).run middle :=
  Script.bind_ok run

theorem Throws.tried {scenario : Scenario Unit} (throws : Throws scenario world detail after)
    (clean : after.machine.host.faults = []) (name : String) (iteration : Nat)
    (checks : List Check) :
    tried name iteration scenario checks world =
      .ok (record name iteration (.error detail) checks)
        { after with log := .notice (.failed name iteration detail) :: after.log } := by
  have taken : takeFaults after = .ok [] after := by
    rw [takeFaults_ok, clean, World.forgiven_of_clean clean]
  unfold Audit.tried
  rw [Script.bind_ok throws, Script.bind_ok taken]
  rfl

theorem record_new {name : String} {listed : List String} (new : name ∉ listed) (iteration : Nat)
    (result : Result) :
    record name iteration result (listed.map Check.fresh) =
      listed.map Check.fresh ++ [(Check.fresh name).add iteration result] := by
  induction listed with
  | nil => rfl
  | cons first rest ih =>
      rw [List.mem_cons, not_or] at new
      obtain ⟨apart, new⟩ := new
      have other : (Check.fresh first).name ≠ name := Ne.symm apart
      rw [List.map_cons, record, if_neg other, ih new, List.cons_append]

/-! ## The last check -/

/-- The last check of an audit before which destructors waited whose objects owned so many
registrations. -/
def leaksCheck (iterations owned : Nat) : Check :=
  if owned = 0 then .fresh "host.no_leaks"
  else (Check.fresh "host.no_leaks").add iterations (.error "0 handles left in the table")

/-- The checks of such an audit. -/
def verdict (imports : List ImportEntry) (iterations owned : Nat) : List Check :=
  (scenarioNames imports).map Check.fresh ++ [leaksCheck iterations owned]

theorem verdict_eq_iff (imports : List ImportEntry) (iterations owned other : Nat) :
    verdict imports iterations owned = verdict imports iterations other ↔
      (owned = 0 ↔ other = 0) := by
  unfold verdict leaksCheck
  rw [List.append_cancel_left_eq]
  by_cases none : owned = 0 <;> by_cases none' : other = 0 <;>
    simp [none, none', Check.fresh, Check.add]

theorem take_verdict (imports : List ImportEntry) (iterations owned : Nat) :
    (verdict imports iterations owned).take (scenarioNames imports).length =
      (scenarioNames imports).map Check.fresh := by
  unfold verdict
  exact List.take_left' (List.length_map _)

theorem noLeaks_throws {liveAtStart : Nat} (fewer : after.machine.host.live < liveAtStart)
    (counters : Memory.Counters) :
    Throws (noLeaks liveAtStart counters) after "0 handles left in the table" after := by
  have text : toString (after.machine.host.live - liveAtStart) ++ " handles left in the table" =
      "0 handles left in the table" := by
    rw [Nat.sub_eq_zero_of_le (Nat.le_of_lt fewer)]
    rfl
  unfold noLeaks
  refine (runs_lift (liveHandles_ok after)).bind_run.trans ?_
  rw [text]
  exact (throws_ensure (by simpa using Nat.ne_of_lt fewer) _ after).bind

theorem tried_noLeaks {owned : Nat} (imports : List ImportEntry) (iterations : Nat)
    (live : world.machine.host.live = after.machine.host.live + owned)
    (idle : after.machine.host.pending = []) (clean : after.machine.host.faults = [])
    (restored : world.workspace.memory.Restored after.workspace.memory) :
    ∃ log,
      tried "host.no_leaks" iterations
        (noLeaks world.machine.host.live world.workspace.memory.counters)
        ((scenarioNames imports).map Check.fresh) after =
      .ok (verdict imports iterations owned) { after with log } := by
  unfold verdict leaksCheck
  by_cases none : owned = 0
  · have same : after.machine.host.live = world.machine.host.live := by omega
    refine ⟨after.log, ?_⟩
    rw [if_pos none, (noLeaks_runs same idle restored).tried clean,
      record_new (leaks_notMem_scenarioNames imports)]
    rfl
  · have fewer : after.machine.host.live < world.machine.host.live := by omega
    let notice := Session.Notice.failed "host.no_leaks" iterations "0 handles left in the table"
    refine ⟨.notice notice :: after.log, ?_⟩
    rw [if_neg none, (noLeaks_throws fewer _).tried clean,
      record_new (leaks_notMem_scenarioNames imports)]

/-! ## The first flush -/

/-- The destructors that waited have run, and so many registrations of their objects went down with
them. Nothing else has changed on the host but what it counts. -/
structure Drained (before after : World) (owned : Nat) : Prop where
  fits : before.machine.host.Fits → after.machine.host.Fits
  config_eq : after.machine.host.config = before.machine.host.config
  capacity_eq : after.machine.host.table.capacity = before.machine.host.table.capacity
  live : before.machine.host.live = after.machine.host.live + owned
  idle : after.machine.host.pending = []
  faults_eq : after.machine.host.faults = before.machine.host.faults
  memory : before.workspace.memory.Restored after.workspace.memory

theorem Drained.between {start last : World} {owned : Nat} {tally tally' : Host.Counters}
    (before : Excursion start world [] [] tally) (drained : Drained world after owned)
    (behind : Excursion after last [] [] tally') : Drained start last owned where
  fits fits := behind.fits (drained.fits (before.fits fits))
  config_eq := behind.config_eq.trans (drained.config_eq.trans before.config_eq)
  capacity_eq := behind.capacity_eq.trans (drained.capacity_eq.trans before.capacity_eq)
  live := by
    have departed := before.live
    have returned := behind.live
    have fewer := drained.live
    simp only [List.length_nil] at departed returned
    omega
  idle := behind.pending_eq.trans drained.idle
  faults_eq := behind.faults_eq.trans (drained.faults_eq.trans before.faults_eq)
  memory := before.memory.trans (drained.memory.trans behind.memory)

theorem Drained.ready {room owned : Nat} (drained : Drained world after owned)
    (own : mode = world.machine.host.config.mode) (fits : world.machine.host.Fits)
    (enough : world.machine.host.HasRoom room) (clean : world.machine.host.faults = []) :
    Ready mode room after where
  mode_eq := own.trans (congrArg _ drained.config_eq.symm)
  fits := drained.fits fits
  room := by
    have live := drained.live
    have capacity := enough.capacity
    have nameable := enough.nameable
    constructor
    · rw [drained.capacity_eq]
      omega
    · omega
  idle := drained.idle
  clean := drained.faults_eq.trans clean

/-- The scenario begins with a flush, and goes on as from the world behind the flush. -/
theorem registration_resumes {count : Nat} (flushed : Session.flush control world = .ok count after)
    (idle : after.machine.host.pending = []) :
    (registration control mode).run world = (registration control mode).run after := by
  have again := Session.flush_idle control idle
  unfold registration
  rw [(runs_lift flushed).bind_run, (runs_lift again).bind_run]

theorem runAll_resumes {name : String} {scenario : Scenario Unit}
    (same : scenario.run world = scenario.run after) (iteration : Nat)
    (rest : List (String × Scenario Unit)) (checks : List Check) :
    runAll iteration ((name, scenario) :: rest) checks world =
      runAll iteration ((name, scenario) :: rest) checks after := by
  have tried : tried name iteration scenario checks world =
      tried name iteration scenario checks after := by
    unfold Audit.tried
    simp only [bind, EStateM.bind, same]
  simp only [runAll, bind, EStateM.bind, tried]

/-! ## Iterations -/

def hostScenarios (control : Control) (mode : Mode) (imports : List ImportEntry) :
    List (String × Scenario Unit) :=
  objectScenarios control mode ++
    ("export.nested_teardown", nestedTeardown control mode) ::
      (imports.flatMap (importScenarios mode) ++
        [("import.assign_over_live", assignOverLive mode)])

theorem scenarios_eq_memory_append (control : Control) (mode : Mode) (payload : List UInt8)
    (imports : List ImportEntry) :
    scenarios control mode payload imports =
      memoryScenarios payload ++ hostScenarios control mode imports := rfl

theorem passAll_hostScenarios (reaches : Reaches control 3) (imports : List ImportEntry) :
    ∃ tally, PassAll mode 3 (hostScenarios control mode imports) tally := by
  have objects : PassAll mode 3 (objectScenarios control mode) _ :=
    (passAll_objectScenarios (reaches.less (Nat.le_add_left 1 2))).more (Nat.le_add_left 1 2)
  have imported := (passAll_imports mode imports).more (Nat.le_add_left 1 2)
  have last : PassAll mode 3 [("import.assign_over_live", assignOverLive mode)] (lending 2) :=
    .cons (assignOverLive_passes.more (Nat.le_succ 2)) passAll_nil
  have nested : Passes mode 3 (nestedTeardown control mode) _ := nestedTeardown_passes reaches
  exact ⟨_, objects.append (.cons nested (imported.append last))⟩

/-- A world from which a flush runs what waits, also after an excursion. -/
def Drains (control : Control) (world : World) (owned : Nat) : Prop :=
  ∀ middle, Excursion world middle [] [] {} →
    ∃ count after, Session.flush control middle = .ok count after ∧ Drained middle after owned

theorem runAll_drained {owned : Nat} (reaches : Reaches control 3)
    (own : mode = world.machine.host.config.mode) (fits : world.machine.host.Fits)
    (enough : world.machine.host.HasRoom 3) (clean : world.machine.host.faults = [])
    (drains : Drains control world owned) (small : payload.length < Memory.sizeLimit)
    (imports : List ImportEntry) :
    ∃ after,
      runAll 0 (scenarios control mode payload imports) [] world =
        .ok ((scenarioNames imports).map Check.fresh) after ∧
      Drained world after owned ∧ Ready mode 3 after := by
  obtain ⟨middle, ran, toMiddle⟩ :=
    runAll_steady (steady_of_mem_memoryScenarios small) clean 0 []
  obtain ⟨count, drainedWorld, flushed, drained⟩ := drains middle toMiddle
  have ready : Ready mode 3 drainedWorld :=
    drained.ready ((toMiddle.mode_eq_iff mode).2 own) (toMiddle.fits fits)
      (toMiddle.hasRoom (by simpa using enough)) (toMiddle.faults_eq.trans clean)
  obtain ⟨tally, all⟩ : ∃ tally, PassAll mode 3 (hostScenarios control mode imports) tally :=
    passAll_hostScenarios reaches imports
  obtain ⟨after, ranOn, home⟩ := all 0 _ drainedWorld ready
  refine ⟨after, ?_, ?_, ready.home home⟩
  · rw [scenarios_eq_memory_append, ← foldl_scenarios control mode payload,
      scenarios_eq_memory_append, List.map_append, List.foldl_append]
    refine (runAll_append ran).trans (Eq.trans ?_ ranOn)
    exact runAll_resumes (registration_resumes flushed drained.idle) 0 _ _
  · exact .between toMiddle drained home

theorem repeated_drained {owned : Nat} (reaches : Reaches control 3)
    (own : mode = world.machine.host.config.mode) (fits : world.machine.host.Fits)
    (enough : world.machine.host.HasRoom 3) (clean : world.machine.host.faults = [])
    (drains : Drains control world owned) (small : payload.length < Memory.sizeLimit)
    (imports : List ImportEntry) {times : Nat} (some : 0 < times) :
    ∃ after,
      repeated (scenarios control mode payload imports) times 0 [] world =
        .ok ((scenarioNames imports).map Check.fresh) after ∧
      Drained world after owned ∧ after.machine.host.faults = [] := by
  obtain ⟨times, rfl⟩ := Nat.exists_eq_add_one_of_ne_zero (Nat.ne_of_gt some)
  obtain ⟨middle, ran, drained, ready⟩ :=
    runAll_drained reaches own fits enough clean drains small imports
  have all : PassAll mode 3 (scenarios control mode payload imports) _ :=
    passAll_scenarios reaches small imports
  have known : (scenarios control mode payload imports).map Prod.fst ⊆ scenarioNames imports := by
    rw [← foldl_scenarios control mode payload]
    exact subset_foldl_enlist _ _
  obtain ⟨after, ranOn, home⟩ := repeated_again all known times 1 middle ready
  exact ⟨after, (Script.bind_ok ran).trans ranOn, .between (.refl world) drained home,
    home.faults_eq.trans ready.clean⟩

/-! ## The audit -/

/-- The audit reports from every world in which a flush runs what waits. What it says about that is in
its last check. -/
theorem run_drained {owned : Nat} (reaches : Reaches control 3) (fits : world.machine.host.Fits)
    (enough : world.machine.host.HasRoom 3)
    (drains : ∀ log, Drains control (cleared world log) owned) (config : AuditConfig)
    (small : config.payload.toUTF8.toList.length < Memory.sizeLimit) (imports : List ImportEntry) :
    ∃ report after,
      run control config imports world = .ok report after ∧
      report.checks = verdict imports (max 1 config.iterations.toNat) owned := by
  obtain ⟨log, discarded⟩ := discard_ok world.machine.host.faults world
  have fits : (cleared world log).machine.host.Fits := fits.operated (.of_eq rfl rfl)
  have enough : (cleared world log).machine.host.HasRoom 3 := ⟨enough.capacity, enough.nameable⟩
  have some : 0 < max 1 config.iterations.toNat :=
    Nat.lt_of_lt_of_le Nat.zero_lt_one (Nat.le_max_left 1 _)
  obtain ⟨after, ran, drained, clean⟩ :=
    repeated_drained reaches rfl fits enough rfl (drains log) small imports some
  obtain ⟨ending, leaks⟩ := tried_noLeaks imports (max 1 config.iterations.toNat) drained.live
    drained.idle clean drained.memory
  let report : Report :=
    { mode := world.machine.host.config.mode
      timing := world.machine.host.config.timing
      iterations := max 1 config.iterations.toNat
      checks := verdict imports (max 1 config.iterations.toNat) owned
      counters := after.machine.host.counters }
  refine ⟨report, { after with log := ending }, ?_, rfl⟩
  unfold run
  refine (Script.bind_ok (host_ok world)).trans ?_
  refine (Script.bind_ok (takeFaults_ok world)).trans ?_
  refine (discarded _).trans ?_
  refine (Script.bind_ok (liveHandles_ok _)).trans ?_
  refine (Script.bind_ok (memoryCounters_ok _)).trans ?_
  refine (Script.bind_ok ran).trans ?_
  refine (Script.bind_ok (Session.flush_idle control drained.idle)).trans ?_
  refine (Script.bind_ok leaks).trans ?_
  exact (Script.bind_ok (hostCounters_ok _)).trans rfl

/-! ## Worlds that an audit can start from -/

/-- The host is one that guest code can bring about, with room for three more entries. Its live
entries and the faults on its record may be any. What waits there are destructors of objects that own
nothing but further registrations. -/
structure Auditable (world : World) (forest : List Tree) : Prop where
  reached : ∃ settings requests, world.machine.host = (Chronicle.run settings requests).machine.host
  room : 3 ≤ min world.machine.host.table.capacity (2 ^ 31) - world.machine.host.live
  waiting : List.Forall₂ (Waits world) world.machine.host.pending forest
  below : Planted world (forest.flatMap Tree.children)
  nodup : ((Tree.preorder forest).map Session.Member.id).Nodup

variable {forest : List Tree}

theorem Auditable.fits (auditable : Auditable world forest) : world.machine.host.Fits := by
  obtain ⟨settings, requests, reached⟩ := auditable.reached
  exact reached ▸ Chronicle.fits_run settings requests

theorem Auditable.deferred (auditable : Auditable world forest)
    (some : world.machine.host.pending ≠ []) : world.machine.host.config.timing = .deferred := by
  obtain ⟨settings, requests, reached⟩ := auditable.reached
  have settled := (Chronicle.run_balances settings requests).2.2.2.2.2.2.1
  rw [reached] at some ⊢
  rw [(Chronicle.consistent_run settings requests).config_eq]
  cases timing : settings.timing with
  | immediate => exact absurd (settled timing) some
  | deferred => rfl

theorem planted_carried {log : List Session.Event} {tally : Host.Counters}
    (planted : Planted world forest) (excursion : Excursion (cleared world log) after [] [] tally) :
    Planted after forest := by
  refine ⟨fun tree member => ?_, planted.nodup⟩
  obtain ⟨⟨object, describes, present⟩, slot, typeName, names⟩ := planted.rooted tree member
  exact ⟨⟨object, describes, excursion.present present⟩, slot, typeName,
    excursion.names (names.of_eq rfl rfl)⟩

theorem waits_carried {log : List Session.Event} {tally : Host.Counters}
    {call : Host.DestructorCall} {tree : Tree} (waits : Waits world call tree)
    (excursion : Excursion (cleared world log) after [] [] tally) : Waits after call tree := by
  obtain ⟨r, describes, present⟩ := waits.present
  exact ⟨waits.call_eq, r, describes, excursion.present present⟩

theorem drained_of_progress {released : List Session.Member} {reclaimed : List Session.Member}
    {returned : Nat} (progress : Progress world after released reclaimed returned)
    (below : released.Perm (Tree.preorder (forest.flatMap Tree.children)))
    (idle : after.machine.host.pending = []) :
    Drained world after (Tree.size (forest.flatMap Tree.children)) where
  fits := progress.fits
  config_eq := progress.config_eq
  capacity_eq := progress.capacity_eq
  live := by rw [progress.live, below.length_eq, Tree.length_preorder]
  idle := idle
  faults_eq := progress.faults_eq
  memory := by
    obtain ⟨_, _, _, rfl⟩ := progress.frame
    exact .refl _

theorem Auditable.drains (auditable : Auditable world forest)
    (reaches : Reaches control (Tree.size forest + 3)) (log : List Session.Event) :
    Drains control (cleared world log) (Tree.size (forest.flatMap Tree.children)) := by
  intro middle excursion
  by_cases none : world.machine.host.pending = []
  · have waiting := auditable.waiting
    rw [none] at waiting
    cases waiting
    have idle : middle.machine.host.pending = [] := excursion.pending_eq.trans none
    exact ⟨0, middle, Session.flush_idle control idle,
      drained_of_progress (.refl middle) (.refl _) idle⟩
  · obtain ⟨nodeType, flushBound, nesting, rfl, long, deep⟩ := reaches
    obtain ⟨depth, rfl⟩ : ∃ depth, nesting = depth + 1 := ⟨nesting - 1, by omega⟩
    have timing : middle.machine.host.config.timing = .deferred := by
      rw [excursion.config_eq]
      exact auditable.deferred none
    have fits : middle.machine.host.Fits :=
      excursion.fits (auditable.fits.operated (.of_eq rfl rfl))
    have waiting : List.Forall₂ (Waits middle) middle.machine.host.pending forest := by
      rw [excursion.pending_eq]
      exact auditable.waiting.imp fun _ _ waits => waits_carried waits excursion
    obtain ⟨after, released, flushed, progress, below, idle, -⟩ :=
      Session.flush_ok nodeType depth timing fits.compact.sound waiting
        (planted_carried auditable.below excursion) auditable.nodup
        (Nat.le_of_add_right_le long)
    exact ⟨_, after, flushed, drained_of_progress progress below idle⟩

/-- The audit reports on every such world, and all its checks pass but the last one. -/
theorem Auditable.audited (auditable : Auditable world forest)
    (reaches : Reaches control (Tree.size forest + 3)) (config : AuditConfig)
    (small : config.payload.toUTF8.toList.length < Memory.sizeLimit) (imports : List ImportEntry) :
    ∃ report after,
      run control config imports world = .ok report after ∧
      report.checks = verdict imports (max 1 config.iterations.toNat)
        (Tree.size (forest.flatMap Tree.children)) :=
  run_drained (reaches.less (Nat.le_add_left 3 _)) auditable.fits
    ((Host.hasRoom_iff world.machine.host 3 (Nat.succ_pos 2)).2 auditable.room)
    (auditable.drains reaches) config small imports

/-- Two audits agree about all checks but the last, whatever went on before them. They agree about the
last one if both or neither found destructors waiting whose objects own further registrations. -/
theorem Auditable.checks_eq_iff {left right : World} {leftForest rightForest : List Tree}
    (auditableLeft : Auditable left leftForest) (auditableRight : Auditable right rightForest)
    (control : Control)
    (reaches : Reaches control (max (Tree.size leftForest) (Tree.size rightForest) + 3))
    (config : AuditConfig) (small : config.payload.toUTF8.toList.length < Memory.sizeLimit)
    (imports : List ImportEntry) :
    ∃ report after report' after',
      run control config imports left = .ok report after ∧
      run control config imports right = .ok report' after' ∧
      report.checks.take (scenarioNames imports).length =
        (scenarioNames imports).map Check.fresh ∧
      report'.checks.take (scenarioNames imports).length =
        (scenarioNames imports).map Check.fresh ∧
      (report.checks = report'.checks ↔
        (leftForest.flatMap Tree.children = [] ↔ rightForest.flatMap Tree.children = [])) := by
  have reachesLeft := reaches.less (Nat.add_le_add_right (Nat.le_max_left _ _) 3)
  have reachesRight := reaches.less (Nat.add_le_add_right (Nat.le_max_right _ _) 3)
  obtain ⟨report, after, ran, checks⟩ := auditableLeft.audited reachesLeft config small imports
  obtain ⟨report', after', ran', checks'⟩ :=
    auditableRight.audited reachesRight config small imports
  refine ⟨report, after, report', after', ran, ran', ?_, ?_, ?_⟩
  · rw [checks, take_verdict]
  · rw [checks', take_verdict]
  · rw [checks, checks', verdict_eq_iff, Tree.size_eq_zero_iff, Tree.size_eq_zero_iff]

/-- A guest that has dropped an object with another one in it, on a host that lets destructors wait. -/
def burdened : Conduct :=
  (((Conduct.start { mode := .integer, timing := .deferred }).perform
    (.create "Box" "box" .integer (.probe []))).perform
    (.create "Box" "box" .integer (.probe [{ id := 0, mode := .integer }]))).perform
    (.dropOwner { id := 1, mode := .integer })

def burdenedTree : Tree :=
  .branch { id := 1, handle := .integer 1, label := none }
    [.branch { id := 0, handle := .integer 0, label := none } []]

theorem reachable_burdened : burdened.Reachable { mode := .integer, timing := .deferred } := by
  refine .step (.step (.step .start ?_) ?_) ?_
  · exact And.intro nofun rfl
  · exact And.intro nofun rfl
  · exact And.intro nofun List.mem_cons_self

theorem auditable_burdened : Auditable burdened.world [burdenedTree] where
  reached :=
    ⟨{ mode := .integer, timing := .deferred },
      [ .register .integer (Session.reclaiming "box" 0),
        .register .integer (Session.reclaiming "box" 1), .drop (.integer 1), .settle ], rfl⟩
  room := by decide
  waiting := by
    refine .cons ⟨⟨"box", rfl⟩, ?_⟩ .nil
    exact ⟨{ handle := .invalid .integer, object := .probe [{ id := 0, mode := .integer }] },
      ⟨rfl, rfl⟩, rfl⟩
  below := by
    refine reachable_burdened.planted (fun tree member => ?_) (by decide)
    simp only [burdenedTree, List.flatMap_cons, List.flatMap_nil, List.append_nil, Tree.children,
      Tree.within, Tree.downward, List.mem_cons, List.not_mem_nil, or_false] at member
    subst member
    exact ⟨rfl, .probe [], ⟨rfl, rfl⟩, rfl⟩
  nodup := by decide

theorem auditable_start (settings : HostConfig) (room : 3 ≤ min settings.maxHandles.toNat (2 ^ 31)) :
    Auditable (.start settings) [] where
  reached := ⟨settings, [], rfl⟩
  room := room
  waiting := .nil
  below := ⟨nofun, List.nodup_nil⟩
  nodup := List.nodup_nil

/-- The audits of this guest's host and of one that has just been installed disagree. -/
theorem burdened_disagrees :
    ∃ report after report' after',
      run (Session.controlFor (fun _ => "") 4) {} [⟨"clock"⟩] burdened.world = .ok report after ∧
      run (Session.controlFor (fun _ => "") 4) {} [⟨"clock"⟩] (.start { timing := .deferred }) =
        .ok report' after' ∧
      report.checks ≠ report'.checks := by
  have reaches := reaches_controlFor (fun _ => "") 4
  obtain ⟨report, after, report', after', ran, ran', -, -, agree⟩ :=
    auditable_burdened.checks_eq_iff (auditable_start { timing := .deferred } (by decide)) _
      (reaches.less (by decide)) {} (by cbv) [⟨"clock"⟩]
  refine ⟨report, after, report', after', ran, ran', fun same => ?_⟩
  have empty := (agree.1 same).2 rfl
  cases empty

/-- So the verdict is not independent of what a disciplined guest did before, also on hosts of the same
mode and timing that have room, and however far destructors may be nested. -/
theorem not_always_independent :
    ¬∀ (settings settings' : HostConfig) (left right : Conduct),
        left.Reachable settings → right.Reachable settings' →
        left.entering = none → right.entering = none →
        left.world.machine.active = [] → right.world.machine.active = [] →
        settings.mode = settings'.mode → settings.timing = settings'.timing →
        3 ≤ min settings.maxHandles.toNat (2 ^ 31) - left.host.live →
        3 ≤ min settings'.maxHandles.toNat (2 ^ 31) - right.host.live →
        ∀ (config : AuditConfig), config.payload.toUTF8.toList.length < Memory.sizeLimit →
        ∀ (imports : List ImportEntry),
          ∃ bound, ∀ (control : Control), Reaches control bound →
            ∃ report after report' after',
              run control config imports left.world = .ok report after ∧
              run control config imports right.world = .ok report' after' ∧
              report.checks = report'.checks := by
  intro always
  obtain ⟨bound, agree⟩ :=
    always _ _ burdened (.start { timing := .deferred }) reachable_burdened .start rfl rfl rfl rfl
      rfl rfl (by decide) (by decide) {} (by cbv) []
  -- far enough for both audits, and for the bound that is said to do
  have reaches := reaches_controlFor (fun _ => "") (bound + 4)
  have enough : 5 ≤ bound + 5 := Nat.le_add_left 5 bound
  obtain ⟨report, after, report', after', ran, ran', same⟩ :=
    agree _ (reaches.less (Nat.le_add_right bound 5))
  obtain ⟨other, _, ranLeft, checks⟩ :=
    auditable_burdened.audited (reaches.less enough) {} (by cbv) []
  obtain ⟨other', _, ranRight, checks'⟩ :=
    (auditable_start { timing := .deferred } (by decide)).audited
      (reaches.less (Nat.le_trans (by decide) enough)) {} (by cbv) []
  rw [ran] at ranLeft
  rw [show (Conduct.start { timing := .deferred }).world = .start _ from rfl, ranRight] at ran'
  cases ranLeft
  cases ran'
  rw [checks, checks', verdict_eq_iff] at same
  exact absurd (same.2 rfl) (by decide)

end Custody.Audit
