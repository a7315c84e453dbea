import Custody.CommandLine
import Custody.Proofs.Audit.Crowding
import Custody.Proofs.Audit.Health

/-!
# How the audit ends

The audit of a fresh host ends in one of three ways, and the capacity of the host and the size of the
payload decide which. It reports, and then every check has passed and nothing is left. It ends with
the failed assertion of a guest, because one scenario needs room for three registrations and does not
expect to be refused; two registrations may be left then. Or it ends the program, because memory
cannot hold the payload.
-/

set_option autoImplicit false

namespace Custody.Audit

open Session (Control World)

variable {control : Control} {world after : World} {stop : Stop} {mode : Mode}

/-! ## Audits that stop -/

theorem run_stops {P : World → Prop} {config : AuditConfig} {imports : List ImportEntry}
    (stops : ∀ log, ∃ after,
      runAll 0 (scenarios control world.machine.host.config.mode config.payload.toUTF8.toList imports)
        [] (cleared world log) = .error stop after ∧ P after) :
    ∃ after, run control config imports world = .error stop after ∧ P after := by
  obtain ⟨log, discarded⟩ := discard_ok world.machine.host.faults world
  obtain ⟨after, stopped, holds⟩ := stops log
  obtain ⟨times, some⟩ : ∃ times, max 1 config.iterations.toNat = times + 1 :=
    ⟨max 1 config.iterations.toNat - 1, by omega⟩
  refine ⟨after, ?_, holds⟩
  unfold run
  refine (Session.Script.bind_ok (host_ok world)).trans ?_
  refine (Session.Script.bind_ok (takeFaults_ok world)).trans ?_
  refine (discarded _).trans ?_
  refine (Session.Script.bind_ok (liveHandles_ok _)).trans ?_
  refine (Session.Script.bind_ok (memoryCounters_ok _)).trans ?_
  refine Session.Script.bind_error ?_
  rw [some, repeated, Session.Script.bind_error stopped]

/-- The scenarios before the one that needs room for three come home, so that one decides. -/
theorem runAll_stops_at_nested {room : Nat} {payload : List UInt8} {P : World → Prop}
    (reaches : Reaches control 1) (small : payload.length < Memory.sizeLimit)
    (imports : List ImportEntry) (ready : Ready mode room world) (some : 1 ≤ room)
    (stops : ∀ middle, Ready mode room middle →
      middle.machine.host.table.capacity = world.machine.host.table.capacity →
      middle.machine.host.live = world.machine.host.live →
      ∃ after, Stops (nestedTeardown control mode) middle stop after ∧ P after) :
    ∃ after, runAll 0 (scenarios control mode payload imports) [] world = .error stop after ∧
      P after := by
  have first : PassAll mode room (firstScenarios control mode payload) _ :=
    (passAll_firstScenarios reaches small).more some
  obtain ⟨middle, ran, toMiddle⟩ := first 0 [] world ready
  obtain ⟨after, stopped, holds⟩ :=
    stops middle (ready.home toMiddle) toMiddle.capacity_eq toMiddle.live
  refine ⟨after, ?_, holds⟩
  rw [scenarios_eq]
  exact (runAll_append ran).trans (runAll_stops stopped _ _ _ _)

/-! ## The audit of a fresh host -/

theorem ready_start (config : HostConfig) {room : Nat} (enough : room ≤ config.maxHandles.toNat)
    (few : room ≤ 3) (log : List Session.Event) :
    Ready config.mode room (cleared (.start config) log) where
  mode_eq := rfl
  fits := (Host.fits_install config).operated (.of_eq rfl rfl)
  room := by
    refine ⟨?_, ?_⟩
    · change 0 + room ≤ config.maxHandles.toNat
      omega
    · change 0 + room ≤ 2 ^ 31
      omega
  idle := rfl
  clean := rfl

def controlOf (config : Config) : Control :=
  Session.controlFor (fun _ => "") (Session.Step.audit config.audit config.imports).registrations

theorem reaches_controlOf (config : Config) : Reaches (controlOf config) 3 := by
  refine (reaches_controlFor (fun _ => "") _).less ?_
  simp only [Session.Step.registrations, Session.auditRegistrations]
  omega

theorem audit_of_ok {config : Config} {report : Report}
    (ran : run (controlOf config) config.audit config.imports (.start config.host) =
      .ok report after) : Session.audit config = (.ok report, after) := by
  unfold controlOf at ran
  unfold Session.audit
  simp only [ran]

theorem audit_of_error {config : Config}
    (stopped : run (controlOf config) config.audit config.imports (.start config.host) =
      .error stop after) : Session.audit config = (.error stop, after) := by
  unfold controlOf at stopped
  unfold Session.audit
  simp only [stopped]

def payloadSize (config : Config) : Nat := config.audit.payload.toUTF8.toList.length

/-- How the audit of a configuration ends: with a result, and the world it leaves behind. -/
structure Ends (config : Config) (result : Except Stop Report) (after : World) : Prop where
  reports :
    payloadSize config < Memory.sizeLimit → 3 ≤ config.host.maxHandles.toNat →
      ∃ report, result = .ok report ∧ report.failures = [] ∧ after.machine.host.live = 0 ∧
        after.machine.host.pending = []
  panics :
    payloadSize config < Memory.sizeLimit → config.host.maxHandles.toNat < 3 →
      result = .error (.panic (refusal config.host.mode)) ∧
        after.machine.host.live = if config.host.maxHandles.toNat = 2 then 2 else 0
  aborts :
    Memory.sizeLimit ≤ payloadSize config →
      result = .error (Memory.outOfMemory { size := payloadSize config, align := 1 }) ∧
        after.machine.host.live = 0

theorem audit_reports (config : Config) (small : payloadSize config < Memory.sizeLimit)
    (enough : 3 ≤ config.host.maxHandles.toNat) :
    ∃ report after, Session.audit config = (.ok report, after) ∧ report.failures = [] ∧
      after.machine.host.live = 0 ∧ after.machine.host.pending = [] := by
  have ready := ready_start config.host enough (Nat.le_refl 3) []
  obtain ⟨after, ran, neutral⟩ := run_ok (reaches_controlOf config) (Host.fits_install config.host)
    rfl ⟨ready.room.capacity, ready.room.nameable⟩ config.audit small config.imports
  refine ⟨_, after, audit_of_ok ran, ?_, neutral.live, neutral.idle⟩
  simp [Report.failures, Check.fresh]

theorem audit_panics (config : Config) (small : payloadSize config < Memory.sizeLimit)
    (some : 1 ≤ config.host.maxHandles.toNat) (few : config.host.maxHandles.toNat < 3) :
    ∃ after, Session.audit config = (.error (.panic (refusal config.host.mode)), after) ∧
      after.machine.host.live = if config.host.maxHandles.toNat = 2 then 2 else 0 := by
  have one := (reaches_controlOf config).less (Nat.le_add_left 1 2)
  obtain ⟨after, stopped, live⟩ :
      ∃ after, run (controlOf config) config.audit config.imports (.start config.host) =
          .error (.panic (refusal config.host.mode)) after ∧
        after.machine.host.live = if config.host.maxHandles.toNat = 2 then 2 else 0 := by
    refine run_stops fun log => ?_
    by_cases double : config.host.maxHandles.toNat = 2
    · have ready := ready_start config.host (Nat.le_of_eq double.symm) (Nat.le_succ 2) log
      refine runAll_stops_at_nested one small config.imports ready (Nat.le_succ 1) ?_
      intro middle ready capacity live
      obtain ⟨after, stops, left⟩ := nestedTeardown_stops_at_parent ready
        (capacity.trans (double.trans (by rw [live]; rfl)))
      refine ⟨after, stops, left.trans ?_⟩
      rw [live, if_pos double]
      rfl
    · have ready := ready_start config.host some (Nat.le_add_left 1 2) log
      have single : config.host.maxHandles.toNat = 1 := by omega
      refine runAll_stops_at_nested one small config.imports ready (Nat.le_refl 1) ?_
      intro middle ready capacity live
      obtain ⟨after, stops, left⟩ := nestedTeardown_stops_at_second one ready
        (capacity.trans (single.trans (by rw [live]; rfl)))
      refine ⟨after, stops, ?_⟩
      rw [live] at left
      rw [if_neg double]
      exact Nat.le_zero.1 left
  exact ⟨after, audit_of_error stopped, live⟩

theorem audit_aborts (config : Config) (large : Memory.sizeLimit ≤ payloadSize config) :
    ∃ after, Session.audit config =
        (.error (Memory.outOfMemory { size := payloadSize config, align := 1 }), after) ∧
      after.machine.host.live = 0 := by
  obtain ⟨after, stopped, live⟩ : ∃ after,
      run (controlOf config) config.audit config.imports (.start config.host) =
          .error (Memory.outOfMemory { size := payloadSize config, align := 1 }) after ∧
        after.machine.host.live = 0 := by
    refine run_stops fun log => ⟨cleared (.start config.host) log, ?_, rfl⟩
    exact runAll_stops (bufferCopy_stops large _) _ _ _ _
  exact ⟨after, audit_of_error stopped, live⟩

theorem audit_ends (config : Config) (room : 1 ≤ config.host.maxHandles.toNat) :
    Ends config (Session.audit config).1 (Session.audit config).2 where
  reports small enough := by
    obtain ⟨report, after, audited, passed, live, idle⟩ := audit_reports config small enough
    rw [audited]
    exact ⟨report, rfl, passed, live, idle⟩
  panics small few := by
    obtain ⟨after, audited, live⟩ := audit_panics config small room few
    rw [audited]
    exact ⟨rfl, live⟩
  aborts large := by
    obtain ⟨after, audited, live⟩ := audit_aborts config large
    rw [audited]
    exact ⟨rfl, live⟩

/-! ## Configurations that are accepted -/

theorem room_of_validate {config : Config} (accepted : config.validate = .ok ()) :
    1 ≤ config.host.maxHandles.toNat := by
  have some : config.host.maxHandles ≠ 0 := by
    intro none
    rw [Config.validate, if_pos none] at accepted
    cases accepted
  exact Nat.pos_of_ne_zero fun none => some (UInt64.toNat_inj.1 none)

theorem validate_of_ofToml {text : String} {config : Config}
    (accepted : Config.ofToml text = .ok config) : config.validate = .ok () := by
  unfold Config.ofToml at accepted
  split at accepted
  · cases accepted
  · split at accepted
    · cases accepted
    · split at accepted
      · cases accepted
      · cases accepted
        assumption

theorem validate_of_load {files : Files} {path : String} {config : Config}
    (accepted : Config.load files path = .ok config) : config.validate = .ok () := by
  unfold Config.load at accepted
  split at accepted
  · cases accepted
  · split at accepted
    · cases accepted
    · exact validate_of_ofToml accepted

/-- The options that override the mode and the timing do not make a configuration unusable. -/
theorem validate_of_configOf {files : Files} {options : CommandLine.Options} {config : Config}
    (accepted : CommandLine.configOf files options = .ok config) : config.validate = .ok () := by
  cases named : options.config with
  | none =>
      simp only [CommandLine.configOf, named, bind, Except.bind, pure, Except.pure] at accepted
      cases accepted
      rfl
  | some path =>
      cases loaded : Config.load files path with
      | error error =>
          simp only [CommandLine.configOf, named, loaded, bind, Except.bind, throw,
            throwThe, MonadExceptOf.throw] at accepted
          cases accepted
      | ok base =>
          simp only [CommandLine.configOf, named, loaded, bind, Except.bind, pure,
            Except.pure] at accepted
          cases accepted
          have usable := validate_of_load loaded
          exact usable

/-! ## The exit code -/

def exitCode (config : Config) : UInt32 :=
  if Memory.sizeLimit ≤ payloadSize config then 134
  else if config.host.maxHandles.toNat < 3 then 101
  else 0

theorem code_of_ends {files : Files} {environment : Option String} {arguments : List String}
    {options : CommandLine.Options} {config : Config}
    (ends : Ends config (Session.audit config).1 (Session.audit config).2)
    (parsed : CommandLine.parse environment arguments = .ok (.audit options))
    (accepted : CommandLine.configOf files options = .ok config) :
    (CommandLine.run files environment arguments).code = exitCode config := by
  unfold CommandLine.run exitCode
  simp only [parsed, accepted]
  by_cases large : Memory.sizeLimit ≤ payloadSize config
  · simp only [(ends.aborts large).1, Memory.outOfMemory, CommandLine.Outcome.code, if_pos large]
  · have small := Nat.lt_of_not_le large
    rw [if_neg large]
    by_cases few : config.host.maxHandles.toNat < 3
    · simp only [(ends.panics small few).1, CommandLine.Outcome.code, if_pos few]
    · obtain ⟨report, reported, passed, -⟩ := ends.reports small (Nat.le_of_not_lt few)
      simp only [reported, passed, List.length_nil, if_true, CommandLine.Outcome.code, if_neg few]

/-! ## Every accepted configuration -/

/-- A host with room for three registrations audits itself to a report; one with less room does not,
whatever else is configured. -/
theorem audit_outcome (config : Config) (accepted : config.validate = .ok ()) :
    Ends config (Session.audit config).1 (Session.audit config).2 ∧
      ∀ files environment arguments options,
        CommandLine.parse environment arguments = .ok (.audit options) →
        CommandLine.configOf files options = .ok config →
        (CommandLine.run files environment arguments).code = exitCode config := by
  have ends := audit_ends config (room_of_validate accepted)
  exact ⟨ends, fun _ _ _ _ parsed chosen => code_of_ends ends parsed chosen⟩

/-- A text that gives a host room for two registrations. -/
def crampedText : String := "[host]\nmax_handles = 2\n[audit]\niterations = 1\n"

def cramped : Config := { host := { maxHandles := 2 }, audit := { iterations := 1 } }

def crampedFiles : Files := fun path =>
  if path = "cramped.toml" then .ok crampedText.toUTF8.toList else .error .notFound

theorem cramped_small : payloadSize cramped < Memory.sizeLimit := by
  cbv

theorem cramped_accepted : Config.ofToml crampedText = .ok cramped := by
  cbv

theorem cramped_chosen :
    CommandLine.configOf crampedFiles { config := some "cramped.toml" } = .ok cramped := by
  cbv

theorem cramped_parsed :
    CommandLine.parse (some "cramped.toml") [] =
      .ok (.audit { config := some "cramped.toml" }) := by
  cbv

theorem audit_outcome_of_cramped :
    (Session.audit cramped).1 = .error (.panic (refusal .integer)) ∧
      (Session.audit cramped).2.machine.host.live = 2 ∧
      (CommandLine.run crampedFiles (some "cramped.toml") []).code = 101 := by
  obtain ⟨ends, coded⟩ := audit_outcome cramped (validate_of_configOf cramped_chosen)
  obtain ⟨panicked, left⟩ := ends.panics cramped_small (by decide)
  refine ⟨panicked, left, (coded _ _ _ _ cramped_parsed cramped_chosen).trans ?_⟩
  rw [exitCode, if_neg (Nat.not_le_of_lt cramped_small)]
  rfl

/-- Not every text that is accepted leads to a report. -/
theorem not_always_reports :
    ¬∀ text config, Config.ofToml text = .ok config →
      ∃ report after, Session.audit config = (.ok report, after) := by
  intro reports
  obtain ⟨report, after, audited⟩ := reports crampedText cramped cramped_accepted
  obtain ⟨left, panicked, -⟩ := audit_panics cramped cramped_small (by decide) (by decide)
  rw [panicked] at audited
  cases audited

end Custody.Audit
