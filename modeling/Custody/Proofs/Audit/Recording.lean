import Custody.Proofs.Audit.Checks
import Custody.Proofs.Audit.Runs

/-!
# What a recorder makes of results

A recorder takes one result after the other, each under a name and from some iteration. What it has to
say under a name is decided by the first result of that name that was bad: the check failed with the
detail of that one, and it passed if there is none. Each record keeps this, whatever names come in
between, so it holds of every sequence of records. The scenarios of an audit go through the recorder as
well, each with the faults that it left behind.
-/

set_option autoImplicit false

namespace Custody.Audit

open Session (Event Script World)

/-! ## Results under names -/

/-- A result as it is given to the recorder. -/
structure Trial where
  name : String
  iteration : Nat
  result : Result

namespace Trial

def failure? (trial : Trial) : Option (Nat × String) :=
  match trial.result with
  | .ok () => none
  | .error detail => some (trial.iteration, detail)

def warning? (trial : Trial) : Option Event :=
  match trial.result with
  | .ok () => none
  | .error detail => some (.notice (.failed trial.name trial.iteration detail))

/-- Notes a trial that failed, and adds the result to its check. -/
def write (trial : Trial) (checks : List Check) : Script (List Check) := do
  match trial.result with
  | .ok () => pure ()
  | .error detail => Script.note (.failed trial.name trial.iteration detail)
  return record trial.name trial.iteration trial.result checks

theorem failure?_eq_none_iff (trial : Trial) : trial.failure? = none ↔ trial.result = .ok () := by
  unfold failure?
  split <;> simp [*]

theorem failure?_eq_some_iff (trial : Trial) (iteration : Nat) (detail : String) :
    trial.failure? = some (iteration, detail) ↔
      trial.iteration = iteration ∧ trial.result = .error detail := by
  unfold failure?
  split <;> simp [*]

theorem write_ok (trial : Trial) (checks : List Check) (world : World) :
    trial.write checks world =
      .ok (record trial.name trial.iteration trial.result checks)
        { world with log := trial.warning?.toList ++ world.log } := by
  obtain ⟨name, iteration, result⟩ := trial
  cases result <;> rfl

end Trial

def addTrials (checks : List Check) (trials : List Trial) : List Check :=
  trials.foldl (fun checks trial => record trial.name trial.iteration trial.result checks) checks

def recordAll (trials : List Trial) (checks : List Check) : Script (List Check) :=
  trials.foldlM (fun checks trial => trial.write checks) checks

/-- A scenario goes through the recorder with the faults that it left behind. -/
theorem tried_eq_write (name : String) (iteration : Nat) (scenario : Scenario Unit)
    (checks : List Check) :
    tried name iteration scenario checks =
      (do
        let result ← scenario.run
        let faults ← takeFaults
        Trial.write ⟨name, iteration, judged result faults⟩ checks) := rfl

/-! ## What there is to say under a name -/

def firstFailure? (trials : List Trial) (name : String) : Option (Nat × String) :=
  trials.findSome? fun trial => if trial.name = name then trial.failure? else none

def failureText (failure : Nat × String) : String :=
  "iteration " ++ toString failure.1 ++ ": " ++ failure.2

/-- The check that trials amount to under a name. -/
def verdictOn (trials : List Trial) (name : String) : Check where
  name := name
  passed := (firstFailure? trials name).isNone
  detail := (firstFailure? trials name).map failureText

theorem firstFailure?_eq_none_iff (trials : List Trial) (name : String) :
    firstFailure? trials name = none ↔
      ∀ trial ∈ trials, trial.name = name → trial.result = .ok () := by
  simp only [firstFailure?, List.findSome?_eq_none_iff, ite_eq_right_iff,
    Trial.failure?_eq_none_iff]

theorem firstFailure?_eq_some {trials : List Trial} {name : String} {failure : Nat × String}
    (first : firstFailure? trials name = some failure) :
    ∃ earlier trial later,
      trials = earlier ++ trial :: later ∧ trial.name = name ∧
      trial.iteration = failure.1 ∧ trial.result = .error failure.2 ∧
      ∀ other ∈ earlier, other.name = name → other.result = .ok () := by
  obtain ⟨earlier, trial, later, rfl, found, before⟩ := List.findSome?_eq_some_iff.1 first
  obtain ⟨same, failed⟩ := Option.ite_none_right_eq_some.1 found
  obtain ⟨iteration, result⟩ := (Trial.failure?_eq_some_iff trial _ _).1 failed
  refine ⟨earlier, trial, later, rfl, same, iteration, result, ?_⟩
  exact (firstFailure?_eq_none_iff earlier name).1 (List.findSome?_eq_none_iff.2 before)

theorem verdictOn_of_new {trials : List Trial} {name : String}
    (new : name ∉ trials.map (·.name)) : verdictOn trials name = .fresh name := by
  have none : firstFailure? trials name = none := by
    rw [firstFailure?_eq_none_iff]
    intro trial member same
    exact absurd (List.mem_map.2 ⟨trial, member, same⟩) new
  simp [verdictOn, none, Check.fresh]

theorem verdictOn_append_of_ne (trials : List Trial) {trial : Trial} {name : String}
    (apart : trial.name ≠ name) : verdictOn (trials ++ [trial]) name = verdictOn trials name := by
  have same : firstFailure? (trials ++ [trial]) name = firstFailure? trials name := by
    simp [firstFailure?, List.findSome?_append, apart]
  simp only [verdictOn, same]

theorem verdictOn_append_self (trials : List Trial) (trial : Trial) :
    verdictOn (trials ++ [trial]) trial.name =
      (verdictOn trials trial.name).add trial.iteration trial.result := by
  have last : firstFailure? (trials ++ [trial]) trial.name =
      (firstFailure? trials trial.name).or trial.failure? := by
    simp [firstFailure?, List.findSome?_append]
  obtain ⟨name, iteration, result⟩ := trial
  simp only [verdictOn, last]
  cases earlier : firstFailure? trials name <;> cases result <;>
    simp [Trial.failure?, Check.add, failureText]

/-! ## Records in order -/

/-- The names of trials, each where it first came up. -/
def recordedNames (trials : List Trial) : List String :=
  (trials.map (·.name)).eraseDups

theorem recordedNames_eq_foldl (trials : List Trial) :
    recordedNames trials = (trials.map (·.name)).foldl enlist [] := by
  rw [foldl_enlist, recordedNames]
  simp

theorem nodup_recordedNames (trials : List Trial) : (recordedNames trials).Nodup := by
  rw [recordedNames_eq_foldl]
  exact nodup_foldl_enlist _ List.nodup_nil

theorem mem_recordedNames (trials : List Trial) (name : String) :
    name ∈ recordedNames trials ↔ ∃ trial ∈ trials, trial.name = name := by
  rw [recordedNames, List.mem_eraseDups, List.mem_map]

theorem recordedNames_append (trials : List Trial) (trial : Trial) :
    recordedNames (trials ++ [trial]) = enlist (recordedNames trials) trial.name := by
  rw [recordedNames_eq_foldl, recordedNames_eq_foldl, List.map_append, List.foldl_append]
  rfl

/-- A record brings what there is to say under the names so far up to date. The induction goes past the
names before its own, so it only knows that the name has no trial yet if it is not among the rest. -/
theorem record_verdicts (trials : List Trial) (trial : Trial) {names : List String}
    (nodup : names.Nodup) (new : trial.name ∉ names → trial.name ∉ trials.map (·.name)) :
    record trial.name trial.iteration trial.result (names.map (verdictOn trials)) =
      (enlist names trial.name).map (verdictOn (trials ++ [trial])) := by
  induction names with
  | nil =>
      rw [List.map_nil, record, enlist, if_neg List.not_mem_nil, List.nil_append, List.map_singleton,
        verdictOn_append_self, verdictOn_of_new (new List.not_mem_nil)]
  | cons first rest ih =>
      obtain ⟨apart, nodup⟩ := List.nodup_cons.1 nodup
      rw [List.map_cons, record]
      by_cases same : first = trial.name
      · subst same
        -- the search ends here, and the names behind are other ones
        have others : rest.map (verdictOn (trials ++ [trial])) = rest.map (verdictOn trials) :=
          List.map_congr_left fun other member =>
            verdictOn_append_of_ne trials fun shared => apart (shared ▸ member)
        rw [enlist, if_pos List.mem_cons_self, List.map_cons, others, verdictOn_append_self]
        exact if_pos rfl
      · have skipped : enlist (first :: rest) trial.name = first :: enlist rest trial.name := by
          unfold enlist
          by_cases known : trial.name ∈ rest <;> simp [known, Ne.symm same]
        have ih := ih nodup fun absent => new (by simp [absent, Ne.symm same])
        rw [skipped, List.map_cons, verdictOn_append_of_ne trials (Ne.symm same), ← ih]
        exact if_neg same

theorem addTrials_verdicts (trials earlier : List Trial) :
    addTrials ((recordedNames earlier).map (verdictOn earlier)) trials =
      (recordedNames (earlier ++ trials)).map (verdictOn (earlier ++ trials)) := by
  induction trials generalizing earlier with
  | nil => rw [List.append_nil, addTrials, List.foldl_nil]
  | cons trial rest ih =>
      have new : trial.name ∉ recordedNames earlier → trial.name ∉ earlier.map (·.name) := by
        rw [recordedNames, List.mem_eraseDups]
        exact id
      rw [addTrials, List.foldl_cons,
        record_verdicts earlier trial (nodup_recordedNames earlier) new, ← recordedNames_append]
      refine (ih (earlier ++ [trial])).trans ?_
      rw [List.append_assoc, List.singleton_append]

theorem recordAll_ok (trials : List Trial) (checks : List Check) (world : World) :
    recordAll trials checks world =
      .ok (addTrials checks trials)
        { world with log := (trials.filterMap Trial.warning?).reverse ++ world.log } := by
  induction trials generalizing checks world with
  | nil => rfl
  | cons trial rest ih =>
      have noted : (rest.filterMap Trial.warning?).reverse ++ trial.warning?.toList =
          ((trial :: rest).filterMap Trial.warning?).reverse := by
        cases warning : trial.warning? <;> simp [warning]
      rw [recordAll, List.foldlM_cons, Script.bind_ok (trial.write_ok checks world)]
      refine (ih _ _).trans ?_
      rw [← noted, List.append_assoc]
      rfl

/-! ## What the checks say -/

/-- What checks say about the trials behind them. -/
structure Sums (trials : List Trial) (checks : List Check) : Prop where
  names_eq : checks.map (·.name) = (trials.map (·.name)).eraseDups
  names_nodup : (checks.map (·.name)).Nodup
  recorded : ∀ trial ∈ trials, ∃ check ∈ checks, check.name = trial.name
  passed_iff : ∀ check ∈ checks,
    check.passed = true ↔ ∀ trial ∈ trials, trial.name = check.name → trial.result = .ok ()
  detail_eq_none_iff : ∀ check ∈ checks, check.detail = none ↔ check.passed = true
  first_failure : ∀ check ∈ checks, check.passed = false →
    ∃ earlier trial later detail,
      trials = earlier ++ trial :: later ∧ trial.name = check.name ∧
      trial.result = .error detail ∧
      (∀ other ∈ earlier, other.name = check.name → other.result = .ok ()) ∧
      check.detail = some ("iteration " ++ toString trial.iteration ++ ": " ++ detail)

theorem verdictOn_first_failure {trials : List Trial} {name : String}
    (failed : (verdictOn trials name).passed = false) :
    ∃ earlier trial later detail,
      trials = earlier ++ trial :: later ∧ trial.name = name ∧
      trial.result = .error detail ∧
      (∀ other ∈ earlier, other.name = name → other.result = .ok ()) ∧
      (verdictOn trials name).detail =
        some ("iteration " ++ toString trial.iteration ++ ": " ++ detail) := by
  cases first : firstFailure? trials name with
  | none => simp [verdictOn, first] at failed
  | some failure =>
      obtain ⟨earlier, trial, later, split, same, iteration, result, before⟩ :=
        firstFailure?_eq_some first
      refine ⟨earlier, trial, later, failure.2, split, same, result, before, ?_⟩
      rw [verdictOn, first, iteration]
      rfl

theorem sums_addTrials (trials : List Trial) : Sums trials (addTrials [] trials) := by
  have folded : addTrials [] trials = (recordedNames trials).map (verdictOn trials) :=
    addTrials_verdicts trials []
  have names : ((recordedNames trials).map (verdictOn trials)).map (·.name) =
      recordedNames trials := by
    rw [List.map_map]
    exact List.map_id _
  rw [folded]
  constructor
  case names_eq => exact names
  case names_nodup =>
    rw [names]
    exact nodup_recordedNames trials
  case recorded =>
    intro trial member
    have known := (mem_recordedNames trials trial.name).2 ⟨trial, member, rfl⟩
    exact ⟨_, List.mem_map_of_mem known, rfl⟩
  all_goals
    intro check member
    obtain ⟨name, -, rfl⟩ := List.mem_map.1 member
  case passed_iff =>
    rw [← firstFailure?_eq_none_iff]
    exact Option.isNone_iff_eq_none
  case detail_eq_none_iff =>
    simp only [verdictOn, Option.map_eq_none_iff, Option.isNone_iff_eq_none]
  case first_failure => exact verdictOn_first_failure

theorem Report.count_failures (report : Report) (check : Check) :
    report.failures.count check = if check.passed then 0 else report.checks.count check := by
  unfold failures
  cases passed : check.passed with
  | true => exact List.count_eq_zero.2 (by simp [passed])
  | false => exact List.count_filter (by simp [passed])

theorem Report.failures_eq_nil_iff (report : Report) :
    report.failures = [] ↔ report.passed = true := by
  simp [failures, passed]

/-! ## Scenarios -/

theorem judged_eq_ok_iff (result : Result) (faults : List Host.Fault) :
    judged result faults = .ok () ↔ result = .ok () ∧ faults = [] := by
  cases result <;> cases faults <;> simp [judged]

/-- What becomes of a scenario's result. Its own detail comes before the faults that it left behind, and
the faults are gone. -/
structure Judges (name : String) (iteration : Nat) (result : Result) (faults : List Host.Fault)
    (trial : Trial) : Prop where
  name_eq : trial.name = name
  iteration_eq : trial.iteration = iteration
  passes_iff : trial.result = .ok () ↔ result = .ok () ∧ faults = []
  own_detail : ∀ detail, result = .error detail → trial.result = .error detail
  faults_told : result = .ok () → faults ≠ [] →
    trial.result = .error
      ("unexpected host faults: " ++ String.intercalate "; " (faults.map (·.message)))

theorem judges_judged (name : String) (iteration : Nat) (result : Result)
    (faults : List Host.Fault) :
    Judges name iteration result faults ⟨name, iteration, judged result faults⟩ where
  name_eq := rfl
  iteration_eq := rfl
  passes_iff := judged_eq_ok_iff result faults
  own_detail detail failed := by
    subst failed
    rfl
  faults_told good left := by
    subst good
    exact if_neg (by simpa using left)

theorem tried_writes {scenario : Scenario Unit} {world after : World} {result : Result}
    (ran : scenario.run world = .ok result after) (name : String) (iteration : Nat)
    (checks : List Check) :
    tried name iteration scenario checks world =
      Trial.write ⟨name, iteration, judged result after.machine.host.faults⟩ checks
        after.forgiven := by
  rw [tried_eq_write, Script.bind_ok ran, Script.bind_ok (takeFaults_ok after)]

/-- A scenario as it is given to the recorder. -/
structure Job where
  name : String
  iteration : Nat
  scenario : Scenario Unit

def triedAll (jobs : List Job) (checks : List Check) : Script (List Check) :=
  jobs.foldlM (fun checks job => tried job.name job.iteration job.scenario checks) checks

/-- Scenarios that come to their end one after the other, with the trial that each amounts to. Behind
each one the faults are taken away, and a failure is noted. -/
inductive Amounts : World → List Job → List Trial → World → Prop where
  | nil (world : World) : Amounts world [] [] world
  | cons {world middle after : World} {job : Job} {jobs : List Job} {trial : Trial}
      {trials : List Trial} {result : Result}
      (ran : job.scenario.run world = .ok result middle)
      (judges : Judges job.name job.iteration result middle.machine.host.faults trial)
      (rest : Amounts { middle.forgiven with log := trial.warning?.toList ++ middle.log }
        jobs trials after) :
      Amounts world (job :: jobs) (trial :: trials) after

/-- A recorder that gets through its scenarios has given their trials to the checks. -/
theorem triedAll_records {jobs : List Job} {checks found : List Check} {world after : World}
    (ran : triedAll jobs checks world = .ok found after) :
    ∃ trials, Amounts world jobs trials after ∧ found = addTrials checks trials := by
  induction jobs generalizing checks world with
  | nil =>
      cases ran
      exact ⟨[], .nil _, rfl⟩
  | cons job jobs ih =>
      rw [triedAll, List.foldlM_cons] at ran
      cases first : job.scenario.run world with
      | error stop middle =>
          have stopped : tried job.name job.iteration job.scenario checks world =
              .error stop middle := Script.bind_error first
          rw [Script.bind_error stopped] at ran
          cases ran
      | ok result middle =>
          rw [Script.bind_ok ((tried_writes first _ _ checks).trans (Trial.write_ok _ _ _))] at ran
          obtain ⟨trials, amounts, same⟩ := ih ran
          exact ⟨_ :: trials, .cons first (judges_judged _ _ _ _) amounts, same⟩

/-- Whatever is recorded in whatever order, the checks sum it up, and each failure was noted when it was
recorded. The failures of a report are its failed checks. A scenario that goes through the recorder fails
if it says so or leaves faults behind, and afterwards there are none; and the checks behind a sequence
of scenarios sum up what these amount to. -/
theorem recorder_sums :
    (∀ (trials : List Trial) (world : World),
      ∃ checks,
        recordAll trials [] world =
          .ok checks
            { world with log := (trials.filterMap Trial.warning?).reverse ++ world.log } ∧
        Sums trials checks) ∧
    (∀ report : Report,
      report.failures.Sublist report.checks ∧
      (∀ check, report.failures.count check =
        if check.passed then 0 else report.checks.count check) ∧
      (report.failures = [] ↔ report.passed = true)) ∧
    (∀ (name : String) (iteration : Nat) (scenario : Scenario Unit) (checks : List Check)
        (before after : World) (result : Result),
      scenario.run before = .ok result after →
        ∃ trial final,
          Judges name iteration result after.machine.host.faults trial ∧
          tried name iteration scenario checks before =
            .ok (record name iteration trial.result checks) final ∧
          final = { after.forgiven with log := trial.warning?.toList ++ after.log } ∧
          final.machine.host.faults = []) ∧
    (∀ (jobs : List Job) (checks : List Check) (before after : World),
      triedAll jobs [] before = .ok checks after →
        ∃ trials, Amounts before jobs trials after ∧ Sums trials checks) := by
  refine ⟨fun trials world => ?_, fun report => ?_, ?_, ?_⟩
  · exact ⟨_, recordAll_ok trials [] world, sums_addTrials trials⟩
  · exact ⟨List.filter_sublist, report.count_failures, report.failures_eq_nil_iff⟩
  · intro name iteration scenario checks before after result ran
    refine ⟨_, _, judges_judged name iteration result _, ?_, rfl, rfl⟩
    exact (tried_writes ran name iteration checks).trans (Trial.write_ok _ checks _)
  · intro jobs checks before after ran
    obtain ⟨trials, amounts, rfl⟩ := triedAll_records ran
    exact ⟨trials, amounts, sums_addTrials trials⟩

/-- A scenario without a complaint of its own fails for a fault that it left behind, and an earlier
failure under its name stays the one that is told. -/
theorem recorder_sums_left_fault :
    let failed : Trial := ⟨"probe", 1, .error "first"⟩
    let trials : List Trial := [⟨"probe", 0, .ok ()⟩, failed, ⟨"clock", 1, .ok ()⟩]
    let world := (World.start {}).rejecting (.invalidHandle "resource_drop") []
    ∃ checks final,
      recordAll trials [] world =
        .ok checks { world with log := [.notice (.failed "probe" 1 "first")] } ∧
      checks = [⟨"probe", false, some "iteration 1: first"⟩, ⟨"clock", true, none⟩] ∧
      tried "clock" 2 (pure ()) checks world =
        .ok
          [ ⟨"probe", false, some "iteration 1: first"⟩,
            ⟨"clock", false, some ("iteration 2: unexpected host faults: " ++
              "Invalid handle sentinel passed to resource_drop")⟩ ]
          final ∧
      final.machine.host.faults = [] := by
  intro failed trials world
  obtain ⟨records, -, scenarios, -⟩ := recorder_sums
  obtain ⟨checks, recorded, -⟩ := records trials world
  have same : checks = [⟨"probe", false, some "iteration 1: first"⟩, ⟨"clock", true, none⟩] := by
    refine (EStateM.Result.ok.inj (recorded.symm.trans (recordAll_ok trials [] world))).1.trans ?_
    decide
  obtain ⟨trial, final, judges, ran, -, clean⟩ :=
    scenarios "clock" 2 (pure ()) checks world world (.ok ()) rfl
  have told := judges.faults_told rfl (List.cons_ne_nil _ _)
  refine ⟨checks, final, recorded, same, ?_, clean⟩
  rw [ran, told, same]
  rfl

end Custody.Audit
