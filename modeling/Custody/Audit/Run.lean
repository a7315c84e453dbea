import Custody.Audit.Scenario

/-!
# The audit

The audit goes through all scenarios as often as configured and folds the results into a report.
Faults that a scenario leaves behind spoil its result. At the end nothing may be left that was not
there at the start.
-/

set_option autoImplicit false

namespace Custody.Audit

open Session (Control Script)

/-- Joins the result of a scenario with the faults it left behind; its own detail comes first. -/
def judged (result : Result) (faults : List Host.Fault) : Result :=
  match result with
  | .error detail => .error detail
  | .ok () =>
      if faults.isEmpty then .ok ()
      else .error ("unexpected host faults: " ++ String.intercalate "; " (faults.map (·.message)))

/-- Runs a scenario and records its result. A bad one is noted. -/
def tried (name : String) (iteration : Nat) (scenario : Scenario Unit) (checks : List Check) :
    Script (List Check) := do
  let result ← scenario.run
  let result := judged result (← takeFaults)
  match result with
  | .ok () => pure ()
  | .error detail => Script.note (.failed name iteration detail)
  return record name iteration result checks

/-- The scenarios of one iteration with their names, in order. -/
def scenarios (control : Control) (mode : Mode) (payload : List UInt8)
    (imports : List ImportEntry) : List (String × Scenario Unit) :=
  [ ("buffer.copy_from_view", bufferCopy payload),
    ("buffer.move", bufferMove payload),
    ("buffer.leak", bufferLeak payload),
    ("vector.elements", vectorElements),
    ("export.registration", registration control mode),
    ("export.drop_once", dropOnce control mode),
    ("export.into_handle_once", intoHandleOnce control mode),
    ("export.reattach", reattach control mode),
    ("export.nested_teardown", nestedTeardown control mode) ] ++
  imports.flatMap (fun entry =>
    [ ("import." ++ entry.name ++ ".release", importRelease mode entry.name),
      ("import." ++ entry.name ++ ".transfer", importTransfer mode entry.name) ]) ++
  [("import.assign_over_live", assignOverLive mode)]

def runAll (iteration : Nat) :
    List (String × Scenario Unit) → List Check → Script (List Check)
  | [], checks => pure checks
  | (name, scenario) :: rest, checks => do
      runAll iteration rest (← tried name iteration scenario checks)

/-- Runs the scenarios so many times, counting iterations on from the given one. -/
def repeated (scenarios : List (String × Scenario Unit)) :
    (times iteration : Nat) → List Check → Script (List Check)
  | 0, _, checks => pure checks
  | times + 1, iteration, checks => do
      repeated scenarios times (iteration + 1) (← runAll iteration scenarios checks)

/-- Nothing is left behind: no handle, no waiting destructor, no region. -/
def noLeaks (liveAtStart : Nat) (memoryAtStart : Memory.Counters) : Scenario Unit := do
  let live ← liveHandles
  ensure (live == liveAtStart) (toString (live - liveAtStart) ++ " handles left in the table")
  let pending := (← Script.host).pending.length
  ensure (pending == 0) (toString pending ++ " destructors never ran")
  let memory := (← memoryCounters).since memoryAtStart
  ensure (memory.live == 0) (toString memory.live ++ " linear memory regions never released")

def run (control : Control) (config : AuditConfig) (imports : List ImportEntry) :
    Script Report := do
  let settings := (← Script.host).config
  let iterations := max 1 config.iterations.toNat
  let earlier ← takeFaults
  if !earlier.isEmpty then Script.note (.discarded earlier.length)
  let liveAtStart ← liveHandles
  let memoryAtStart ← memoryCounters
  let payload := config.payload.toUTF8.toList
  let checks ← repeated (scenarios control settings.mode payload imports) iterations 0 []
  let _ ← Session.flush control
  let checks ← tried "host.no_leaks" iterations (noLeaks liveAtStart memoryAtStart) checks
  return {
    mode := settings.mode
    timing := settings.timing
    iterations
    checks
    counters := ← hostCounters }

end Custody.Audit
