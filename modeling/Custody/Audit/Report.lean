import Custody.Config.Document
import Custody.Host.Basic

/-!
# Audit reports

Results of scenarios are folded into one check for each name, in the order in which the names first
came up. A check passes when all its results are good; otherwise it keeps the first bad one. A report
has the checks and what the host counted.
-/

set_option autoImplicit false

namespace Custody

def Host.Counters.toDocument (c : Host.Counters) : Document :=
  .mapping
    [ ("registered", .natural c.registered),
      ("drop_requests", .natural c.dropRequests),
      ("destructors_run", .natural c.destructorsRun),
      ("imports_created", .natural c.importsCreated),
      ("imports_released", .natural c.importsReleased),
      ("faults", .natural c.faults) ]

namespace Audit

/-- The result of a scenario: nothing, or what was wrong. -/
abbrev Result := Except String Unit

structure Check where
  name : String
  passed : Bool
  detail : Option String
deriving DecidableEq

def Check.fresh (name : String) : Check := { name, passed := true, detail := none }

def Check.add (check : Check) (iteration : Nat) : Result → Check
  | .ok () => check
  | .error detail =>
      if check.passed then
        { check with
          passed := false
          detail := some ("iteration " ++ toString iteration ++ ": " ++ detail) }
      else check

/-- Adds a result to the check of its name, which is put at the end if it is new. -/
def record (name : String) (iteration : Nat) (result : Result) : List Check → List Check
  | [] => [(Check.fresh name).add iteration result]
  | check :: rest =>
      if check.name = name then check.add iteration result :: rest
      else check :: record name iteration result rest

structure Report where
  mode : Mode
  timing : Timing
  iterations : Nat
  checks : List Check
  counters : Host.Counters

def Check.toDocument (check : Check) : Document :=
  .mapping <|
    [("name", .text check.name), ("passed", .boolean check.passed)] ++
      (check.detail.map fun detail => ("detail", Document.text detail)).toList

def Check.text (check : Check) : String :=
  let status := if check.passed then "ok    " else "FAILED"
  let detail :=
    match check.detail with
    | some detail => "  (" ++ detail ++ ")"
    | none => ""
  "  " ++ status ++ " " ++ check.name ++ detail

namespace Report

def failures (report : Report) : List Check := report.checks.filter (!·.passed)

def passed (report : Report) : Bool := report.checks.all (·.passed)

def toDocument (report : Report) : Document :=
  .mapping
    [ ("mode", report.mode.toDocument),
      ("timing", report.timing.toDocument),
      ("iterations", .natural report.iterations),
      ("checks", .sequence (report.checks.map Check.toDocument)),
      ("host", report.counters.toDocument) ]

def text (report : Report) : String :=
  let first :=
    "mode: " ++ report.mode.name ++ "  timing: " ++ report.timing.title ++
      "  iterations: " ++ toString report.iterations
  let c := report.counters
  let last :=
    "host: " ++ toString c.registered ++ " registered, " ++ toString c.dropRequests ++
      " drop requests, " ++ toString c.destructorsRun ++ " destructors, " ++
      toString c.importsCreated ++ " imports (" ++ toString c.importsReleased ++
      " released), " ++ toString c.faults ++ " faults"
  String.join <| ([first] ++ report.checks.map Check.text ++ [last]).map (· ++ "\n")

end Report

end Audit

end Custody
