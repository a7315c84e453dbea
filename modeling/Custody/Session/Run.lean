import Custody.Session.Perform

/-!
# Running sessions

A session starts with a fresh host and performs its steps in order. A failed assertion ends the step
it happens in and becomes its answer.

Destructors call the host, which calls destructors. How deep that goes, and how long a flush goes on,
is bounded by the number of registrations: each destructor that runs belongs to one of its own. A
program can make no more of them than its steps say, because the steps of a node are taken at most
once.
-/

set_option autoImplicit false

namespace Custody.Session

open Host (DestructorCall)

/-! ## Destructors -/

def answerOf (control : Control) (nodeType : Mode → String) (step : Step) : Script Answer := do
  match ← Script.attempt (perform control nodeType step) with
  | .ok answer => return answer
  | .error message => return .panicked message

/-- Runs a destructor in which others may be nested up to a depth. -/
def runDestructor (nodeType : Mode → String) (flushBound : Nat) :
    (depth : Nat) → DestructorCall → Script Unit
  | 0, _ => throw .exhausted
  | depth + 1, call =>
      let control : Control :=
        { runDestructor := runDestructor nodeType flushBound depth, flushBound }
      destroy control (answerOf control nodeType) call

/-- The control of a program that makes at most so many registrations. -/
def controlFor (nodeType : Mode → String) (registrations : Nat) : Control :=
  let bound := registrations + 1
  { runDestructor := runDestructor nodeType bound bound, flushBound := bound }

/-! ## The number of registrations -/

def auditRegistrations : Nat := 7

mutual

/-- The largest number of objects that a step registers, now or when a node of its own is
destroyed. -/
def Step.registrations : Step → Nat
  | .create _ _ _ _ onDrop _ _ => registrationsOf onDrop + 1
  | .chain _ _ depth => depth
  | .registerNumber _ _ _ => 1
  | .audit config _ => auditRegistrations * max 1 config.iterations.toNat
  | _ => 0

def registrationsOf : List Step → Nat
  | [] => 0
  | step :: rest => step.registrations + registrationsOf rest

end

/-! ## Runs -/

/-- What can be counted after a step. -/
structure Totals where
  live : Nat
  pending : Nat
  host : Host.Counters
  memory : Memory.Counters

def Totals.ofWorld (world : World) : Totals :=
  let host := world.machine.host
  { live := host.live
    pending := host.pending.length
    host := host.counters
    memory := world.workspace.memory.counters }

structure Record where
  answer : Answer
  events : List Event
  totals : Totals

def World.start (config : HostConfig) : World := { machine := .start config }

def World.takeLog (world : World) : List Event × World :=
  (world.log.reverse, { world with log := [] })

def runFrom (act : Step → Script Answer) : World → List Step → Except Stop (List Record)
  | _, [] => .ok []
  | world, step :: rest =>
      match act step world with
      | .error stop _ => .error stop
      | .ok answer world => do
          let (events, world) := world.takeLog
          let records ← runFrom act world rest
          return { answer, events, totals := .ofWorld world } :: records

/-- Runs a session against a fresh host. The names of node types show in messages only. -/
def run (nodeType : Mode → String) (config : HostConfig) (steps : List Step) :
    Except Stop (List Record) :=
  let control := controlFor nodeType (registrationsOf steps)
  runFrom (answerOf control nodeType) (.start config) steps

/-- Runs the audit against a fresh host. An assertion of the audit itself may fail. The world
afterwards is returned in either case. -/
def audit (config : Config) : Except Stop Audit.Report × World :=
  let nodeType := fun _ : Mode => ""
  let control := controlFor nodeType (Step.audit config.audit config.imports).registrations
  match Audit.run control config.audit config.imports (.start config.host) with
  | .ok report world => (.ok report, world)
  | .error stop world => (.error stop, world)

end Custody.Session
