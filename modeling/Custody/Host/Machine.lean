import Custody.Host.Basic

/-!
# Destructors that run

The host calls a destructor from inside a drop request or a flush, and the destructor may call the
host again before it returns. A `Machine` is a host with the calls that are under way, the innermost
in front. Guest code moves it from one call to the next: `Machine.drop` and `Machine.flush` may start
a destructor, and `Machine.finish` is what happens when the innermost one returns.

A flush takes all waiting destructors as one batch and runs them in order. Those that are queued
meanwhile wait for its next batch, so it returns only when none is left. A batch that was taken is
run to its end, whatever happens to the host.
-/

set_option autoImplicit false

namespace Custody.Host

/-- A call of the host that waits for a destructor to return. -/
inductive Activation where
  | dropping (call : DestructorCall)
  /-- A flush: the destructor that runs, those of the same batch after it, and how many destructors
  its batches held so far. -/
  | flushing (call : DestructorCall) (rest : List DestructorCall) (total : Nat)

structure Machine where
  host : Host
  active : List Activation

inductive DropOutcome where
  | rejected (fault : Fault)
  | queued
  /-- The destructor runs before the request returns. -/
  | started (call : DestructorCall)

/-- How a call goes on at the start of a flush or after a destructor has returned. -/
inductive Continuation where
  | dropped
  | flushed (count : Nat)
  | started (call : DestructorCall)
  | idle

namespace Machine

def start (config : HostConfig) : Machine :=
  { host := .install config, active := [] }

/-- Replaces the host. Calls under way stay under way. -/
def install (m : Machine) (config : HostConfig) : Machine :=
  { m with host := .install config }

def settle (m : Machine) (call : DestructorCall) : DropOutcome × Machine :=
  match m.host.config.timing with
  | .immediate => (.started call, { m with active := .dropping call :: m.active })
  | .deferred =>
      (.queued, { m with host := { m.host with pending := m.host.pending ++ [call] } })

def drop (m : Machine) (h : Handle) : DropOutcome × Machine :=
  match m.host.unregister h with
  | (.error fault, host) => (.rejected fault, { m with host })
  | (.ok call, host) => { m with host }.settle call

def nextBatch (m : Machine) (total : Nat) : Continuation × Machine :=
  match m.host.pending with
  | [] => (.flushed total, m)
  | call :: rest =>
      (.started call,
        { host := { m.host with pending := [] }
          active := .flushing call rest (total + (rest.length + 1)) :: m.active })

/-- Runs every waiting destructor, including those queued meanwhile. -/
def flush (m : Machine) : Continuation × Machine := m.nextBatch 0

def finish (m : Machine) : Continuation × Machine :=
  let host :=
    { m.host with counters.destructorsRun := m.host.counters.destructorsRun + 1 }
  match m.active with
  | [] => (.idle, m)
  | .dropping _ :: active => (.dropped, { host, active })
  | .flushing _ (call :: rest) total :: active =>
      (.started call, { host, active := .flushing call rest total :: active })
  | .flushing _ [] total :: active => ({ host, active : Machine }).nextBatch total

end Machine

end Custody.Host
