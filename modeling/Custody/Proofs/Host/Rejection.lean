import Custody.Proofs.Host.Undoing
import Custody.Proofs.Session.Scripts
import Custody.Session.Perform

/-!
# Rejected calls

A call that a host rejects changes nothing but the record of faults, and nothing at all when rejections
of its kind are not recorded. Whatever is asked later, the responses are those without the rejected call,
up to the fault in the record.
-/

set_option autoImplicit false

namespace Custody.Host

/-! ## The record of faults -/

theorem register_faults (host : Host) (mode : Mode) (call : DestructorCall) :
    host.faults <+: (host.register mode call).2.faults := by
  unfold register
  cases inserted : host.insert mode (.exported call) with
  | ok success =>
      obtain ⟨_, _, _, _, _, same⟩ := insert_eq_ok inserted
      simp only [same]
      exact List.prefix_rfl
  | error fault => exact List.prefix_append _ _

theorem lend_faults {host after : Host} {mode : Mode} {name : String} {h : Handle}
    (lent : host.lend mode name = .ok (h, after)) : after.faults = host.faults := by
  obtain ⟨⟨_, middle⟩, inserted, same⟩ := except_bind_eq_ok lent
  cases same
  obtain ⟨_, _, _, _, _, rfl⟩ := insert_eq_ok inserted
  rfl

theorem unregister_faults (host : Host) (h : Handle) :
    host.faults <+: (host.unregister h).2.faults := by
  obtain ⟨fault, refused⟩ | ⟨slot, call, names⟩ := host.refusal?_or_exported dropOperation h
  · rw [unregister_refused refused]
    exact List.prefix_append _ _
  · obtain ⟨table, removed⟩ := names.remove_ok
    rw [names.unregister_eq removed]

theorem release_faults (host : Host) (h : Handle) : host.faults <+: (host.release h).2.faults := by
  obtain ⟨fault, refused⟩ | ⟨slot, name, names⟩ := host.refusal?_or_imported dropOperation h
  · rw [release_refused refused]
    exact List.prefix_append _ _
  · obtain ⟨table, removed⟩ := names.remove_ok
    rw [names.release_eq removed]

/-! ## A fault that only one host has recorded -/

/-- A fault that one of two machines has recorded and the other has not, with its place in the list of
faults until that is taken. -/
structure Complaint where
  fault : Fault
  place : Option Nat

namespace Complaint

variable {host : Host} {m : Machine}

def among (complaint : Complaint) (faults : List Fault) : List Fault :=
  match complaint.place with
  | some place => faults.take place ++ complaint.fault :: faults.drop place
  | none => faults

def onCounters (counters : Counters) : Counters := { counters with faults := counters.faults + 1 }

def onHost (complaint : Complaint) (host : Host) : Host :=
  { host with counters := onCounters host.counters, faults := complaint.among host.faults }

/-- A response of the machine that has recorded the fault, for one of the other machine. -/
def onResponse (complaint : Complaint) : Response → Response
  | .faults faults => .faults (complaint.among faults)
  | .counters counters => .counters (onCounters counters)
  | response => response

/-- What is left of the complaint after a response. A new host knows nothing of it. -/
def left (complaint : Complaint) : Response → Option Complaint
  | .installed => none
  | .faults _ => some { complaint with place := none }
  | _ => some complaint

def onResponses (complaint : Complaint) : List Response → List Response
  | [] => []
  | response :: rest =>
      complaint.onResponse response ::
        match complaint.left response with
        | some complaint => complaint.onResponses rest
        | none => rest

def Placed (complaint : Complaint) (host : Host) : Prop :=
  ∀ place, complaint.place = some place → place ≤ host.faults.length

theorem among_append {complaint : Complaint} (placed : complaint.Placed host) (fault : Fault) :
    complaint.among host.faults ++ [fault] = complaint.among (host.faults ++ [fault]) := by
  unfold among
  cases standing : complaint.place with
  | none => rfl
  | some place =>
      have inside := placed place standing
      simp only [List.take_append_of_le_length inside, List.drop_append_of_le_length inside,
        List.append_assoc, List.cons_append]

theorem record_onHost {complaint : Complaint} (placed : complaint.Placed host) (fault : Fault) :
    (complaint.onHost host).record fault = complaint.onHost (host.record fault) := by
  unfold record onHost
  rw [among_append placed]
  rfl

theorem insert_onHost (complaint : Complaint) (host : Host) (mode : Mode) (entry : Entry) :
    (complaint.onHost host).insert mode entry =
      (host.insert mode entry).map fun (h, host) => (h, complaint.onHost host) := by
  unfold insert
  have checked : (complaint.onHost host).checkMode mode = host.checkMode mode := rfl
  have inserted : (complaint.onHost host).table.insert entry = host.table.insert entry := rfl
  rw [checked, inserted]
  cases host.checkMode mode with
  | error fault => rfl
  | ok _ =>
      cases host.table.insert entry with
      | error fault => rfl
      | ok success =>
          obtain ⟨slot, table⟩ := success
          simp only [bind, Except.bind]
          cases Handle.ofSlot? mode slot <;> rfl

theorem Names.onHost {h : Handle} {slot : Nat} {entry : Entry} (names : host.Names h slot entry)
    (complaint : Complaint) : (complaint.onHost host).Names h slot entry :=
  names.of_eq rfl rfl

theorem register_onHost {complaint : Complaint} (placed : complaint.Placed host) (mode : Mode)
    (call : DestructorCall) :
    (complaint.onHost host).register mode call =
      ((host.register mode call).1, complaint.onHost (host.register mode call).2) := by
  unfold register
  rw [insert_onHost]
  cases host.insert mode (.exported call) with
  | ok success => rfl
  | error fault => exact congrArg (Prod.mk _) (record_onHost placed fault)

theorem unregister_onHost {complaint : Complaint} (placed : complaint.Placed host) (h : Handle) :
    (complaint.onHost host).unregister h =
      ((host.unregister h).1, complaint.onHost (host.unregister h).2) := by
  obtain ⟨fault, refused⟩ | ⟨slot, call, names⟩ := host.refusal?_or_exported dropOperation h
  · have both : (complaint.onHost host).refusal? dropOperation .exported h = some fault := refused
    rw [unregister_refused refused, unregister_refused both, record_onHost placed]
  · obtain ⟨table, removed⟩ := names.remove_ok
    have both : (complaint.onHost host).table.remove slot = .ok (.exported call, table) := removed
    rw [names.unregister_eq removed, (Names.onHost names complaint).unregister_eq both]
    rfl

theorem release_onHost {complaint : Complaint} (placed : complaint.Placed host) (h : Handle) :
    (complaint.onHost host).release h =
      ((host.release h).1, complaint.onHost (host.release h).2) := by
  obtain ⟨fault, refused⟩ | ⟨slot, name, names⟩ := host.refusal?_or_imported dropOperation h
  · have both : (complaint.onHost host).refusal? dropOperation .imported h = some fault := refused
    rw [release_refused refused, release_refused both, record_onHost placed]
  · obtain ⟨table, removed⟩ := names.remove_ok
    have both : (complaint.onHost host).table.remove slot = .ok (.imported name, table) := removed
    rw [names.release_eq removed, (Names.onHost names complaint).release_eq both]
    rfl

theorem lend_onHost (complaint : Complaint) (host : Host) (mode : Mode) (name : String) :
    (complaint.onHost host).lend mode name =
      (host.lend mode name).map fun (h, host) => (h, complaint.onHost host) := by
  unfold lend
  rw [insert_onHost]
  cases host.insert mode (.imported name) <;> rfl

theorem aside_onHost (complaint : Complaint) : Machine.Aside complaint.onHost where
  config_eq _ := rfl
  pending_eq _ := rfl
  requeued _ _ := rfl
  counted _ := rfl

/-! ## Responses to later calls -/

/-- The second machine has recorded the fault that is complained of, and the first has not. -/
def Divides : Option Complaint → Machine → Machine → Prop
  | some complaint, m, other => other = m.onHost complaint.onHost ∧ complaint.Placed m.host
  | none, m, other => other = m

theorem Placed.more {complaint : Complaint} {after : Host} (placed : complaint.Placed host)
    (more : host.faults <+: after.faults) : complaint.Placed after :=
  fun place standing => (placed place standing).trans more.length_le

theorem divides_ask {complaint : Complaint} (placed : complaint.Placed m.host) (call : Call) :
    ((m.onHost complaint.onHost).ask call).1 = complaint.onResponse (m.ask call).1 ∧
      Divides (complaint.left (m.ask call).1) (m.ask call).2
        ((m.onHost complaint.onHost).ask call).2 := by
  have aside := aside_onHost complaint
  cases call with
  | register mode call =>
      simp only [Machine.ask, Machine.onHost, register_onHost placed]
      exact ⟨rfl, rfl, placed.more (register_faults m.host mode call)⟩
  | drop h =>
      have grown := unregister_faults m.host h
      simp only [Machine.ask, Machine.onHost, Machine.drop, unregister_onHost placed]
      generalize m.host.unregister h = result at grown ⊢
      obtain ⟨fault | call, host⟩ := result
      · exact ⟨rfl, rfl, placed.more grown⟩
      · have settled := aside.settle { m with host } call
        obtain ⟨pending, active, frame⟩ := Machine.settle_frame { m with host } call
        unfold Machine.onHost at settled
        simp only [settled]
        refine ⟨rfl, rfl, placed.more ?_⟩
        rw [frame]
        exact grown
  | rep h => exact ⟨rfl, rfl, placed⟩
  | lend mode name =>
      simp only [Machine.ask, Machine.onHost, lend_onHost]
      cases lent : m.host.lend mode name with
      | error fault => exact ⟨rfl, rfl, placed⟩
      | ok success =>
          refine ⟨rfl, rfl, placed.more ?_⟩
          rw [lend_faults lent]
  | release h =>
      simp only [Machine.ask, Machine.onHost, release_onHost placed]
      exact ⟨rfl, rfl, placed.more (release_faults m.host h)⟩
  | flush =>
      obtain ⟨pending, active, frame⟩ := m.flush_frame
      simp only [Machine.ask, Machine.flush, aside.nextBatch]
      refine ⟨rfl, rfl, placed.more ?_⟩
      rw [← Machine.flush, frame]
  | finish =>
      simp only [Machine.ask, aside.finish]
      refine ⟨rfl, rfl, placed.more ?_⟩
      cases active : m.active with
      | nil => simp [Machine.finish, active]
      | cons activation under =>
          obtain ⟨pending, active, frame⟩ := m.finish_frame (by simp [active])
          rw [frame]
  | takeFaults =>
      refine ⟨rfl, rfl, fun place kept => ?_⟩
      cases kept
  | counters => exact ⟨rfl, rfl, placed⟩
  | settings => exact ⟨rfl, rfl, placed⟩
  | census => exact ⟨rfl, rfl, placed⟩
  | install config => exact ⟨rfl, rfl⟩

theorem responses_onHost {complaint : Complaint} (placed : complaint.Placed m.host)
    (calls : List Call) :
    Machine.responses Machine.ask (m.onHost complaint.onHost) calls =
      complaint.onResponses (Machine.responses Machine.ask m calls) := by
  induction calls generalizing m complaint with
  | nil => rfl
  | cons call rest ih =>
      obtain ⟨response, divided⟩ := divides_ask placed call
      rw [Machine.responses, Machine.responses, onResponses, response]
      congr 1
      cases left : complaint.left (m.ask call).1 with
      | none =>
          rw [left] at divided
          rw [divided]
      | some complaint =>
          rw [left] at divided
          obtain ⟨same, placed⟩ := divided
          rw [same]
          exact ih placed

end Complaint

/-! ## Rejections -/

def Call.isRecorded : Call → Bool
  | .lend _ _ | .rep _ => false
  | _ => true

namespace Machine

variable {m : Machine} {call : Call} {fault : Fault}

theorem ask_rejected (rejected : (m.ask call).1.fault? = some fault) :
    (m.ask call).2 = if call.isRecorded then m.onHost (·.record fault) else m := by
  cases call with
  | register mode call =>
      simp only [ask, Host.register] at rejected ⊢
      cases inserted : m.host.insert mode (.exported call) with
      | ok success =>
          rw [inserted] at rejected
          cases rejected
      | error reason =>
          rw [inserted] at rejected
          cases rejected
          rfl
  | drop h =>
      simp only [ask] at rejected ⊢
      obtain ⟨reason, refused⟩ | ⟨slot, call, names⟩ := m.host.refusal?_or_exported dropOperation h
      · rw [drop_refused refused] at rejected ⊢
        cases rejected
        rfl
      · have accepted := (drop_of_names names).2
        cases outcome : (m.drop h).1 with
        | rejected reason => exact absurd outcome (accepted reason)
        | queued | started =>
            rw [outcome] at rejected
            cases rejected
  | lend mode name =>
      simp only [ask] at rejected ⊢
      cases lent : m.host.lend mode name with
      | ok success =>
          rw [lent] at rejected
          cases rejected
      | error reason => rfl
  | release h =>
      simp only [ask] at rejected ⊢
      obtain ⟨reason, refused⟩ | ⟨slot, name, names⟩ := m.host.refusal?_or_imported dropOperation h
      · rw [release_refused refused] at rejected ⊢
        cases rejected
        rfl
      · obtain ⟨table, removed⟩ := names.remove_ok
        rw [names.release_eq removed] at rejected
        cases rejected
  | rep h => rfl
  | flush | finish | takeFaults | counters | settings | census | install => cases rejected

/-- A machine before and after a call that was rejected, where later calls do what `answer` says. -/
structure Intact (answer : Machine → Call → Response × Machine) (call : Call) (fault : Fault)
    (m after : Machine) : Prop where
  entries_eq : ∀ slot, after.host.table.get? slot = m.host.table.get? slot
  live_eq : after.host.live = m.host.live
  capacity_eq : after.host.table.capacity = m.host.table.capacity
  config_eq : after.host.config = m.host.config
  pending_eq : after.host.pending = m.host.pending
  active_eq : after.active = m.active
  counters_eq : after.host.counters =
    if call.isRecorded then { m.host.counters with faults := m.host.counters.faults + 1 }
    else m.host.counters
  faults_eq : after.host.faults =
    if call.isRecorded then m.host.faults ++ [fault] else m.host.faults
  later : ∀ calls, responses answer after calls =
    if call.isRecorded then
      Complaint.onResponses { fault, place := some m.host.faults.length } (responses answer m calls)
    else responses answer m calls

theorem record_eq_onHost (m : Machine) (fault : Fault) :
    m.onHost (·.record fault) =
      m.onHost (Complaint.onHost { fault, place := some m.host.faults.length }) := by
  simp only [onHost, Complaint.onHost, Complaint.among, List.take_length, List.drop_length]
  rfl

theorem intact_ask (rejected : (m.ask call).1.fault? = some fault) :
    Intact ask call fault m (m.ask call).2 := by
  rw [ask_rejected rejected]
  cases recorded : call.isRecorded with
  | true =>
      have placed : Complaint.Placed { fault, place := some m.host.faults.length } m.host :=
        fun place standing => (Option.some.inj standing).ge
      refine ⟨fun _ => rfl, rfl, rfl, rfl, rfl, rfl, ?_, ?_, fun calls => ?_⟩
      · rw [recorded]
        rfl
      · rw [recorded]
        rfl
      · rw [recorded, if_pos rfl, if_pos rfl, record_eq_onHost]
        exact Complaint.responses_onHost placed calls
  | false =>
      refine ⟨fun _ => rfl, rfl, rfl, rfl, rfl, rfl, ?_, ?_, fun calls => ?_⟩ <;> rw [recorded] <;> rfl

theorem started?_of_rejected {response : Response} (rejected : response.fault? = some fault) :
    response.started? = none := by
  cases response with
  | dropped outcome =>
      cases outcome with
      | started call => cases rejected
      | rejected | queued => rfl
  | continued => cases rejected
  | _ => rfl

/-- A rejected call starts no destructor and leaves the machine intact. -/
def Spares (answer : Machine → Call → Response × Machine) (m : Machine) : Prop :=
  ∀ call fault, (answer m call).1.fault? = some fault →
    (answer m call).1.started? = none ∧ Intact answer call fault m (answer m call).2

theorem spares_ask (m : Machine) : Spares ask m := fun _ _ rejected =>
  ⟨started?_of_rejected rejected, intact_ask rejected⟩

theorem spares_askUndoing {padded : Table Entry} (fits : m.host.Fits)
    (padding : m.host.table.Padded m.host.config.mode padded) :
    Spares askUndoing (m.withTable padded) := by
  intro call fault rejected
  refine ⟨started?_of_rejected rejected, ?_⟩
  obtain ⟨left, both, still⟩ := ask_padded fits padding call
  rw [both] at rejected ⊢
  have intact := intact_ask rejected
  have fits := fits_ask fits call
  exact
    { entries_eq := fun slot =>
        (still.get?_eq slot).trans ((intact.entries_eq slot).trans (padding.get?_eq slot).symm)
      live_eq := still.live_eq.trans (intact.live_eq.trans padding.live_eq.symm)
      capacity_eq := still.capacity_eq.trans (intact.capacity_eq.trans padding.capacity_eq.symm)
      config_eq := intact.config_eq
      pending_eq := intact.pending_eq
      active_eq := intact.active_eq
      counters_eq := intact.counters_eq
      faults_eq := intact.faults_eq
      later := fun calls => by
        rw [responses_padded fits still, responses_padded ‹m.host.Fits› padding]
        exact intact.later calls }

end Machine

open Session in
/-- A session that registers a number gets the invalid handle back when the host rejects it. -/
def ReturnsInvalid (m : Machine) : Prop :=
  ∀ (control : Control) (nodeType : Mode → String) (dst : String) (mode : Mode) (value : UInt64)
    (fault : Fault) (world : World), world.machine = m →
    let call : DestructorCall := { rep := .number value, destructor := .note, typeName := "number" }
    (m.ask (.register mode call)).1.fault? = some fault →
    ∃ after, perform control nodeType (.registerNumber dst mode value) world =
      .ok (.handle (.invalid mode)) after ∧ after.machine = (m.ask (.register mode call)).2

theorem returnsInvalid (m : Machine) : ReturnsInvalid m := by
  intro control nodeType dst mode value fault world same call rejected
  subst same
  unfold Session.perform
  dsimp only
  rw [Session.Script.callHost_bind]
  simp only [Machine.ask] at rejected ⊢
  cases registered : world.machine.host.register mode call with
  | mk result host =>
    rw [registered] at rejected
    cases result with
    | ok h => cases rejected
    | error reason => exact ⟨_, rfl, rfl⟩

/-- Whatever has happened, a host spares its state when it rejects a call, also when it has to undo an
insertion. -/
theorem rejections_leave_intact (config : HostConfig) (history : List Call) :
    Machine.Spares Machine.ask ((Machine.start config).asked Machine.ask history) ∧
      Machine.Spares Machine.askUndoing ((Machine.start config).asked Machine.askUndoing history) ∧
      ReturnsInvalid ((Machine.start config).asked Machine.ask history) := by
  refine ⟨Machine.spares_ask _, ?_, returnsInvalid _⟩
  obtain ⟨left, both, fits, padding⟩ :=
    Machine.asked_padded (m := Machine.start config) (fits_install config) .same history
  have same : (Machine.start config).withTable (Machine.start config).host.table =
    Machine.start config := rfl
  rw [same] at both
  rw [both]
  exact Machine.spares_askUndoing fits padding

example : ((Machine.start { maxHandles := 0 }).ask (.register .integer default)).1.fault? =
    some (.tableFull 0) := by
  decide

end Custody.Host
