import Custody.Proofs.Audit.Probes

/-!
# Scenarios of registered objects

Each of these scenarios first runs the destructors that wait and then registers objects of its own.
One of them ends with a drop request and no flush: what it leaves to a host with deferred destructors
is destroyed when the next one begins.
-/

set_option autoImplicit false

namespace Custody.Audit

open Session (Control Excursion Felled Member Owner Planted Resource Script Tree World)

def passage (count : Nat) : Host.Counters :=
  { registered := count, dropRequests := count, destructorsRun := count }

variable {control : Control} {world asked after : World} {mode : Mode} {entryName : String}

/-! ## What a scenario looks at -/

theorem host_ok (world : World) : Script.host world = .ok world.machine.host world := rfl

theorem hostCounters_ok (world : World) :
    hostCounters world = .ok world.machine.host.counters world := rfl

theorem liveHandles_ok (world : World) :
    liveHandles world = .ok world.machine.host.live world := rfl

theorem isDestroyed_ok (owner : Owner) (world : World) :
    isDestroyed owner world = .ok (!(world.heap.get? owner.id).isSome) world := rfl

theorem ownerHandle_ok {owner : Owner} {r : Guest.Registration Resource}
    (present : world.heap.get? owner.id = some r) :
    Session.ownerHandle owner world = .ok r.handle world := by
  unfold Session.ownerHandle
  rw [Script.get_bind, present]
  rfl

theorem repOf_ok {h : Handle} {rep : Host.Rep} (found : world.machine.host.rep h = .ok rep) :
    Runs (repOf h) world rep world := by
  unfold repOf
  refine (runs_lift (host_ok world)).bind ?_
  rw [found]
  exact runs_pure rep world

/-! ## One object -/

/-- When the object of an excursion is destroyed, the excursion is home. -/
private theorem home_of_felled {script : Script Unit} {now : World} {id slot : Nat} {h : Handle}
    {order : List Member} {tally : Host.Counters} (excursion : Excursion world now [id] [slot] tally)
    (named : h.slot? = some slot) (idle : world.machine.host.pending = [])
    (felled : Felled control script now (probeTree id h []) asked after order) :
    Excursion world after [] [] (tally.plus { dropRequests := 1, destructorsRun := 1 }) :=
  excursion.felled felled (excursion.pending_eq.trans idle) (.refl _) (.of_eq (by
    simp [Tree.preorder_cons, probeTree, Tree.top, Tree.children, named]))

/-- The scenario ends with a drop request, which a flush completes. -/
theorem registration_runs (reaches : Reaches control 1) (ready : Ready mode 1 world) :
    ∃ asked after count, Runs (registration control mode) world () asked ∧
      asked.machine.host.faults = [] ∧ Session.flush control asked = .ok count after ∧
      Excursion world after [] [] (passage 1) := by
  obtain ⟨owner, now, h, slot, registered, excursion, probe⟩ :=
    registerProbe_ok ready.fits ready.room ready.mode_eq []
  obtain ⟨asked, after, order, felled⟩ := dropOwner_felled reaches probe.planted
    (excursion.fits ready.fits) (excursion.pending_eq.trans ready.idle) owner rfl
  obtain ⟨count, flushed⟩ := felled.flush_ok
  refine ⟨asked, after, count, ?_, ?_, flushed,
    home_of_felled excursion probe.names.slot?_eq ready.idle felled⟩
  · unfold registration
    refine (runs_lift (Session.flush_idle control ready.idle)).bind ?_
    refine (runs_lift registered).bind ?_
    refine .holding () now ?_ felled.asked_ok
    refine (runs_lift (ownerHandle_ok probe.present)).bind ?_
    refine (runs_ensure probe.isValid _ _).bind ?_
    refine (repOf_ok probe.rep_eq).bind ?_
    exact runs_ensure (by simp) _ _
  · exact felled.asked_faults.trans (excursion.faults_eq.trans ready.clean)

/-- The scenario begins with a flush, which may complete what the one before it has left. -/
theorem dropOnce_runs {count : Nat} (reaches : Reaches control 1) (ready : Ready mode 1 world)
    (flushed : Session.flush control asked = .ok count world) :
    ∃ after, Runs (dropOnce control mode) asked () after ∧
      Excursion world after [] [] ((passage 1).plus { faults := 1 }) := by
  obtain ⟨owner, now, h, slot, registered, excursion, probe⟩ :=
    registerProbe_ok ready.fits ready.room ready.mode_eq []
  have idle := excursion.pending_eq.trans ready.idle
  obtain ⟨dropped, settled, order, felled⟩ := dropOwner_felled reaches probe.planted
    (excursion.fits ready.fits) idle owner rfl
  obtain ⟨dropCount, dropFlushed⟩ := felled.flush_ok
  have home := home_of_felled excursion probe.names.slot?_eq ready.idle felled
  have gone := home.gone excursion List.mem_cons_self
  have vacant : settled.machine.host.table.get? slot = none :=
    (home.table slot List.not_mem_nil).trans (excursion.vacant slot List.mem_cons_self)
  have clean := home.faults_eq.trans ready.clean
  -- the handle is stale now
  obtain ⟨fault, log, stale, refused⟩ := requestDrop_stale control
    ((home.mode_eq_iff _).2 ((excursion.mode_eq_iff _).1 probe.names.mode_eq))
    probe.names.slot?_eq vacant
  refine ⟨_, ?_, home.complained fault log clean⟩
  unfold dropOnce
  refine (runs_lift flushed).bind ?_
  refine (runs_lift registered).bind ?_
  refine (runs_lift (ownerHandle_ok probe.present)).bind ?_
  refine (runs_lift (hostCounters_ok now)).bind ?_
  refine (runs_lift felled.asked_ok).bind ?_
  refine (runs_lift dropFlushed).bind ?_
  refine (runs_lift (hostCounters_ok settled)).bind ?_
  have counted : settled.machine.host.counters = now.machine.host.counters.plus
      { dropRequests := 1, destructorsRun := 1 } := by
    simp [home.counters_eq, excursion.counters_eq, Host.Counters.plus]
  refine (runs_ensure (by simp [counted, Host.Counters.plus]) _ _).bind ?_
  refine (runs_ensure (by simp [counted, Host.Counters.plus]) _ _).bind ?_
  refine (runs_lift (isDestroyed_ok owner settled)).bind ?_
  refine (runs_ensure (by simp [gone]) _ _).bind ?_
  refine (runs_lift refused).bind ?_
  have still : (settled.rejecting fault log).machine.host.pending = [] :=
    home.pending_eq.trans ready.idle
  refine (runs_lift (Session.flush_idle control still)).bind ?_
  refine (runs_lift (takeFaults_ok _)).bind ?_
  have faults : (settled.rejecting fault log).machine.host.faults = [fault] := by
    change settled.machine.host.faults ++ [fault] = [fault]
    rw [clean, List.nil_append]
  rw [faults]
  refine (runs_ensure stale _ _).bind ?_
  refine (runs_lift (hostCounters_ok _)).bind ?_
  exact runs_ensure (by simp [World.forgiven, World.rejecting, Host.record]) _ _

theorem intoHandleOnce_passes (reaches : Reaches control 1) :
    Passes mode 1 (intoHandleOnce control mode) (passage 1) := by
  intro world ready
  obtain ⟨owner, now, h, slot, registered, excursion, probe⟩ :=
    registerProbe_ok ready.fits ready.room ready.mode_eq []
  have own : h.mode = mode :=
    ((excursion.mode_eq_iff _).1 probe.names.mode_eq).trans ready.mode_eq.symm
  -- the handle is taken out, nothing is there the second time, and the owner goes away without it
  have once := get?_put probe.present (ownerless h.mode)
  have twice := get?_put once (ownerless h.mode)
  have thrice := get?_put twice (ownerless h.mode)
  have excursion := ((excursion.put List.mem_cons_self probe.present (ownerless h.mode)).put
    List.mem_cons_self once (ownerless h.mode)).put List.mem_cons_self twice (ownerless h.mode)
  have idle := excursion.pending_eq.trans ready.idle
  obtain ⟨dropped, settled, order, felled⟩ := requestDrop_felled reaches (excursion.fits ready.fits)
    idle thrice probe.names
  obtain ⟨count, flushed⟩ := felled.flush_ok
  have home := home_of_felled excursion probe.names.slot?_eq ready.idle felled
  have gone := home.gone excursion List.mem_cons_self
  refine ⟨settled, ?_, home⟩
  unfold intoHandleOnce
  refine (runs_lift (Session.flush_idle control ready.idle)).bind ?_
  refine (runs_lift registered).bind ?_
  refine (runs_lift (takeHandle_ok probe.present)).bind ?_
  refine (runs_lift (takeHandle_ownerless once)).bind ?_
  refine (runs_lift (hostCounters_ok _)).bind ?_
  refine (runs_lift (dropOwner_ownerless control twice)).bind ?_
  refine (runs_lift (Session.flush_idle control idle)).bind ?_
  refine (runs_lift (hostCounters_ok _)).bind ?_
  refine (runs_lift (isDestroyed_ok owner _)).bind ?_
  refine (runs_lift felled.asked_ok).bind ?_
  refine (runs_lift flushed).bind ?_
  refine (runs_ensure probe.isValid _ _).bind ?_
  refine (runs_ensure (by simp [own]) _ _).bind ?_
  refine (runs_ensure (by simp [World.put]) _ _).bind ?_
  refine (runs_ensure (by simp [thrice]) _ _).bind ?_
  refine (runs_lift (isDestroyed_ok owner settled)).bind ?_
  exact runs_ensure (by simp [gone]) _ _

theorem reattach_passes (reaches : Reaches control 1) :
    Passes mode 1 (reattach control mode) (passage 1) := by
  intro world ready
  obtain ⟨owner, now, h, slot, registered, excursion, probe⟩ :=
    registerProbe_ok ready.fits ready.room ready.mode_eq []
  -- the handle moves from its owner to a new one
  have bare := get?_put probe.present (ownerless h.mode)
  have taken : (now.put owner.id (ownerless h.mode)).machine.host.rep h =
    .ok (.registration owner.id) := probe.rep_eq
  have again := get?_put bare { handle := h, object := .probe [] }
  have excursion := (excursion.put List.mem_cons_self probe.present (ownerless h.mode)).put
    List.mem_cons_self bare { handle := h, object := .probe [] }
  have probe' : Registered ((now.put owner.id (ownerless h.mode)).put owner.id
      { handle := h, object := .probe [] }) probeEntryName owner.id h slot [] :=
    ⟨again, probe.names⟩
  obtain ⟨dropped, settled, order, felled⟩ := dropOwner_felled reaches probe'.planted
    (excursion.fits ready.fits) (excursion.pending_eq.trans ready.idle)
    { id := owner.id, mode := h.mode } rfl
  obtain ⟨count, flushed⟩ := felled.flush_ok
  have home := home_of_felled excursion probe.names.slot?_eq ready.idle felled
  have gone := home.gone excursion List.mem_cons_self
  refine ⟨settled, ?_, home⟩
  unfold reattach
  refine (runs_lift (Session.flush_idle control ready.idle)).bind ?_
  refine (runs_lift registered).bind ?_
  refine (runs_lift (consumeOwner_ok control probe.present)).bind ?_
  refine (runs_lift (isDestroyed_ok owner _)).bind ?_
  refine (runs_ensure (by simp [bare]) _ _).bind ?_
  refine (repOf_ok taken).bind ?_
  refine (runs_lift (reattach_ok bare probe.isValid)).bind ?_
  refine Runs.bind (.holding () _ ?_ felled.asked_ok) ?_
  · refine (runs_lift (ownerHandle_ok again)).bind ?_
    exact runs_ensure (by simp) _ _
  · refine (runs_lift flushed).bind ?_
    refine (runs_lift (isDestroyed_ok _ settled)).bind ?_
    exact runs_ensure (by simp [gone]) _ _

/-! ## A parent and its children -/

theorem registerPair_ok {left right : Owner} (control : Control)
    (first : registerProbe mode [] world = .ok left asked)
    (second : registerProbe mode [] asked = .ok right after) :
    registerPair control mode world = .ok (left, right) after := by
  have kept : Script.onPanic (registerProbe mode []) (Session.dropOwner control left) asked =
      .ok right after := by
    simp only [Script.onPanic, second]
  unfold registerPair
  rw [Script.bind_ok first, Script.bind_ok kept]
  rfl

/-- A parent with two children can go down once all three are registered. -/
private theorem planted_family {parent left right : Owner} {top first second : Handle}
    {slot firstSlot secondSlot : Nat}
    (parentProbe : Registered world entryName parent.id top slot [left, right])
    (leftProbe : Registered world entryName left.id first firstSlot [])
    (rightProbe : Registered world entryName right.id second secondSlot [])
    (apart : [parent.id, left.id, right.id].Nodup) :
    Planted world
      [probeTree parent.id top [probeTree left.id first [], probeTree right.id second []]] where
  rooted tree inside := by
    have members : tree ∈ [probeTree parent.id top
        [probeTree left.id first [], probeTree right.id second []],
        probeTree left.id first [], probeTree right.id second []] := inside
    simp only [List.mem_cons, List.not_mem_nil, or_false] at members
    rcases members with rfl | rfl | rfl
    · exact parentProbe.rooted rfl
    · exact leftProbe.rooted rfl
    · exact rightProbe.rooted rfl
  nodup := apart

theorem nestedTeardown_passes (reaches : Reaches control 3) :
    Passes mode 3 (nestedTeardown control mode) (passage 3) := by
  intro world ready
  obtain ⟨left, one, first, firstSlot, leftRegistered, toOne, leftProbe⟩ :=
    registerProbe_ok ready.fits (ready.fewer (Nat.le_add_left 1 2)).room ready.mode_eq []
  obtain ⟨right, two, second, secondSlot, rightRegistered, toTwo, rightProbe⟩ :=
    registerProbe_ok (toOne.fits ready.fits)
      (toOne.hasRoom (ready.fewer (Nat.le_add_left 2 1)).room)
      ((toOne.mode_eq_iff _).2 ready.mode_eq) []
  have pair := toOne.trans toTwo
  obtain ⟨parent, three, top, slot, parentRegistered, toThree, parentProbe⟩ :=
    registerProbe_ok (pair.fits ready.fits) (pair.hasRoom ready.room)
      ((pair.mode_eq_iff _).2 ready.mode_eq) [left, right]
  have excursion := pair.trans toThree
  have leftProbe' := (leftProbe.keep toTwo).keep toThree
  have rightProbe' := rightProbe.keep toThree
  have apart : [parent.id, left.id, right.id].Nodup := by
    have leftRight := leftProbe.ne_of_fresh (toTwo.fresh right.id List.mem_cons_self)
    have leftParent :=
      (leftProbe.keep toTwo).ne_of_fresh (toThree.fresh parent.id List.mem_cons_self)
    have rightParent := rightProbe.ne_of_fresh (toThree.fresh parent.id List.mem_cons_self)
    simp [leftRight, leftParent.symm, rightParent.symm]
  have planted := planted_family parentProbe leftProbe' rightProbe' apart
  have idle := excursion.pending_eq.trans ready.idle
  obtain ⟨dropped, settled, order, felled⟩ :=
    dropOwner_felled reaches planted (excursion.fits ready.fits) idle parent rfl
  obtain ⟨count, flushed⟩ := felled.flush_ok
  have handles : [top.slot?, first.slot?, second.slot?].Perm
      ([firstSlot, secondSlot, slot].map some) := by
    rw [parentProbe.names.slot?_eq, leftProbe.names.slot?_eq, rightProbe.names.slot?_eq]
    exact @List.perm_append_comm _ [some slot] [some firstSlot, some secondSlot]
  have home := excursion.felled felled idle
    (@List.perm_append_comm _ [parent.id] [left.id, right.id]) handles
  refine ⟨settled, ?_, home⟩
  unfold nestedTeardown
  refine (runs_lift (Session.flush_idle control ready.idle)).bind ?_
  refine (runs_lift (liveHandles_ok world)).bind ?_
  refine (runs_lift (registerPair_ok control leftRegistered rightRegistered)).bind ?_
  refine (runs_lift parentRegistered).bind ?_
  refine Runs.bind (.keeping () three ?_) ?_
  · refine (runs_lift (liveHandles_ok three)).bind ?_
    exact runs_ensure (by simp [excursion.live]) _ _
  · refine (runs_lift (hostCounters_ok three)).bind ?_
    refine (runs_lift felled.asked_ok).bind ?_
    refine (runs_lift flushed).bind ?_
    refine (runs_lift (hostCounters_ok settled)).bind ?_
    refine (runs_lift (isDestroyed_ok parent settled)).bind ?_
    refine (runs_lift (isDestroyed_ok left settled)).bind ?_
    refine (runs_lift (isDestroyed_ok right settled)).bind ?_
    refine (runs_ensure ?_ _ _).bind ?_
    · simp [home.gone excursion]
    refine (runs_ensure ?_ _ _).bind ?_
    · simp [home.counters_eq, excursion.counters_eq, Host.Counters.plus]
    refine (runs_lift (liveHandles_ok settled)).bind ?_
    exact runs_ensure (by simp [home.live]) _ _

end Custody.Audit
