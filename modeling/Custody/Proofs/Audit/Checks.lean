import Mathlib.Data.List.Nodup
import Custody.Audit.Run

/-!
# The checks of a report

A good result for a name that has a check already changes nothing, and for a new one it adds a check
at the end. So the checks of an audit without a bad result are the names of its scenarios, each where
it first came up, however often the scenarios were run.
-/

set_option autoImplicit false

namespace Custody.Audit

open Session (Control)

/-! ## Names in order -/

/-- Adds a name at the end if it is new. -/
def enlist (listed : List String) (name : String) : List String :=
  if name ∈ listed then listed else listed ++ [name]

theorem record_ok (name : String) (iteration : Nat) (listed : List String) :
    record name iteration (.ok ()) (listed.map Check.fresh) =
      (enlist listed name).map Check.fresh := by
  induction listed with
  | nil => rfl
  | cons first rest ih =>
      rw [List.map_cons, record, ih]
      unfold enlist
      by_cases same : first = name
      · simp [same, Check.fresh, Check.add]
      · by_cases known : name ∈ rest <;> simp [known, same, Ne.symm same, Check.fresh]

theorem nodup_enlist {listed : List String} (nodup : listed.Nodup) (name : String) :
    (enlist listed name).Nodup := by
  unfold enlist
  split
  · exact nodup
  · rename_i new
    simpa using List.nodup_append.2 ⟨nodup, List.nodup_singleton name, fun other old next last => by
      rintro rfl
      exact new (List.mem_singleton.1 last ▸ old)⟩

theorem foldl_enlist (names listed : List String) :
    names.foldl enlist listed = listed ++ (names.filter (· ∉ listed)).eraseDups := by
  induction names generalizing listed with
  | nil => simp
  | cons name names ih =>
      rw [List.foldl_cons, ih]
      unfold enlist
      by_cases known : name ∈ listed
      · simp [known]
      · simp only [known, if_false, List.filter_cons, not_false_eq_true, decide_true, if_true,
          List.eraseDups_cons, List.append_assoc, List.singleton_append, List.filter_filter]
        refine congrArg (fun rest => listed ++ name :: List.eraseDups rest)
          (List.filter_congr fun other _ => ?_)
        simp [and_comm, beq_eq_decide]

theorem nodup_foldl_enlist (names : List String) {listed : List String} (nodup : listed.Nodup) :
    (names.foldl enlist listed).Nodup := by
  induction names generalizing listed with
  | nil => exact nodup
  | cons name names ih => exact ih (nodup_enlist nodup name)

theorem foldl_enlist_of_subset {names listed : List String} (known : names ⊆ listed) :
    names.foldl enlist listed = listed := by
  have none : names.filter (· ∉ listed) = [] := by
    rw [List.filter_eq_nil_iff]
    intro name member
    simpa using known member
  rw [foldl_enlist, none, List.eraseDups_nil, List.append_nil]

theorem subset_foldl_enlist (names listed : List String) : names ⊆ names.foldl enlist listed := by
  intro name member
  rw [foldl_enlist, List.mem_append]
  by_cases known : name ∈ listed
  · exact .inl known
  · refine .inr ?_
    rw [List.mem_eraseDups, List.mem_filter]
    exact ⟨member, by simp [known]⟩

/-! ## Names of scenarios -/

def ownChecks : List String :=
  [ "buffer.copy_from_view", "buffer.move", "buffer.leak", "vector.elements",
    "export.registration", "export.drop_once", "export.into_handle_once", "export.reattach",
    "export.nested_teardown" ]

def releaseCheck (name : String) : String := "import." ++ name ++ ".release"

def transferCheck (name : String) : String := "import." ++ name ++ ".transfer"

def importChecks (name : String) : List String := [releaseCheck name, transferCheck name]

def checkNames (imports : List ImportEntry) : List String :=
  ownChecks ++ (imports.map (·.name)).eraseDups.flatMap importChecks ++
    ["import.assign_over_live", "host.no_leaks"]

theorem map_scenarios (control : Control) (mode : Mode) (payload : List UInt8)
    (imports : List ImportEntry) :
    (scenarios control mode payload imports).map Prod.fst =
      ownChecks ++ (imports.map (·.name)).flatMap importChecks ++ ["import.assign_over_live"] := by
  unfold scenarios
  rw [List.map_append, List.map_append, List.map_flatMap, List.flatMap_map]
  rfl

private theorem initial_importChecks {name check : String} (member : check ∈ importChecks name) :
    check.toList.head? = some 'i' := by
  simp only [importChecks, List.mem_cons, List.not_mem_nil, or_false] at member
  rcases member with rfl | rfl <;> simp [releaseCheck, transferCheck]

private theorem ownChecks_initial {check : String} (own : check ∈ ownChecks) :
    check.toList.head? ≠ some 'i' := by
  revert check
  decide

private theorem importChecks_ne_assign {name check : String} (member : check ∈ importChecks name) :
    check ≠ "import.assign_over_live" := by
  intro same
  have last := congrArg (fun text : String => text.toList.reverse[1]?) same
  simp only [importChecks, List.mem_cons, List.not_mem_nil, or_false] at member
  rcases member with rfl | rfl <;> simp [releaseCheck, transferCheck] at last

private theorem release_ne_transfer (name other : String) :
    releaseCheck name ≠ transferCheck other := by
  intro same
  have last := congrArg (fun text : String => text.toList.reverse[0]?) same
  simp [releaseCheck, transferCheck] at last

private theorem importCheck_inj {front back name other : String}
    (same : front ++ name ++ back = front ++ other ++ back) : name = other := by
  have chars := congrArg String.toList same
  simp only [String.toList_append, List.append_cancel_right_eq, List.append_cancel_left_eq] at chars
  exact String.toList_inj.1 chars

private theorem filter_flatMap_importChecks (name : String) (names : List String) :
    (names.flatMap importChecks).filter (· ∉ importChecks name) =
      (names.filter (! · == name)).flatMap importChecks := by
  induction names with
  | nil => rfl
  | cons first rest ih =>
      rw [List.flatMap_cons, List.filter_append, ih, List.filter_cons]
      by_cases same : first = name
      · subst same
        simp [importChecks]
      · have apart : ∀ check ∈ importChecks first, check ∉ importChecks name := by
          intro check member other
          simp only [importChecks, List.mem_cons, List.not_mem_nil, or_false] at member other
          rcases member with rfl | rfl <;> rcases other with shared | shared
          · exact same (importCheck_inj shared)
          · exact release_ne_transfer _ _ shared
          · exact release_ne_transfer _ _ shared.symm
          · exact same (importCheck_inj shared)
        rw [List.filter_eq_self.2 (by simpa using apart)]
        simp [same]

/-- A resource that is named twice has its checks once. -/
theorem eraseDups_flatMap_importChecks :
    ∀ names : List String,
      (names.flatMap importChecks).eraseDups = names.eraseDups.flatMap importChecks
  | [] => rfl
  | name :: names => by
      have fewer : (names.filter (! · == name)).length < names.length + 1 :=
        Nat.lt_succ_of_le (List.length_filter_le _ _)
      have ih := eraseDups_flatMap_importChecks (names.filter (! · == name))
      have others :
          ((names.flatMap importChecks).filter (! · == releaseCheck name)).filter
              (! · == transferCheck name) =
            (names.filter (! · == name)).flatMap importChecks := by
        rw [← filter_flatMap_importChecks, List.filter_filter]
        refine List.filter_congr fun other _ => ?_
        simp [importChecks, beq_eq_decide, Bool.and_comm]
      have apart : (transferCheck name == releaseCheck name) = false :=
        beq_false_of_ne (release_ne_transfer name name).symm
      calc
        ((name :: names).flatMap importChecks).eraseDups
        _ = (releaseCheck name :: transferCheck name :: names.flatMap importChecks).eraseDups := rfl
        _ = releaseCheck name :: transferCheck name ::
              ((names.filter (! · == name)).flatMap importChecks).eraseDups := by
          rw [List.eraseDups_cons, List.filter_cons_of_pos (by rw [apart]; rfl),
            List.eraseDups_cons, others]
        _ = (name :: names).eraseDups.flatMap importChecks := by
          rw [ih, List.eraseDups_cons, List.flatMap_cons]
          rfl
termination_by names => names.length

/-- The checks of the scenarios, which are all but the last one. -/
def scenarioNames (imports : List ImportEntry) : List String :=
  ownChecks ++ (imports.map (·.name)).eraseDups.flatMap importChecks ++ ["import.assign_over_live"]

theorem checkNames_eq (imports : List ImportEntry) :
    checkNames imports = scenarioNames imports ++ ["host.no_leaks"] := by
  rw [checkNames, scenarioNames, List.append_assoc _ _ ["host.no_leaks"]]
  rfl

/-- The names of the scenarios, each where it first comes up. -/
theorem foldl_scenarios (control : Control) (mode : Mode) (payload : List UInt8)
    (imports : List ImportEntry) :
    ((scenarios control mode payload imports).map Prod.fst).foldl enlist [] =
      scenarioNames imports := by
  have own : ownChecks.foldl enlist [] = ownChecks := by decide
  have imported : ((imports.map (·.name)).flatMap importChecks).foldl enlist ownChecks =
      ownChecks ++ (imports.map (·.name)).eraseDups.flatMap importChecks := by
    rw [foldl_enlist, List.filter_eq_self.2, eraseDups_flatMap_importChecks]
    intro check member
    obtain ⟨name, -, member⟩ := List.mem_flatMap.1 member
    simpa using fun known => ownChecks_initial known (initial_importChecks member)
  have assign : "import.assign_over_live" ∉
      ownChecks ++ (imports.map (·.name)).eraseDups.flatMap importChecks := by
    rw [List.mem_append, not_or]
    refine ⟨by decide, fun member => ?_⟩
    obtain ⟨name, -, member⟩ := List.mem_flatMap.1 member
    exact importChecks_ne_assign member rfl
  rw [map_scenarios, List.foldl_append, List.foldl_append, own, imported, List.foldl_cons,
    List.foldl_nil, enlist, if_neg assign, scenarioNames]

theorem leaks_notMem_scenarioNames (imports : List ImportEntry) :
    "host.no_leaks" ∉ scenarioNames imports := by
  rw [scenarioNames, List.mem_append, List.mem_append, not_or, not_or]
  refine ⟨⟨by decide, fun member => ?_⟩, by decide⟩
  obtain ⟨name, -, member⟩ := List.mem_flatMap.1 member
  have initial := initial_importChecks member
  revert initial
  decide

theorem enlisted_scenarios (control : Control) (mode : Mode) (payload : List UInt8)
    (imports : List ImportEntry) :
    enlist (((scenarios control mode payload imports).map Prod.fst).foldl enlist [])
      "host.no_leaks" = checkNames imports := by
  rw [foldl_scenarios, enlist, if_neg (leaks_notMem_scenarioNames imports), checkNames_eq]

theorem nodup_checkNames (imports : List ImportEntry) : (checkNames imports).Nodup := by
  have control : Control := { runDestructor := fun _ => pure (), flushBound := 0 }
  rw [← enlisted_scenarios control .integer [] imports]
  exact nodup_enlist (nodup_foldl_enlist _ List.nodup_nil) _

end Custody.Audit
