import Custody.Config.Document
import Custody.Proofs.Document.Records

/-!
# Configurations that are told again

A configuration is written as a mapping of mappings. Whatever of it is told again, with fields left out,
in another order, among entries that mean nothing here, or as sequences of values, is read as the same
configuration with a default for each field that was left out. So what is written of a configuration that
was read is read as that configuration, and writing it again changes nothing.
-/

set_option autoImplicit false

namespace Custody

open Document (Account Dialect RecordType Retold readNatural readSequence readSequence_of_ok)

variable {kept : String → Bool} {d : Document}

/-! ## Single values -/

theorem Document.readNatural_natural {n limit : Nat} (small : n < limit) (expected : String) :
    readNatural limit expected (.natural n) = .ok n := by
  have inside : 0 ≤ (n : Int) ∧ (n : Int) < (limit : Int) := by omega
  exact if_pos inside

theorem Mode.read_toDocument (dialect : Dialect) (mode : Mode) :
    Mode.read dialect mode.toDocument = .ok mode := by
  cases mode <;> rfl

theorem Timing.read_toDocument (dialect : Dialect) (timing : Timing) :
    Timing.read dialect timing.toDocument = .ok timing := by
  cases timing <;> rfl

/-! ## The host -/

namespace HostConfig

/-- The settings that are kept, and the defaults of the others. -/
def keeping (kept : String → Bool) (config : HostConfig) : HostConfig where
  mode := if kept "handle_mode" then config.mode else .integer
  maxHandles := if kept "max_handles" then config.maxHandles else 1024
  timing := if kept "destructor_timing" then config.timing else .immediate

@[simp]
theorem keeping_all (config : HostConfig) : config.keeping (fun _ => true) = config := rfl

theorem fields_optional (dialect : Dialect) :
    ∀ field ∈ (recordType dialect).fields, field.required = false := by
  simp [recordType]

def accounts (dialect : Dialect) (config : HostConfig) : (recordType dialect).Accounts where
  all :=
    [ { field := (recordType dialect).fields.get ⟨0, Nat.zero_lt_succ 2⟩
        value := config.mode.toDocument
        put := fun record => { record with mode := config.mode }
        assign_eq := fun record => by
          change (do return { record with mode := ← Mode.read dialect config.mode.toDocument }) = _
          rw [Mode.read_toDocument]
          rfl },
      { field := (recordType dialect).fields.get ⟨1, Nat.one_lt_succ_succ 1⟩
        value := .natural config.maxHandles.toNat
        put := fun record => { record with maxHandles := config.maxHandles }
        assign_eq := fun record => by
          change (do
            return { record with
              maxHandles := .ofNat (← readNatural UInt64.size "usize"
                (.natural config.maxHandles.toNat)) }) = _
          rw [Document.readNatural_natural config.maxHandles.toNat_lt_size]
          simp [bind, Except.bind, pure, Except.pure] },
      { field := (recordType dialect).fields.get ⟨2, Nat.lt_succ_self 2⟩
        value := config.timing.toDocument
        put := fun record => { record with timing := config.timing }
        assign_eq := fun record => by
          change (do
            return { record with timing := ← Timing.read dialect config.timing.toDocument }) = _
          rw [Timing.read_toDocument]
          rfl } ]
  fields_eq := rfl
  names_nodup := by
    change ["handle_mode", "max_handles", "destructor_timing"].Nodup
    decide
  commute := by
    simp only [List.mem_cons, List.not_mem_nil, or_false]
    rintro first (rfl | rfl | rfl) second (rfl | rfl | rfl) record <;> rfl

theorem keeping_accounts (dialect : Dialect) (config : HostConfig) (kept : String → Bool) :
    (accounts dialect config).keeping kept = config.keeping kept := by
  unfold RecordType.Accounts.keeping
  rw [List.foldl_filter]
  simp only [accounts, List.foldl_cons, List.foldl_nil, Account.name]
  cases mode : kept "handle_mode" <;> cases room : kept "max_handles" <;>
    cases timing : kept "destructor_timing" <;>
      simp [HostConfig.keeping, recordType, mode, room, timing]

theorem read_retold {config : HostConfig} (dialect : Dialect)
    (retold : Retold kept config.toDocument d) :
    HostConfig.read dialect d = .ok (config.keeping kept) := by
  rw [← keeping_accounts dialect]
  exact (accounts dialect config).read_retold_of_optional retold (fields_optional dialect) dialect

end HostConfig

/-! ## The audit -/

namespace AuditConfig

def keeping (kept : String → Bool) (config : AuditConfig) : AuditConfig where
  iterations := if kept "iterations" then config.iterations else 4
  payload := if kept "payload" then config.payload else "hello"

@[simp]
theorem keeping_all (config : AuditConfig) : config.keeping (fun _ => true) = config := rfl

theorem fields_optional : ∀ field ∈ recordType.fields, field.required = false := by
  simp [recordType]

def accounts (config : AuditConfig) : recordType.Accounts where
  all :=
    [ { field := recordType.fields.get ⟨0, Nat.zero_lt_succ 1⟩
        value := .natural config.iterations.toNat
        put := fun record => { record with iterations := config.iterations }
        assign_eq := fun record => by
          change (do
            return { record with
              iterations := .ofNat (← readNatural UInt32.size "u32"
                (.natural config.iterations.toNat)) }) = _
          rw [Document.readNatural_natural config.iterations.toNat_lt_size]
          simp [bind, Except.bind, pure, Except.pure] },
      { field := recordType.fields.get ⟨1, Nat.lt_succ_self 1⟩
        value := .text config.payload
        put := fun record => { record with payload := config.payload }
        assign_eq := fun _ => rfl } ]
  fields_eq := rfl
  names_nodup := by
    change ["iterations", "payload"].Nodup
    decide
  commute := by
    simp only [List.mem_cons, List.not_mem_nil, or_false]
    rintro first (rfl | rfl) second (rfl | rfl) record <;> rfl

theorem keeping_accounts (config : AuditConfig) (kept : String → Bool) :
    config.accounts.keeping kept = config.keeping kept := by
  unfold RecordType.Accounts.keeping
  rw [List.foldl_filter]
  simp only [accounts, List.foldl_cons, List.foldl_nil, Account.name]
  cases iterations : kept "iterations" <;> cases payload : kept "payload" <;>
    simp [AuditConfig.keeping, recordType, iterations, payload]

theorem read_retold {config : AuditConfig} (dialect : Dialect)
    (retold : Retold kept config.toDocument d) :
    AuditConfig.read dialect d = .ok (config.keeping kept) := by
  rw [← keeping_accounts]
  exact config.accounts.read_retold_of_optional retold fields_optional dialect

end AuditConfig

/-! ## Imports -/

namespace ImportEntry

def accounts (entry : ImportEntry) : recordType.Accounts where
  all :=
    [ { field := recordType.fields.get ⟨0, Nat.zero_lt_succ 0⟩
        value := .text entry.name
        put := fun record => { record with name := entry.name }
        assign_eq := fun _ => rfl } ]
  fields_eq := rfl
  names_nodup := List.nodup_singleton _
  commute := by
    simp only [List.mem_singleton]
    rintro first rfl second rfl record
    rfl

theorem read_retold {entry : ImportEntry} (dialect : Dialect)
    (retold : Retold (fun _ => true) entry.toDocument d) :
    ImportEntry.read dialect d = .ok entry :=
  entry.accounts.read_retold retold (fun _ _ _ => rfl) dialect

end ImportEntry

/-! ## Configurations -/

namespace Config

/-- Which keys of a configuration are told: at the top, and inside its parts. -/
structure Kept where
  top : String → Bool
  host : String → Bool
  audit : String → Bool

/-- What is kept of a configuration, with the defaults of all that is left out. -/
def keeping (kept : Kept) (config : Config) : Config where
  host :=
    if kept.top "host" then config.host.keeping kept.host
    else { mode := .integer, maxHandles := 1024, timing := .immediate }
  audit :=
    if kept.top "audit" then config.audit.keeping kept.audit
    else { iterations := 4, payload := "hello" }
  imports := if kept.top "imports" then config.imports else []

theorem keeping_all (config : Config) :
    config.keeping ⟨fun _ => true, fun _ => true, fun _ => true⟩ = config := by
  simp [keeping]

/-- A document that tells what is kept of a configuration. Its parts are told again each in a way of its
own, and imports without leaving anything out. -/
inductive Retells (config : Config) (kept : Kept) : Document → Prop where
  | parts {host audit d : Document} {imports : List Document}
      (hostRetold : Retold kept.host config.host.toDocument host)
      (auditRetold : Retold kept.audit config.audit.toDocument audit)
      (importsRetold : List.Forall₂
        (fun entry item => Retold (fun _ => true) (ImportEntry.toDocument entry) item)
        config.imports imports)
      (retold : Retold kept.top
        (.mapping [("host", host), ("audit", audit), ("imports", .sequence imports)]) d) :
      Retells config kept d

theorem fields_optional (dialect : Dialect) :
    ∀ field ∈ (recordType dialect).fields, field.required = false := by
  simp [recordType]

section Parts

variable {dialect : Dialect} {host audit imports : Document} {hostRead : HostConfig}
  {auditRead : AuditConfig} {importsRead : List ImportEntry}

def accounts (fromHost : HostConfig.read dialect host = .ok hostRead)
    (fromAudit : AuditConfig.read dialect audit = .ok auditRead)
    (fromImports : readSequence (ImportEntry.read dialect) imports = .ok importsRead) :
    (recordType dialect).Accounts where
  all :=
    [ { field := (recordType dialect).fields.get ⟨0, Nat.zero_lt_succ 2⟩
        value := host
        put := fun record => { record with host := hostRead }
        assign_eq := fun record => by
          change (do return { record with host := ← HostConfig.read dialect host }) = _
          rw [fromHost]
          rfl },
      { field := (recordType dialect).fields.get ⟨1, Nat.one_lt_succ_succ 1⟩
        value := audit
        put := fun record => { record with audit := auditRead }
        assign_eq := fun record => by
          change (do return { record with audit := ← AuditConfig.read dialect audit }) = _
          rw [fromAudit]
          rfl },
      { field := (recordType dialect).fields.get ⟨2, Nat.lt_succ_self 2⟩
        value := imports
        put := fun record => { record with imports := importsRead }
        assign_eq := fun record => by
          change (do
            return { record with
              imports := ← readSequence (ImportEntry.read dialect) imports }) = _
          rw [fromImports]
          rfl } ]
  fields_eq := rfl
  names_nodup := by
    change ["host", "audit", "imports"].Nodup
    decide
  commute := by
    simp only [List.mem_cons, List.not_mem_nil, or_false]
    rintro first (rfl | rfl | rfl) second (rfl | rfl | rfl) record <;> rfl

/-- Parts that are kept are what was read from them, and the others are the defaults. -/
theorem read_of_parts (fromHost : HostConfig.read dialect host = .ok hostRead)
    (fromAudit : AuditConfig.read dialect audit = .ok auditRead)
    (fromImports : readSequence (ImportEntry.read dialect) imports = .ok importsRead)
    (retold : Retold kept (.mapping [("host", host), ("audit", audit), ("imports", imports)]) d) :
    Config.read dialect d = .ok
      { host := if kept "host" then hostRead else {}
        audit := if kept "audit" then auditRead else {}
        imports := if kept "imports" then importsRead else [] } := by
  have read := (accounts fromHost fromAudit fromImports).read_retold_of_optional retold
    (fields_optional dialect) dialect
  refine read.trans (congrArg Except.ok ?_)
  unfold RecordType.Accounts.keeping
  rw [List.foldl_filter]
  simp only [accounts, List.foldl_cons, List.foldl_nil, Account.name]
  cases host : kept "host" <;> cases audit : kept "audit" <;> cases imports : kept "imports" <;>
    simp [recordType, host, audit, imports]

end Parts

theorem Retells.read {config : Config} {kept : Kept} (retells : config.Retells kept d)
    (dialect : Dialect) : Config.read dialect d = .ok (config.keeping kept) := by
  obtain ⟨hostRetold, auditRetold, importsRetold, retold⟩ := retells
  exact read_of_parts (HostConfig.read_retold dialect hostRetold)
    (AuditConfig.read_retold dialect auditRetold)
    (readSequence_of_ok (importsRetold.imp fun _ _ entryRetold =>
      ImportEntry.read_retold dialect entryRetold)) retold

theorem retells_toDocument (config : Config) :
    config.Retells ⟨fun _ => true, fun _ => true, fun _ => true⟩ config.toDocument := by
  refine .parts (.refl fun _ _ => rfl) (.refl fun _ _ => rfl) ?_ (.refl fun _ _ => rfl)
  rw [List.forall₂_map_right_iff, List.forall₂_same]
  exact fun _ _ => .refl fun _ _ => rfl

theorem read_toDocument (dialect : Dialect) (config : Config) :
    Config.read dialect config.toDocument = .ok config := by
  rw [(retells_toDocument config).read, keeping_all]

/-- Reads a document and writes the configuration again. -/
def rewritten (d : Document) : Except Document.ReadError Document := do
  return (← Config.read .json d).toDocument

theorem rewritten_eq_ok {d written : Document} (rewrote : rewritten d = .ok written) :
    ∃ config, Config.read .json d = .ok config ∧ written = config.toDocument := by
  unfold rewritten at rewrote
  cases read : Config.read .json d with
  | error error =>
      rw [read] at rewrote
      cases rewrote
  | ok config =>
      rw [read] at rewrote
      cases rewrote
      exact ⟨config, rfl, rfl⟩

theorem rewritten_toDocument (config : Config) :
    rewritten config.toDocument = .ok config.toDocument := by
  rw [rewritten, read_toDocument]
  rfl

/-- A configuration survives being written and read, and what is left out of it becomes the default. So
what was read once is written in one way. -/
theorem survives_json (config : Config) :
    Config.read .json config.toDocument = .ok config ∧
      (∀ (kept : Kept) (d : Document), config.Retells kept d →
        Config.read .json d = .ok (config.keeping kept)) ∧
      ∀ d written : Document, rewritten d = .ok written → rewritten written = .ok written := by
  refine ⟨read_toDocument .json config, fun kept d retells => retells.read .json, ?_⟩
  intro d written rewrote
  obtain ⟨other, -, rfl⟩ := rewritten_eq_ok rewrote
  exact rewritten_toDocument other

/-- The first settings of the host as a sequence, an import as a sequence too, no audit, and a remark. -/
theorem survives_json_abridged :
    let config : Config :=
      { host := { mode := .pointer, maxHandles := 0xFFFFFFFFFFFFFFFF, timing := .deferred }
        audit := { iterations := 0, payload := "" }
        imports := [⟨"clock"⟩, ⟨"logger"⟩] }
    let kept : Kept := ⟨(· != "audit"), (· != "destructor_timing"), fun _ => true⟩
    let d : Document :=
      .mapping
        [ ("imports", .sequence
            [ .sequence [.text "clock"],
              .mapping [("host", .null), ("name", .text "logger")] ]),
          ("remark", .mapping []),
          ("host", .sequence [.text "pointer", .natural 0xFFFFFFFFFFFFFFFF]) ]
    config.Retells kept d ∧
      Config.read .json d = .ok
        { host := { mode := .pointer, maxHandles := 0xFFFFFFFFFFFFFFFF, timing := .immediate }
          audit := { iterations := 4, payload := "hello" }
          imports := [⟨"clock"⟩, ⟨"logger"⟩] } := by
  intro config kept d
  have host : Retold kept.host config.host.toDocument
      (.sequence [.text "pointer", .natural 0xFFFFFFFFFFFFFFFF]) := by
    refine .sequence
      [("handle_mode", .text "pointer"), ("max_handles", .natural 0xFFFFFFFFFFFFFFFF)]
      [("destructor_timing", .text "deferred")] ?_ ?_
    all_goals simp [kept]
  have clock : Retold (fun _ => true) (ImportEntry.toDocument ⟨"clock"⟩)
      (.sequence [.text "clock"]) :=
    .sequence [("name", .text "clock")] [] (fun _ _ => rfl) nofun
  have logger : Retold (fun _ => true) (ImportEntry.toDocument ⟨"logger"⟩)
      (.mapping [("host", .null), ("name", .text "logger")]) :=
    .mapping [("host", .null)] (by simp) (.swap _ _ _)
  have retells : config.Retells kept d := by
    refine .parts host (.refl fun _ _ => rfl) (.cons clock (.cons logger .nil)) ?_
    exact .mapping [("remark", .mapping [])] (by simp) (List.perm_append_singleton _ [_, _])
  exact ⟨retells, (survives_json config).2.1 kept d retells⟩

end Config

end Custody
