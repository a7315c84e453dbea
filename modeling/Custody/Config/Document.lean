import Custody.Config.Basic
import Custody.Document.Reader

/-!
# Configurations as documents

Every part of a configuration is written as a mapping of its fields and read back from one, with a
default for each absent field except the name of an import. Reading what was written gives the
configuration back.
-/

set_option autoImplicit false

namespace Custody

open Document (Dialect Reader RecordType readNatural readSequence readText readVariant)

namespace Mode

def variants : List (String × Mode) :=
  [("integer", .integer), ("pointer", .pointer)]

def read (dialect : Dialect) : Reader Mode := readVariant dialect variants

def toDocument (mode : Mode) : Document := .text mode.name

end Mode

namespace Timing

def variants : List (String × Timing) :=
  [("immediate", .immediate), ("deferred", .deferred)]

def read (dialect : Dialect) : Reader Timing := readVariant dialect variants

def toDocument (timing : Timing) : Document := .text timing.name

end Timing

namespace HostConfig

def recordType (dialect : Dialect) : RecordType HostConfig where
  name := "HostConfig"
  fields :=
    [ { name := "handle_mode"
        required := false
        assign := fun item config => do
          return { config with mode := ← Mode.read dialect item } },
      { name := "max_handles"
        required := false
        assign := fun item config => do
          return { config with maxHandles := .ofNat (← readNatural UInt64.size "usize" item) } },
      { name := "destructor_timing"
        required := false
        assign := fun item config => do
          return { config with timing := ← Timing.read dialect item } } ]
  blank := {}

def read (dialect : Dialect) : Reader HostConfig := (recordType dialect).read dialect

def toDocument (config : HostConfig) : Document :=
  .mapping
    [ ("handle_mode", config.mode.toDocument),
      ("max_handles", .natural config.maxHandles.toNat),
      ("destructor_timing", config.timing.toDocument) ]

end HostConfig

namespace AuditConfig

def recordType : RecordType AuditConfig where
  name := "AuditConfig"
  fields :=
    [ { name := "iterations"
        required := false
        assign := fun item config => do
          return { config with iterations := .ofNat (← readNatural UInt32.size "u32" item) } },
      { name := "payload"
        required := false
        assign := fun item config => do
          return { config with payload := ← readText item } } ]
  blank := {}

def read (dialect : Dialect) : Reader AuditConfig := recordType.read dialect

def toDocument (config : AuditConfig) : Document :=
  .mapping
    [ ("iterations", .natural config.iterations.toNat),
      ("payload", .text config.payload) ]

end AuditConfig

namespace ImportEntry

def recordType : RecordType ImportEntry where
  name := "ImportEntry"
  fields :=
    [ { name := "name"
        required := true
        assign := fun item entry => do
          return { entry with name := ← readText item } } ]
  blank := { name := "" }

def read (dialect : Dialect) : Reader ImportEntry := recordType.read dialect

def toDocument (entry : ImportEntry) : Document :=
  .mapping [("name", .text entry.name)]

end ImportEntry

namespace Config

def recordType (dialect : Dialect) : RecordType Config where
  name := "ConfigFile"
  fields :=
    [ { name := "host"
        required := false
        assign := fun item config => do
          return { config with host := ← HostConfig.read dialect item } },
      { name := "audit"
        required := false
        assign := fun item config => do
          return { config with audit := ← AuditConfig.read dialect item } },
      { name := "imports"
        required := false
        assign := fun item config => do
          return { config with imports := ← readSequence (ImportEntry.read dialect) item } } ]
  blank := {}

def read (dialect : Dialect) : Reader Config := (recordType dialect).read dialect

def toDocument (config : Config) : Document :=
  .mapping
    [ ("host", config.host.toDocument),
      ("audit", config.audit.toDocument),
      ("imports", .sequence (config.imports.map ImportEntry.toDocument)) ]

end Config

end Custody
