import Custody.Decimal.Notation
import Custody.Document.Basic
import Custody.Text.Quoted

/-!
# Reading typed values from documents

A document is read against a type: a bounded number, a text, one of several named variants, a
sequence, or a record with named fields. Entries of a record are read in the order in which they are
written, so the first wrong one is reported; fields that are absent come last. A record may also be
given as the sequence of its fields in declaration order. Unknown entries are skipped.

Two notations differ in what they admit and in how they show a float; `Dialect` names them.
-/

set_option autoImplicit false

namespace Custody.Document

inductive Dialect where
  | json
  | toml
deriving DecidableEq

def Dialect.floatText : Dialect → Float → String
  | .json => Decimal.write .compact
  | .toml => Decimal.write .plain

/-- Why a document does not have the type asked for. -/
inductive ReadError where
  | invalidType (found : Document) (expected : String)
  | invalidValue (found : Document) (expected : String)
  | invalidLength (length : Nat) (expected : String)
  | unknownVariant (found : String) (known : List String)
  | missingField (name : String)
  /-- A variant that is given neither by its name nor as a table that holds only it. -/
  | malformedVariant (reason : String)

def finding (dialect : Dialect) : Document → String
  | .null => "null"
  | .boolean value => "boolean `" ++ (if value then "true" else "false") ++ "`"
  | .integer value => "integer `" ++ toString value ++ "`"
  | .float value => "floating point `" ++ dialect.floatText value ++ "`"
  | .text value => "string " ++ Text.quote value
  | .sequence _ => "sequence"
  | .mapping _ | .moment => "map"

def variantList (known : List String) : String :=
  let shown := known.map fun name => "`" ++ name ++ "`"
  match shown with
  | [] => "no variants"
  | [one] => one
  | [one, other] => one ++ " or " ++ other
  | many => "one of " ++ String.intercalate ", " many

def ReadError.message (dialect : Dialect) : ReadError → String
  | .invalidType found expected =>
      "invalid type: " ++ found.finding dialect ++ ", expected " ++ expected
  | .invalidValue found expected =>
      "invalid value: " ++ found.finding dialect ++ ", expected " ++ expected
  | .invalidLength length expected =>
      "invalid length " ++ toString length ++ ", expected " ++ expected
  | .unknownVariant found known =>
      "unknown variant `" ++ found ++ "`, expected " ++ variantList known
  | .missingField name => "missing field `" ++ name ++ "`"
  | .malformedVariant reason => reason

abbrev Reader (α : Type) := Document → Except ReadError α

def readNatural (limit : Nat) (expected : String) : Reader Nat
  | .integer value =>
      if 0 ≤ value ∧ value < limit then .ok value.toNat
      else .error (.invalidValue (.integer value) expected)
  | found => .error (.invalidType found expected)

def readText : Reader String
  | .text value => .ok value
  | found => .error (.invalidType found "a string")

def readSequence {α : Type} (item : Reader α) : Reader (List α)
  | .sequence items => items.mapM item
  | found => .error (.invalidType found "a sequence")

def variantNamed {α : Type} (variants : List (String × α)) (name : String) : Except ReadError α :=
  match variants.lookup name with
  | some value => .ok value
  | none => .error (.unknownVariant name (variants.map Prod.fst))

/-- Reads one of several variants without content. It is given by its name, or as a mapping from its
name to nothing: null in JSON, an empty table or array in TOML. -/
def readVariant {α : Type} (dialect : Dialect) (variants : List (String × α)) : Reader α
  | .text name => variantNamed variants name
  | found =>
      match dialect, found with
      | .json, .mapping [(name, content)] => do
          let value ← variantNamed variants name
          match content with
          | .null => .ok value
          | content => .error (.invalidType content "unit")
      | .json, .mapping entries =>
          .error (.invalidValue (.mapping entries) "map with a single key")
      | .json, found => .error (.invalidType found "string or map")
      | .toml, .mapping [(name, content)] => do
          let value ← variantNamed variants name
          match content with
          | .mapping [] | .sequence [] => .ok value
          | .mapping _ | .sequence _ => .error (.malformedVariant "expected empty table")
          | _ => .error (.malformedVariant "expected table")
      | .toml, .mapping _ => .error (.malformedVariant "wanted exactly 1 element")
      | .toml, _ => .error (.malformedVariant "wanted string or table")

/-- A field of a record type: its name, whether it must be there, and how its value is read into a
record. -/
structure Field (α : Type) where
  name : String
  required : Bool
  assign : Document → α → Except ReadError α

/-- A record type: its name, its fields in declaration order, and the record to which the values
that are read are assigned. -/
structure RecordType (α : Type) where
  name : String
  fields : List (Field α)
  blank : α

variable {α : Type}

/-- Assigns one entry of a mapping; an entry that is no field of the record is skipped. -/
def RecordType.assignEntry (type : RecordType α) (record : α) (entry : String × Document) :
    Except ReadError α :=
  match type.fields.find? (·.name == entry.1) with
  | some field => field.assign entry.2 record
  | none => .ok record

def RecordType.readEntries (type : RecordType α) (entries : List (String × Document)) :
    Except ReadError α := do
  let record ← entries.foldlM type.assignEntry type.blank
  match type.fields.find? fun field => field.required && !entries.any (·.1 == field.name) with
  | some field => .error (.missingField field.name)
  | none => .ok record

def RecordType.lengthText (type : RecordType α) : String :=
  let count := type.fields.length
  "struct " ++ type.name ++ " with " ++ toString count ++
    (if count = 1 then " element" else " elements")

/-- Reads a record from a sequence of its fields. Fields at the end may be left out unless they are
required; JSON refuses items beyond the last field. -/
def RecordType.readItems (type : RecordType α) (dialect : Dialect) (items : List Document) :
    Except ReadError α := do
  let record ← (type.fields.zip items).foldlM
    (fun record (field, item) => field.assign item record) type.blank
  match (type.fields.drop items.length).findIdx? (·.required) with
  | some index => .error (.invalidLength (items.length + index) type.lengthText)
  | none =>
      if dialect = .json ∧ type.fields.length < items.length then
        .error (.invalidLength items.length "fewer elements in array")
      else .ok record

/-- Reads a record. A moment counts as a mapping without any known entry. -/
def RecordType.read (type : RecordType α) (dialect : Dialect) : Reader α
  | .mapping entries => type.readEntries entries
  | .moment => type.readEntries []
  | .sequence items => type.readItems dialect items
  | found => .error (.invalidType found ("struct " ++ type.name))

end Custody.Document
