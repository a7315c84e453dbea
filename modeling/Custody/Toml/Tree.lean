import Custody.Document.Basic

/-!
# Tables of a TOML text

The statements of a text build up a tree of tables. A table is mentioned before it is defined when
it stands inside the path of another one; it is then implicit. Tables that come from dotted keys can
be extended by further dotted keys only. Defining something twice is refused, and so is going
through a value.
-/

set_option autoImplicit false

namespace Custody.Toml

inductive Node where
  /-- A value, inline tables and arrays included. Nothing can be added to it. -/
  | value (document : Document)
  /-- A table: whether it was only mentioned so far, and whether it comes from dotted keys. -/
  | table (implicit dotted : Bool) (entries : List (String × Node))
  /-- The tables of an array that is written table by table: the last one, and those before it from
  the end. -/
  | tables (last : List (String × Node)) (earlier : List (List (String × Node)))

/-- The entries of a table in the order in which their keys were first written. -/
abbrev Entries := List (String × Node)

mutual

def Node.toDocument : Node → Document
  | .value document => document
  | .table _ _ entries => .mapping (entriesToDocuments entries)
  | .tables last earlier =>
      .sequence ((.mapping (entriesToDocuments last) :: tablesToDocuments earlier).reverse)

def entriesToDocuments : List (String × Node) → List (String × Document)
  | [] => []
  | (key, node) :: rest => (key, node.toDocument) :: entriesToDocuments rest

def tablesToDocuments : List (List (String × Node)) → List Document
  | [] => []
  | entries :: rest => .mapping (entriesToDocuments entries) :: tablesToDocuments rest

end

/-- Puts something under a key, in the place of what stood there or else at the end. -/
def replace (key : String) (node : Node) : Entries → Entries
  | [] => [(key, node)]
  | (k, n) :: rest => if k = key then (key, node) :: rest else (k, n) :: replace key node rest

/-- Changes the table at the end of a path. Tables that are not there yet are mentioned by the way;
through an array of tables the path goes to its last one. A path of dotted keys goes through tables
without a definition of their own only. The change is told whether its table comes from dotted
keys. -/
def descend (byDots : Bool) (change : (dotted : Bool) → Entries → Option Entries) :
    List String → (dotted : Bool) → Entries → Option Entries
  | [], dotted, entries => change dotted entries
  | key :: path, _, entries =>
      match entries.lookup key with
      | none => do
          let inner ← descend byDots change path byDots []
          return replace key (.table true byDots inner) entries
      | some (.value _) => none
      | some (.table implicit dotted inner) =>
          if byDots ∧ !implicit then none
          else do
            let inner ← descend byDots change path dotted inner
            return replace key (.table implicit dotted inner) entries
      | some (.tables last earlier) => do
          let last ← descend byDots change path false last
          return replace key (.tables last earlier) entries

def assign (path : List String) (value : Document) (entries : Entries) : Option Entries :=
  let key := path.getLastD ""
  let parents := path.dropLast
  let put := fun (dotted : Bool) (inner : Entries) =>
    if dotted == parents.isEmpty then none
    else
      match inner.lookup key with
      | some _ => none
      | none => some (replace key (.value value) inner)
  descend true put parents false entries

def assignAll (values : List (List String × Document)) (entries : Entries) : Option Entries :=
  values.foldlM (fun entries (path, value) => assign path value entries) entries

inductive Header where
  | root
  | table (path : List String)
  | element (path : List String)

structure Section where
  header : Header
  values : List (List String × Document)

/-- Adds a section. A table that was only mentioned moves to the end when it is defined. -/
def addSection (entries : Entries) (part : Section) : Option Entries :=
  match part.header with
  | .root => assignAll part.values entries
  | .table path =>
      let key := path.getLastD ""
      let define := fun (_ : Bool) (parent : Entries) =>
        match parent.lookup key with
        | none => do
            let inner ← assignAll part.values []
            return parent ++ [(key, .table false false inner)]
        | some (.table true false inner) => do
            let inner ← assignAll part.values inner
            return parent.filter (·.1 != key) ++ [(key, .table false false inner)]
        | some _ => none
      descend false define path.dropLast false entries
  | .element path =>
      let key := path.getLastD ""
      let append := fun (_ : Bool) (parent : Entries) => do
        let inner ← assignAll part.values []
        match parent.lookup key with
        | none => return replace key (.tables inner []) parent
        | some (.tables last earlier) =>
            return replace key (.tables inner (last :: earlier)) parent
        | some _ => none
      descend false append path.dropLast false entries

def tableOf? (sections : List Section) : Option Document := do
  let entries ← sections.foldlM addSection []
  return .mapping (entriesToDocuments entries)

end Custody.Toml
