import Custody.Toml.Value

/-!
# TOML texts

A text is a sequence of lines: blank ones, entries, and headers that open a section. `ofToml?` reads
a whole text as a document. Whatever is malformed, the answer is the same.
-/

set_option autoImplicit false

namespace Custody.Toml

inductive Statement where
  | header (header : Header)
  | entry (path : List String) (value : Document)

def header : Reader Header
  | '[' :: rest => do
      let (path, rest) ← key rest
      return (.element path, ← mark ']' (← mark ']' rest))
  | rest => do
      let (path, rest) ← key rest
      return (.table path, ← mark ']' rest)

def statement : Reader Statement
  | '[' :: rest => do
      let (h, rest) ← header rest
      return (.header h, rest)
  | cs => do
      let ((path, document), rest) ← entryOf value cs
      return (.entry path document, rest)

/-- Reads the statements of a text. The fuel bounds the number of its lines. -/
def statementsFrom : (fuel : Nat) → (read : List Statement) → List Char → Option (List Statement)
  | 0, _, _ => none
  | fuel + 1, read, cs =>
      match skipBlanks cs with
      | [] => some read.reverse
      | cs =>
          match skipLineEnd? cs with
          | some rest => statementsFrom fuel read rest
          | none => do
              let (one, rest) ← statement cs
              statementsFrom fuel (one :: read) (← skipLineEnd? rest)

def statements (cs : List Char) : Option (List Statement) :=
  statementsFrom (cs.length + 1) [] cs

def sectionsOf (statements : List Statement) : List Section :=
  let add := fun (part : Section) (later : List Section) (one : Statement) =>
    match one with
    | .header header => (({ header, values := [] } : Section), part :: later)
    | .entry path value => ({ part with values := (path, value) :: part.values }, later)
  let (last, others) := statements.foldl (fun (part, others) one => add part others one)
    (({ header := .root, values := [] } : Section), [])
  (last :: others).reverse.map fun part => { part with values := part.values.reverse }

/-- The text without a mark of its byte order at the start. -/
def withoutMark : List Char → List Char
  | '\ufeff' :: rest => rest
  | cs => cs

end Custody.Toml

namespace Custody

def Document.ofToml? (text : String) : Option Document := do
  let statements ← Toml.statements (Toml.withoutMark text.toList)
  Toml.tableOf? (Toml.sectionsOf statements)

end Custody
