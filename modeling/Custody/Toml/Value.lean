import Custody.Toml.Moment
import Custody.Toml.Number
import Custody.Toml.Quoted
import Custody.Toml.Tree

/-!
# Keys and values in TOML

A key is a path of parts with points between them. A value is a text, a number, a truth value, a
moment, an array or an inline table. Arrays may go over several lines and end in a comma; inline
tables may not.
-/

set_option autoImplicit false

namespace Custody.Toml

/-- How deep arrays and inline tables may be nested, and how many parts a key may have. -/
def depthLimit : Nat := 79

/-- Whether a character may stand in a key without quotes. -/
def isBare (c : Char) : Bool :=
  ('a' ≤ c && c ≤ 'z') || ('A' ≤ c && c ≤ 'Z') || ('0' ≤ c && c ≤ '9') || c == '_' || c == '-'

def keyPart : Reader String := fun cs =>
  match cs with
  | '"' :: _ | '\'' :: _ => lineText cs
  | cs =>
      let part := cs.takeWhile isBare
      if part.isEmpty then none else some (String.ofList part, cs.dropWhile isBare)

def keyWithin : (parts : Nat) → Reader (List String)
  | 0, _ => none
  | parts + 1, cs => do
      let (part, rest) ← keyPart (skipBlanks cs)
      match skipBlanks rest with
      | '.' :: rest => do
          let (path, rest) ← keyWithin parts rest
          return (part :: path, rest)
      | rest => return ([part], rest)

def key : Reader (List String) := keyWithin depthLimit

def entryOf (value : Reader Document) : Reader (List String × Document) := fun cs => do
  let (path, rest) ← key cs
  let (document, rest) ← value (skipBlanks (← mark '=' rest))
  return ((path, document), rest)

/-- Reads the items of an array up to its closing bracket. The fuel bounds their number. -/
def itemsOf (value : Reader Document) : (fuel : Nat) → (read : List Document) →
    Reader (List Document)
  | 0, _, _ => none
  | fuel + 1, read, cs => do
      match ← skipSpace? cs with
      | ']' :: rest => return (read.reverse, rest)
      | cs =>
          let (item, rest) ← value cs
          match ← skipSpace? rest with
          | ',' :: rest => itemsOf value fuel (item :: read) rest
          | ']' :: rest => return ((item :: read).reverse, rest)
          | _ => none

/-- Reads the entries of an inline table, one or more, up to its closing brace. The fuel bounds
their number. -/
def entriesOf (value : Reader Document) : (fuel : Nat) →
    (read : List (List String × Document)) → Reader (List (List String × Document))
  | 0, _, _ => none
  | fuel + 1, read, cs => do
      let (entry, rest) ← entryOf value cs
      match skipBlanks rest with
      | ',' :: rest => entriesOf value fuel (entry :: read) rest
      | '}' :: rest => return ((entry :: read).reverse, rest)
      | _ => none

def inlineTable (value : Reader Document) : Reader Document := fun cs => do
  match skipBlanks cs with
  | '}' :: rest => return (.mapping [], rest)
  | cs =>
      let (values, rest) ← entriesOf value cs.length [] cs
      return (.mapping (entriesToDocuments (← assignAll values [])), rest)

def scalar : Reader Document := fun cs =>
  match cs with
  | '"' :: _ | '\'' :: _ => do
      let (text, rest) ← quotedText cs
      return (.text text, rest)
  | 't' :: 'r' :: 'u' :: 'e' :: rest => some (.boolean true, rest)
  | 'f' :: 'a' :: 'l' :: 's' :: 'e' :: rest => some (.boolean false, rest)
  | cs =>
      match skipMoment? cs with
      | some rest => some (.moment, rest)
      | none => number cs

/-- Reads a value in which arrays and inline tables are nested at most so deep. -/
def valueWithin : (depth : Nat) → Reader Document
  | depth, '[' :: rest =>
      match depth with
      | 0 => none
      | depth + 1 => do
          let (items, rest) ← itemsOf (valueWithin depth) (rest.length + 1) [] rest
          return (.sequence items, rest)
  | depth, '{' :: rest =>
      match depth with
      | 0 => none
      | depth + 1 => inlineTable (valueWithin depth) rest
  | _, cs => scalar cs

def value : Reader Document := valueWithin depthLimit

end Custody.Toml
