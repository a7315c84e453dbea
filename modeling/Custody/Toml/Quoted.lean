import Custody.Text.Digits
import Custody.Toml.Lexical

/-!
# Quoted text in TOML

Text between double quotes has escapes; text between single quotes stands for itself. Three quotes
open a text that may go over several lines: its first line end is dropped when nothing stands before
it, every other one counts as a line feed, and one or two quotes before the closing three belong to
the text.
-/

set_option autoImplicit false

namespace Custody.Toml

open Text (digitValue?)

inductive Place where
  | plain
  /-- After a backslash at the end of a line: blanks and line ends are skipped. -/
  | skipping
  | escaped
  /-- Inside an escape by code point: how many digits are missing, and the number so far. -/
  | code (missing value : Nat)

def escape? : Char → Option Char
  | 'b' => some '\x08'
  | 'f' => some '\x0c'
  | 'n' => some '\n'
  | 'r' => some '\r'
  | 't' => some '\t'
  | '"' => some '"'
  | '\\' => some '\\'
  | _ => none

/-- The character with a code point, unless the code point is none of a character. -/
def charOf? (n : Nat) : Option Char :=
  if n < 0xD800 ∨ (0xDFFF < n ∧ n < 0x110000) then some (Char.ofNat n) else none

def atLineEnd (cs : List Char) : Bool := (skipNewline? (skipBlanks cs)).isSome

def collected (read : List Char) : String := String.ofList read.reverse

/-- Reads on in a text between double quotes up to the closing ones. -/
def escapedFrom (multiLine : Bool) : Place → (read : List Char) → Reader String
  | .code missing value, read, c :: rest => do
      let value := value * 16 + (← digitValue? c)
      if missing ≤ 1 then escapedFrom multiLine .plain ((← charOf? value) :: read) rest
      else escapedFrom multiLine (.code (missing - 1) value) read rest
  | .escaped, read, c :: rest =>
      match c with
      | 'u' => escapedFrom multiLine (.code 4 0) read rest
      | 'U' => escapedFrom multiLine (.code 8 0) read rest
      | c => do escapedFrom multiLine .plain ((← escape? c) :: read) rest
  | place, read, c :: rest =>
      match place, c with
      | .skipping, ' ' | .skipping, '\t' | .skipping, '\n' =>
          escapedFrom multiLine .skipping read rest
      | .skipping, '\r' =>
          if rest.head? = some '\n' then escapedFrom multiLine .skipping read rest else none
      | _, '"' =>
          if multiLine then
            match rest with
            | '"' :: '"' :: '"' :: '"' :: rest => some (collected ('"' :: '"' :: read), rest)
            | '"' :: '"' :: '"' :: rest => some (collected ('"' :: read), rest)
            | '"' :: '"' :: rest => some (collected read, rest)
            | rest => escapedFrom multiLine .plain ('"' :: read) rest
          else some (collected read, rest)
      | _, '\\' =>
          if multiLine ∧ atLineEnd rest then escapedFrom multiLine .skipping read rest
          else escapedFrom multiLine .escaped read rest
      | _, '\n' => if multiLine then escapedFrom multiLine .plain ('\n' :: read) rest else none
      | _, '\r' =>
          if multiLine ∧ rest.head? = some '\n' then escapedFrom multiLine .plain read rest
          else none
      | _, c => if isText c then escapedFrom multiLine .plain (c :: read) rest else none
  | _, _, [] => none

def literalFrom (multiLine : Bool) : (read : List Char) → Reader String
  | _, [] => none
  | read, '\'' :: rest =>
      if multiLine then
        match rest with
        | '\'' :: '\'' :: '\'' :: '\'' :: rest => some (collected ('\'' :: '\'' :: read), rest)
        | '\'' :: '\'' :: '\'' :: rest => some (collected ('\'' :: read), rest)
        | '\'' :: '\'' :: rest => some (collected read, rest)
        | rest => literalFrom multiLine ('\'' :: read) rest
      else some (collected read, rest)
  | read, '\n' :: rest =>
      if multiLine then literalFrom multiLine ('\n' :: read) rest else none
  | read, '\r' :: rest =>
      if multiLine ∧ rest.head? = some '\n' then literalFrom multiLine read rest else none
  | read, c :: rest => if isText c then literalFrom multiLine (c :: read) rest else none

def dropNewline (cs : List Char) : List Char := (skipNewline? cs).getD cs

def lineText : Reader String
  | '"' :: rest => escapedFrom false .plain [] rest
  | '\'' :: rest => literalFrom false [] rest
  | _ => none

def quotedText : Reader String
  | '"' :: '"' :: '"' :: rest => escapedFrom true .plain [] (dropNewline rest)
  | '\'' :: '\'' :: '\'' :: rest => literalFrom true [] (dropNewline rest)
  | cs => lineText cs

end Custody.Toml
