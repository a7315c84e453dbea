import Custody.Decimal.Shortest
import Custody.Document.Basic
import Custody.Text.Digits
import Custody.Toml.Lexical

/-!
# Numbers in TOML

Integers have 64 bits and a sign, and are written in base ten or, without a sign, after `0x`, `0o`
or `0b`. Floats have a fraction, an exponent or both. One underscore may stand between two digits,
and decimal integers have no leading zeros.
-/

set_option autoImplicit false

namespace Custody.Toml

open Text (isDigitOf ofDigits)

/-- Reads digits on, with single underscores between them. -/
def digitsFrom (base : Nat) : (read : List Char) → List Char → List Char × List Char
  | read, '_' :: c :: rest =>
      if isDigitOf base c then digitsFrom base (c :: read) rest
      else (read.reverse, '_' :: c :: rest)
  | read, c :: rest =>
      if isDigitOf base c then digitsFrom base (c :: read) rest else (read.reverse, c :: rest)
  | read, [] => (read.reverse, [])

def digits (base : Nat) : Reader (List Char)
  | c :: rest => if isDigitOf base c then some (digitsFrom base [c] rest) else none
  | [] => none

def sign : List Char → Bool × List Char
  | '-' :: rest => (true, rest)
  | '+' :: rest => (false, rest)
  | cs => (false, cs)

def integerOf? (negative : Bool) (magnitude : Nat) : Option Document :=
  if negative then
    if magnitude ≤ 0x8000000000000000 then some (.integer (-(magnitude : Int))) else none
  else if magnitude < 0x8000000000000000 then some (.integer magnitude)
  else none

/-- Reads an integer in another base after its mark. -/
def integerIn (base : Nat) : Reader Document := fun cs => do
  let (ds, rest) ← digits base cs
  return (← integerOf? false (ofDigits base ds), rest)

/-- Reads the whole part of a decimal number: one zero, or digits that do not start with one. -/
def wholePart : Reader (List Char)
  | '0' :: rest => some (['0'], rest)
  | cs => digits 10 cs

def fraction? (cs : List Char) : Option (List Char × List Char) :=
  match cs with
  | '.' :: rest => digits 10 rest
  | _ => none

def exponent? (cs : List Char) : Option (Int × List Char) :=
  match cs with
  | 'e' :: rest | 'E' :: rest => do
      let (negative, rest) := sign rest
      let (ds, rest) ← digits 10 rest
      let magnitude : Int := ofDigits 10 ds
      return (if negative then -magnitude else magnitude, rest)
  | _ => none

/-- The float written with these digits. One that is too large is refused, unless it is negative. -/
def floatOf? (negative : Bool) (ds : List Char) (exponent : Int) : Option Document :=
  let x := Decimal.toFloat { digits := ofDigits 10 ds, exponent }
  if negative then some (.float (-x))
  else if x.isInf then none
  else some (.float x)

def decimal (negative : Bool) : Reader Document := fun cs => do
  let (whole, rest) ← wholePart cs
  match fraction? rest with
  | some (places, rest) =>
      let (exponent, rest) := (exponent? rest).getD (0, rest)
      return (← floatOf? negative (whole ++ places) (exponent - places.length), rest)
  | none =>
      match exponent? rest with
      | some (exponent, rest) => return (← floatOf? negative whole exponent, rest)
      | none => return (← integerOf? negative (ofDigits 10 whole), rest)

def number : Reader Document
  | '0' :: 'x' :: rest => integerIn 16 rest
  | '0' :: 'o' :: rest => integerIn 8 rest
  | '0' :: 'b' :: rest => integerIn 2 rest
  | cs =>
      let (negative, rest) := sign cs
      match rest with
      | 'i' :: 'n' :: 'f' :: rest => some (.float (if negative then -(1 / 0) else 1 / 0), rest)
      | 'n' :: 'a' :: 'n' :: rest => some (.float (0 / 0), rest)
      | rest => decimal negative rest

end Custody.Toml
