import Custody.Text.Digits
import Custody.Toml.Lexical

/-!
# Dates and times in TOML

A moment is a date, a time, or both with an optional offset. Only its form and its ranges are
checked.
-/

set_option autoImplicit false

namespace Custody.Toml

open Text (isDigitOf ofDigits)

def fixedDigits (count : Nat) : Reader Nat := fun cs =>
  let ds := cs.take count
  if ds.length = count ∧ ds.all (isDigitOf 10) then some (ofDigits 10 ds, cs.drop count) else none

def twoDigits (bound : Nat) : Reader Nat := fun cs => do
  let (n, rest) ← fixedDigits 2 cs
  if n ≤ bound then some (n, rest) else none

def mark (c : Char) : List Char → Option (List Char)
  | d :: rest => if d = c then some rest else none
  | [] => none

def isLeapYear (year : Nat) : Bool :=
  year % 4 == 0 && (year % 100 != 0 || year % 400 == 0)

def daysIn (year month : Nat) : Nat :=
  if month = 2 then (if isLeapYear year then 29 else 28)
  else if [4, 6, 9, 11].contains month then 30
  else 31

def skipDate? (cs : List Char) : Option (List Char) := do
  let (year, cs) ← fixedDigits 4 cs
  let (month, cs) ← twoDigits 12 (← mark '-' cs)
  let (day, cs) ← twoDigits (daysIn year month) (← mark '-' cs)
  if month = 0 ∨ day = 0 then none else some cs

def skipSecondFraction (cs : List Char) : List Char :=
  match cs with
  | '.' :: rest => if (rest.takeWhile (isDigitOf 10)).isEmpty then cs else rest.dropWhile (isDigitOf 10)
  | cs => cs

/-- Skips a time of day. The last minute may have a leap second. -/
def skipTime? (cs : List Char) : Option (List Char) := do
  let (_, cs) ← twoDigits 23 cs
  let (_, cs) ← twoDigits 59 (← mark ':' cs)
  let (_, cs) ← twoDigits 60 (← mark ':' cs)
  return skipSecondFraction cs

def skipOffset (cs : List Char) : List Char :=
  match cs with
  | 'Z' :: rest | 'z' :: rest => rest
  | '+' :: rest | '-' :: rest =>
      let offset : Option (List Char) := do
        let (_, rest) ← twoDigits 23 rest
        let (_, rest) ← twoDigits 59 (← mark ':' rest)
        return rest
      offset.getD cs
  | cs => cs

/-- Skips the time and offset after a date, if they follow. -/
def skipTimeOfDate (cs : List Char) : List Char :=
  match cs with
  | 'T' :: rest | 't' :: rest | ' ' :: rest =>
      match skipTime? rest with
      | some rest => skipOffset rest
      | none => cs
  | cs => cs

def skipMoment? (cs : List Char) : Option (List Char) :=
  match skipDate? cs with
  | some rest => some (skipTimeOfDate rest)
  | none => skipTime? cs

end Custody.Toml
