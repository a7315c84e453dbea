import Custody.Decimal.Shortest

/-!
# Notations for numbers

How a shortest decimal is written: a `Notation` says which of two equally near decimals is taken, from
which to which leading exponent the digits are written positionally, and how an exponent is written
elsewhere.
-/

set_option autoImplicit false

namespace Custody.Decimal

structure Notation where
  tie : Tie
  isPositional : Int → Bool
  exponentText : Int → String

/-- Digits with the point placed by an exponent, and at least one digit on each side of it. -/
def positional (d : Decimal) : String :=
  let digits := toString d.digits
  if 0 ≤ d.exponent then
    digits ++ String.ofList (List.replicate d.exponent.toNat '0') ++ ".0"
  else
    let places := (-d.exponent).toNat
    let filled := List.replicate (places + 1 - digits.length) '0' ++ digits.toList
    String.ofList (filled.take (filled.length - places)) ++ "." ++
      String.ofList (filled.drop (filled.length - places))

/-- Digits with the point after the first one, and an exponent. -/
def scientific (style : Notation) (d : Decimal) : String :=
  let digits := (toString d.digits).toList
  let leading := d.exponent + (digits.length - 1 : Nat)
  let fraction := digits.drop 1
  String.ofList (digits.take 1) ++
    (if fraction.isEmpty then "" else "." ++ String.ofList fraction) ++
    "e" ++ style.exponentText leading

/-- A number in some notation. What is not a number and what is not finite have a word each. -/
def write (style : Notation) (x : Float) : String :=
  if x.isNaN then "NaN"
  else
    let sign := if x.toBits.toNat < 0x8000000000000000 then "" else "-"
    if x.isInf then sign ++ "inf"
    else
      let d := ofFloat style.tie x
      let leading := d.exponent + ((toString d.digits).length - 1 : Nat)
      sign ++ if style.isPositional leading then positional d else scientific style d

/-- Never an exponent, and the larger one of two equally near decimals. -/
def Notation.plain : Notation :=
  { tie := .larger, isPositional := fun _ => true, exponentText := toString }

/-- Positional from five zeros after the point up to sixteen digits before it. Exponents elsewhere
have a sign. Of two equally near decimals the even one is written. -/
def Notation.compact : Notation :=
  { tie := .even
    isPositional := fun leading => -5 ≤ leading && leading < 16
    exponentText := fun leading =>
      (if leading < 0 then "-" else "+") ++ toString leading.natAbs }

end Custody.Decimal
