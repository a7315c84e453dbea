/-!
# Shortest decimals

Every finite binary fraction of 64 bits has a shortest decimal that reads back as itself. `ofFloat`
decodes the bits into `m * 2 ^ q`, takes the interval of reals that round to it (with its ends when
`m` is even), and tries grids of 1, 2, ... 17 digits: the first grid with a point in the interval
wins, and the nearer of two such points is taken. Which one of two equally near is taken is for the
notation to say.
-/

set_option autoImplicit false

namespace Custody

/-- A non-negative decimal `digits * 10 ^ exponent`. -/
structure Decimal where
  digits : Nat
  exponent : Int
deriving DecidableEq, Inhabited

namespace Decimal

/-- Which one of two equally near points of a grid is taken. -/
inductive Tie where
  | larger
  | even
deriving DecidableEq, Inhabited

/-- A positive binary fraction `significand * 2 ^ exponent`, and whether the next one below it is
only half as far away as the next one above. -/
structure Binary where
  significand : Nat
  exponent : Int
  narrowBelow : Bool

/-- The bit in front of the 52 bits of a significand that are written down. -/
def hiddenBit : Nat := 0x10000000000000

/-- The positive binary fraction behind the magnitude of some bits, if it is finite and not zero. -/
def Binary.ofBits? (bits : UInt64) : Option Binary :=
  let field : Nat := bits.toNat / hiddenBit % 2048
  let fraction : Nat := bits.toNat % hiddenBit
  if field = 2047 then none
  else if field = 0 then
    if fraction = 0 then none
    else some { significand := fraction, exponent := -1074, narrowBelow := false }
  else
    some
      { significand := hiddenBit + fraction
        exponent := (field : Int) - 1075
        narrowBelow := fraction = 0 && 1 < field }

/-- `base ^ exponent` as a numerator, when the exponent is not negative. -/
def numeratorPower (base : Nat) (exponent : Int) : Nat := Nat.pow base exponent.toNat

/-- `base ^ (-exponent)` as a denominator, when the exponent is negative. -/
def denominatorPower (base : Nat) (exponent : Int) : Nat := Nat.pow base (-exponent).toNat

/-- The least number of tenfold steps that bring `numerator` up to `denominator`, at most `fuel`. -/
def stepsUp (denominator : Nat) : Nat → Nat → Nat
  | 0, _ => 0
  | fuel + 1, numerator =>
      if denominator ≤ numerator then 0 else stepsUp denominator fuel (numerator * 10) + 1

def leadingExponent (numerator denominator : Nat) : Int :=
  if denominator ≤ numerator then
    (Nat.toDigits 10 (numerator / denominator)).length - 1
  else
    -(stepsUp denominator 400 numerator : Int)

/-- Whether `d * 10 ^ p` rounds to the binary fraction. All quantities are compared as multiples of
a quarter of its last place. -/
def rounds (b : Binary) (p : Int) (d : Nat) : Bool :=
  let q := b.exponent - 2
  let point := d * numeratorPower 10 p * denominatorPower 2 q
  let scale := denominatorPower 10 p * numeratorPower 2 q
  let low := (4 * b.significand - if b.narrowBelow then 1 else 2) * scale
  let high := (4 * b.significand + 2) * scale
  if b.significand % 2 = 0 then low ≤ point && point ≤ high else low < point && point < high

/-- Whether the lower one of two neighbours is taken for what lies between them at
`remainder / denominator`. -/
def takesLower (tie : Tie) (below remainder denominator : Nat) : Bool :=
  2 * remainder < denominator ||
    (2 * remainder == denominator && tie == .even && below % 2 == 0)

/-- The best point of the grid `10 ^ p` for a binary fraction, if one rounds to it. -/
def onGrid (tie : Tie) (b : Binary) (p : Int) : Option Nat :=
  let numerator := b.significand * numeratorPower 2 b.exponent * denominatorPower 10 p
  let denominator := denominatorPower 2 b.exponent * numeratorPower 10 p
  let below := numerator / denominator
  let remainder := numerator % denominator
  match rounds b p below, rounds b p (below + 1) with
  | true, true =>
      some (if takesLower tie below remainder denominator then below else below + 1)
  | true, false => some below
  | false, true => some (below + 1)
  | false, false => none

def search (tie : Tie) (b : Binary) : Nat → Int → Decimal
  | 0, p => { digits := 0, exponent := p }
  | grids + 1, p =>
      match onGrid tie b p with
      | some d => { digits := d, exponent := p }
      | none => search tie b grids (p - 1)

def trim : Nat → Decimal → Decimal
  | 0, d => d
  | fuel + 1, d =>
      if d.digits ≠ 0 ∧ d.digits % 10 = 0 then
        trim fuel { digits := d.digits / 10, exponent := d.exponent + 1 }
      else d

def ofFloat (tie : Tie) (x : Float) : Decimal :=
  match Binary.ofBits? x.toBits with
  | none => { digits := 0, exponent := 0 }
  | some b =>
      let top := leadingExponent (b.significand * numeratorPower 2 b.exponent)
        (denominatorPower 2 b.exponent)
      trim 20 (search tie b 18 top)

/-- The number nearest to a decimal. Decimals beyond the largest number are infinite, those far
below the least one are zero. -/
def toFloat (d : Decimal) : Float :=
  let top := (Nat.toDigits 10 d.digits).length + d.exponent
  if d.digits = 0 ∨ top < -400 then 0
  else if 400 < top then 1 / 0
  else Float.ofScientific d.digits (decide (d.exponent < 0)) d.exponent.natAbs

end Decimal

end Custody
