/-!
# Shortest decimal digits

A binary64 value is the nearest one to every real number in an interval around
it. Of all decimals in that interval, the shortest one nearest to the value
stands for it. All arithmetic is exact.
-/

namespace MarkupTemplate.Decimal

/-- A finite binary64 magnitude, `mantissa · 2 ^ exponent`. -/
structure Binary where
  mantissa : Nat
  exponent : Int
  /-- Whether the next smaller value is only half as far away as the next greater
  one. -/
  narrowBelow : Bool
deriving DecidableEq, Repr

/-- The magnitude that the bits of a finite binary64 value encode. -/
def Binary.ofBits (bits : UInt64) : Binary :=
  let fraction : Nat := bits.toNat % Nat.pow 2 52
  let power : Nat := bits.toNat / Nat.pow 2 52 % Nat.pow 2 11
  if power = 0 then ⟨fraction, -1074, false⟩
  else ⟨Nat.pow 2 52 + fraction, (power : Int) - 1075, fraction = 0 ∧ 1 < power⟩

/-- A positive decimal, `digits · 10 ^ power`. -/
structure Scaled where
  digits : Nat
  power : Int
deriving DecidableEq, Repr

/-- A magnitude and the ends of its rounding interval as fractions with a common
denominator. -/
structure Interval where
  low : Nat
  value : Nat
  high : Nat
  denominator : Nat
  /-- Whether the ends round to the value. -/
  closed : Bool
deriving DecidableEq, Repr

/-- The rounding interval of a magnitude, in quarters of its last place. -/
def Binary.interval (binary : Binary) : Interval :=
  let scale := Nat.pow 2 (binary.exponent - 2).toNat
  let quarters := 4 * binary.mantissa
  { low := (quarters - if binary.narrowBelow then 1 else 2) * scale
    value := quarters * scale
    high := (quarters + 2) * scale
    denominator := Nat.pow 2 (2 - binary.exponent).toNat
    closed := binary.mantissa % 2 = 0 }

namespace Interval

/-- Compares `digits · 10 ^ power` with a fraction of the interval's denominator,
as the two sides of an equation of integers. -/
def sides (interval : Interval) (decimal : Scaled) (numerator : Nat) : Nat × Nat :=
  (decimal.digits * Nat.pow 10 decimal.power.toNat * interval.denominator,
    numerator * Nat.pow 10 (-decimal.power).toNat)

/-- Whether a decimal rounds to the value. -/
def contains (interval : Interval) (decimal : Scaled) : Bool :=
  let below := interval.sides decimal interval.low
  let above := interval.sides decimal interval.high
  if interval.closed then below.2 ≤ below.1 && above.1 ≤ above.2
  else below.2 < below.1 && above.1 < above.2

/-- How far a decimal is from the value, in a unit that depends on its power
only. -/
def distance (interval : Interval) (decimal : Scaled) : Nat :=
  let (left, right) := interval.sides decimal interval.value
  (left - right) + (right - left)

/-- The greatest decimal of a power that does not exceed the value. -/
def floor (interval : Interval) (power : Int) : Scaled :=
  ⟨interval.value * Nat.pow 10 (-power).toNat /
    (interval.denominator * Nat.pow 10 power.toNat), power⟩

/-- The decimals next to the value on the grid of a power that round to it, the
nearer one first, an even one before an odd one. -/
def candidates (interval : Interval) (power : Int) : List Scaled :=
  let lower := interval.floor power
  let upper : Scaled := ⟨lower.digits + 1, power⟩
  let lowerFirst :=
    interval.distance lower < interval.distance upper
      || (interval.distance lower == interval.distance upper && lower.digits % 2 == 0)
  (if lowerFirst then [lower, upper] else [upper, lower]).filter interval.contains

/-- The power of ten of the value's leading digit. -/
def leadingPower (interval : Interval) : Int :=
  let estimate : Int :=
    ((Nat.log2 interval.value : Int) - Nat.log2 interval.denominator) * 30103 / 100000
  ([estimate + 2, estimate + 1, estimate, estimate - 1].find? fun power =>
    (interval.floor power).digits != 0).getD estimate

/-- The first candidate among the grids of `count` digits and more. -/
def search (interval : Interval) (leading : Int) : Nat → Nat → Scaled
  | 0, count => interval.floor (leading - count)
  | fuel + 1, count =>
      match interval.candidates (leading - count) with
      | found :: _ => found
      | [] => search interval leading fuel (count + 1)

end Interval

/-- Moves the zeros at the end of the digits into the power. -/
def Scaled.strip (decimal : Scaled) : Nat → Scaled
  | 0 => decimal
  | fuel + 1 =>
      if decimal.digits % 10 = 0 then
        Scaled.strip ⟨decimal.digits / 10, decimal.power + 1⟩ fuel
      else decimal

/-- The shortest decimal that rounds to a magnitude other than zero. Seventeen
digits always suffice. -/
def shortest (binary : Binary) : Scaled :=
  let interval := binary.interval
  (interval.search interval.leadingPower 17 0).strip 20

end MarkupTemplate.Decimal
