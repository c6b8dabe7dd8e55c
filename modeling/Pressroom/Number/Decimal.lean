import Pressroom.Number.Binary

/-!
Decimal numbers for binary ones: the shortest decimal that reads back, and rounding to a fixed
number of places. Both are exact computations on whole numbers.
-/

namespace Pressroom.Number

/-- Which way a value goes that lies in the middle between two candidates. -/
inductive Tie where
  | up
  | toEven
  deriving Repr, DecidableEq

/-- A quotient rounded to the nearest whole number. -/
def roundDiv (tie : Tie) (num den : Nat) : Nat :=
  let low := num / den
  let twice := 2 * (num % den)
  if twice < den then low
  else if den < twice then low + 1
  else match tie with
    | .up => low + 1
    | .toEven => low + low % 2

/-- The number `coefficient · 10 ^ exponent`. -/
structure Decimal where
  coefficient : Nat
  exponent : Int
  deriving Repr, DecidableEq

def digits (n : Nat) : List Char :=
  Nat.toDigits 10 n

/-- Without zeros at the end of the coefficient, of which at most `fuel` are taken off. -/
def Decimal.strip (d : Decimal) : (fuel : Nat) → Decimal
  | 0 => d
  | fuel + 1 =>
    if d.coefficient % 10 = 0 then
      Decimal.strip ⟨d.coefficient / 10, d.exponent + 1⟩ fuel
    else d

/-- The exponent of ten of the first digit. -/
def Decimal.leading (d : Decimal) : Int :=
  d.exponent + (digits d.coefficient).length - 1

/-- The exponent of ten of the first digit of `num / den`, which is not zero. -/
def leadingExponent (num den : Nat) : Int :=
  if den ≤ num then ((digits (num / den)).length : Int) - 1
  else -((digits ((den + num - 1) / num - 1)).length : Int)

/-- The numbers that round to one floating-point number: an interval around `value` in units of a
quarter of the last place, with or without its ends. -/
structure Rounding where
  low : Nat
  value : Nat
  high : Nat
  closed : Bool
  exponent : Int

/-- What rounds to the number with these parts. Below a power of two the next number is half as far
away as above it. -/
def Rounding.ofBinary (b : Binary) : Rounding :=
  let atPower := b.magnitude == exponentBit && -1074 < b.exponent
  { low := 4 * b.magnitude - if atPower then 1 else 2
    value := 4 * b.magnitude
    high := 4 * b.magnitude + 2
    closed := b.magnitude % 2 == 0
    exponent := b.exponent - 2 }

/-- The nearest number to the value among those of the form `c · 10 ^ place` that round to it. Only
the two neighbours of the value need to be looked at. -/
def Rounding.onGrid? (r : Rounding) (tie : Tie) (place : Int) : Option Nat :=
  let scale := twoTo r.exponent.toNat * tenTo (-place).toNat
  let unit := twoTo (-r.exponent).toNat * tenTo place.toNat
  let inside (c : Nat) : Bool :=
    if r.closed then r.low * scale ≤ c * unit && c * unit ≤ r.high * scale
    else r.low * scale < c * unit && c * unit < r.high * scale
  let below := r.value * scale / unit
  match inside below, inside (below + 1) with
  | true, true => some (roundDiv tie (r.value * scale) unit)
  | true, false => some below
  | false, true => some (below + 1)
  | false, false => none

/-- The first grid, of `count` ever finer ones from `place` down, with a number that rounds to the
value. -/
def Rounding.search (r : Rounding) (tie : Tie) (place : Int) : (count : Nat) → Decimal
  | 0 => ⟨0, 0⟩
  | count + 1 =>
    match r.onGrid? tie place with
    | some c => ⟨c, place⟩
    | none => r.search tie (place - 1) count

/-- The decimal with the fewest digits that reads back as the number, and of those the nearest;
seventeen digits always suffice. -/
def shortest (tie : Tie) (b : Binary) : Decimal :=
  if b.magnitude = 0 then ⟨0, 0⟩
  else
    let num := b.magnitude * twoTo b.exponent.toNat
    let den := twoTo (-b.exponent).toNat
    ((Rounding.ofBinary b).search tie (leadingExponent num den) 17).strip 20

/-- Digits with a point in front of the last `places` of them. -/
def pointed (places n : Nat) : List Char :=
  let all := digits n
  let padded := List.replicate (places + 1 - all.length) '0' ++ all
  let whole := padded.take (padded.length - places)
  if places = 0 then whole else whole ++ '.' :: padded.drop (padded.length - places)

/-- The number with exactly `places` digits after the point; a tie goes to the even digit. -/
def fixed (places : Nat) (b : Binary) : List Char :=
  let num := b.magnitude * twoTo b.exponent.toNat * tenTo places
  let den := twoTo (-b.exponent).toNat
  (if b.negative then ['-'] else []) ++ pointed places (roundDiv .toEven num den)

end Pressroom.Number
