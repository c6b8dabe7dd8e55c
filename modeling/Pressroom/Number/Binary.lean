/-!
Floating-point numbers taken apart. A finite number is a sign, a whole number and a power of two;
rounding to whole numbers and the remainder of a division are computed on these parts, exactly.
-/

namespace Pressroom.Number

def twoTo (n : Nat) : Nat := Nat.pow 2 n

def tenTo (n : Nat) : Nat := Nat.pow 10 n

/-- The weight of the sign among the 64 bits of a number. -/
def signBit : Nat := twoTo 63

def exponentBit : Nat := twoTo 52

def countLimit : Nat := twoTo 64 - 1

/-- The number `magnitude · 2 ^ exponent`, negated if `negative`. -/
structure Binary where
  negative : Bool
  magnitude : Nat
  exponent : Int
  deriving Repr, DecidableEq

/-- The parts of a finite number. -/
def Binary.ofFloat? (x : Float) : Option Binary :=
  let bits : Nat := x.toBits.toNat
  let field : Nat := bits / exponentBit % 2048
  let fraction : Nat := bits % exponentBit
  let negative := decide (signBit ≤ bits)
  if field = 2047 then none
  else if field = 0 then some ⟨negative, fraction, -1074⟩
  else some ⟨negative, exponentBit + fraction, (field : Int) - 1075⟩

/-- The floating-point number with these parts, which must be one. -/
def Binary.toFloat (b : Binary) : Float :=
  let sign := if b.negative then signBit else 0
  if b.magnitude = 0 then Float.ofBits (UInt64.ofNat sign)
  else
    -- the exponent at which the magnitude has 53 binary digits, or the least there is
    let exponent := max (b.exponent + Nat.log2 b.magnitude - 52) (-1074)
    let shift := b.exponent - exponent
    let magnitude :=
      if 0 ≤ shift then b.magnitude * twoTo shift.toNat else b.magnitude / twoTo (-shift).toNat
    let field := if magnitude < exponentBit then 0 else (exponent + 1075).toNat
    Float.ofBits (UInt64.ofNat (sign + field * exponentBit + magnitude % exponentBit))

def Binary.isWhole (b : Binary) : Bool :=
  0 ≤ b.exponent || b.magnitude % twoTo (-b.exponent).toNat == 0

def Binary.wholePart (b : Binary) : Nat :=
  if 0 ≤ b.exponent then b.magnitude * twoTo b.exponent.toNat
  else b.magnitude / twoTo (-b.exponent).toNat

def Binary.floor (b : Binary) : Int :=
  if b.negative then -((b.wholePart : Int) + if b.isWhole then 0 else 1) else b.wholePart

def Binary.ceil (b : Binary) : Int :=
  if b.negative then -(b.wholePart : Int) else b.wholePart + if b.isWhole then 0 else 1

/-- The floating-point number nearest to a whole number. -/
def ofInt (n : Int) : Float :=
  match n with
  | .ofNat n => Float.ofScientific n false 0
  | .negSucc n => -Float.ofScientific (n + 1) false 0

def infinity : Float := Float.ofBits 0x7FF0000000000000

def nan : Float := Float.ofBits 0x7FF8000000000000

def isFinite (x : Float) : Bool :=
  (Binary.ofFloat? x).isSome

def isWhole (x : Float) : Bool :=
  match Binary.ofFloat? x with
  | some b => b.isWhole
  | none => false

def floor (x : Float) : Float :=
  match Binary.ofFloat? x with
  | some b => if b.isWhole then x else ofInt b.floor
  | none => x

def ceil (x : Float) : Float :=
  match Binary.ofFloat? x with
  | some b => if b.isWhole then x else ofInt b.ceil
  | none => x

def abs (x : Float) : Float :=
  Float.ofBits (UInt64.ofNat (x.toBits.toNat % signBit))

/-- A number as a count: what is below one, or undefined, counts as none, and there is no count
beyond the 64-bit ones. -/
def toCount (x : Float) : Nat :=
  match Binary.ofFloat? x with
  | some b => if b.negative then 0 else min b.wholePart countLimit
  | none => if x > 0 then countLimit else 0

/-- The remainder of a division whose quotient is rounded toward zero; it has the sign of the
dividend and is exact. -/
def remainder (x y : Float) : Float :=
  match Binary.ofFloat? x, Binary.ofFloat? y with
  | some a, some b =>
    if b.magnitude = 0 then nan
    else
      let exponent := min a.exponent b.exponent
      let dividend := a.magnitude * twoTo (a.exponent - exponent).toNat
      let divisor := b.magnitude * twoTo (b.exponent - exponent).toNat
      Binary.toFloat ⟨a.negative, dividend % divisor, exponent⟩
  | some _, none => if y == y then x else nan
  | none, _ => nan

end Pressroom.Number
