import Pressroom.Number.Binary

/-!
Numbers read from text: an optional sign, digits with at most one point among or around them, an
optional exponent; or, in any case, one of the words `inf`, `infinity` and `nan`. The nearest
floating-point number is the answer, and one that is too large is infinite.
-/

namespace Pressroom.Number

/-- The value of a sequence of decimal digits. -/
def ofDigits (ds : List Char) : Nat :=
  ds.foldl (fun n d => n * 10 + (d.toNat - '0'.toNat)) 0

/-- The number nearest to `coefficient · 10 ^ exponent`. Where bounds of the logarithm show that it
is far outside the range of the numbers, the power is not computed. -/
def ofDecimal (coefficient : Nat) (exponent : Int) : Float :=
  let bits := Nat.log2 coefficient
  if coefficient = 0 then 0
  else if 400 < exponent + bits * 30102 / 100000 then infinity
  else if exponent + (bits + 1) * 30103 / 100000 < -400 then 0
  else if 0 ≤ exponent then Float.ofScientific coefficient false exponent.toNat
  else Float.ofScientific coefficient true (-exponent).toNat

def sign (cs : List Char) : Bool × List Char :=
  match cs with
  | '-' :: rest => (true, rest)
  | '+' :: rest => (false, rest)
  | rest => (false, rest)

/-- The digits at the start of a text, and what follows them. -/
def spanDigits (cs : List Char) : List Char × List Char :=
  (cs.takeWhile Char.isDigit, cs.dropWhile Char.isDigit)

/-- An exponent mark, an optional sign and digits, up to the end of the text. -/
def exponent? (cs : List Char) : Option Int :=
  match cs with
  | [] => some 0
  | mark :: rest =>
    if mark = 'e' || mark = 'E' then
      let (negative, rest) := sign rest
      let (ds, rest) := spanDigits rest
      if ds.isEmpty || !rest.isEmpty then none
      else some (if negative then -(ofDigits ds : Int) else ofDigits ds)
    else none

/-- A number without a sign, in digits. -/
def unsigned? (cs : List Char) : Option Float :=
  let (whole, rest) := spanDigits cs
  let (fraction, rest) := match rest with
    | '.' :: rest => spanDigits rest
    | rest => ([], rest)
  if whole.isEmpty && fraction.isEmpty then none
  else (exponent? rest).map fun e =>
    ofDecimal (ofDigits (whole ++ fraction)) (e - fraction.length)

/-- A number without a sign, in digits or as a word. -/
def magnitude? (cs : List Char) : Option Float :=
  let word := cs.map Char.toLower
  if word = "inf".toList || word = "infinity".toList then some infinity
  else if word = "nan".toList then some nan
  else unsigned? cs

def read? (cs : List Char) : Option Float :=
  let (negative, rest) := sign cs
  (magnitude? rest).map fun x => if negative then -x else x

end Pressroom.Number
