import Pressroom.Number.Decimal

/-!
How numbers are written. All three number formats of the program write the shortest decimal that
reads back; they differ in where the positional form ends, in the fraction of whole numbers and in
the spelling of exponents, which is what a `Layout` records.
-/

namespace Pressroom.Number

structure Layout where
  /-- The least exponent of a first digit that is written positionally. -/
  least : Int
  /-- The greatest exponent of a first digit that is written positionally. -/
  greatest : Int
  /-- Whether a whole number in positional form ends in `.0`. -/
  showsFraction : Bool
  /-- Whether a positive exponent takes a plus sign. -/
  plus : Bool
  /-- Whether zero keeps its sign. -/
  signedZero : Bool
  /-- Where a decimal goes that is as near to one candidate as to the other. -/
  tie : Tie

def mantissa (ds : List Char) : List Char :=
  match ds with
  | [] => []
  | [d] => [d]
  | d :: ds => d :: '.' :: ds

def positional (showsFraction : Bool) (d : Decimal) : List Char :=
  if 0 ≤ d.exponent then
    digits d.coefficient ++ List.replicate d.exponent.toNat '0' ++
      (if showsFraction then ['.', '0'] else [])
  else pointed (-d.exponent).toNat d.coefficient

def scientific (plus : Bool) (d : Decimal) : List Char :=
  let exponent := d.leading
  mantissa (digits d.coefficient) ++ 'e' ::
    (if exponent < 0 then '-' :: digits (-exponent).toNat
     else (if plus then ['+'] else []) ++ digits exponent.toNat)

def Layout.write (layout : Layout) (b : Binary) : List Char :=
  if b.magnitude = 0 then
    (if b.negative && layout.signedZero then ['-'] else []) ++ '0' ::
      (if layout.showsFraction then ['.', '0'] else [])
  else
    let d := shortest layout.tie b
    let body :=
      if layout.least ≤ d.leading && d.leading ≤ layout.greatest
      then positional layout.showsFraction d
      else scientific layout.plus d
    (if b.negative then ['-'] else []) ++ body

/-- Numbers as page text: whole numbers without a fraction, exponents from `1e+21` up and below
`0.000001`. -/
def plain : Layout := ⟨-6, 20, false, true, false, .up⟩

/-- Numbers in JSON text: always a fraction, exponents from `1e+16` up and below `0.00001`. -/
def json : Layout := ⟨-5, 15, true, true, true, .toEven⟩

/-- Numbers in messages about expressions: always a fraction, exponents from `1e16` up and below
`0.0001`. -/
def diagnostic : Layout := ⟨-4, 15, true, false, true, .up⟩

/-- A number as page text, with words for what is no finite number. -/
def text (x : Float) : String :=
  match Binary.ofFloat? x with
  | some b => String.ofList (plain.write b)
  | none => if x > 0 then "Infinity" else if x < 0 then "-Infinity" else "NaN"

def diagnosticText (x : Float) : String :=
  match Binary.ofFloat? x with
  | some b => String.ofList (diagnostic.write b)
  | none => if x > 0 then "inf" else if x < 0 then "-inf" else "NaN"

def jsonText (x : Float) : String :=
  match Binary.ofFloat? x with
  | some b => String.ofList (json.write b)
  | none => "null"

/-- A number with a given count of digits after the point. -/
def fixedText (places : Nat) (x : Float) : String :=
  match Binary.ofFloat? x with
  | some b => String.ofList (fixed places b)
  | none => if x > 0 then "inf" else if x < 0 then "-inf" else "NaN"

end Pressroom.Number
