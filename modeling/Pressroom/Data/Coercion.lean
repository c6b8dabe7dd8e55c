import Pressroom.Data.Value
import Pressroom.Number.Literal
import Pressroom.Text.Blank

/-!
Values taken as truth values, numbers and texts, and the comparisons that rest on it.
-/

namespace Pressroom

namespace Value

/-- Null, false, zero and the empty text are false; all other values are true. -/
def truthy : Value → Bool
  | .null => false
  | .bool b => b
  | .num n => !(n.toFloat == 0) && n.toFloat == n.toFloat
  | .str s => s != ""
  | .arr _ | .obj _ => true

/-- A text without signs at its start. -/
def unsigned (cs : List Char) : List Char :=
  cs.dropWhile fun c => c == '+' || c == '-'

/-- The number that a text spells. Blanks around it do not count, the empty text is zero, and of the
words for numbers only `Infinity` is one. -/
def textNumber (s : String) : Float :=
  let cs := Text.trim s.toList
  if cs.isEmpty then 0
  else match Number.read? cs with
    | some x =>
      if Number.isFinite x || unsigned cs == "Infinity".toList then x else Number.nan
    | none => Number.nan

/-- A value as a number. An array of one item counts as that item. -/
def toFloat : Value → Float
  | .null => 0
  | .bool b => if b then 1 else 0
  | .num n => n.toFloat
  | .str s => textNumber s
  | .arr [] => 0
  | .arr [item] => item.toFloat
  | .arr _ => Number.nan
  | .obj _ => Number.nan

mutual

def text : Value → String
  | .null => "null"
  | .bool b => if b then "true" else "false"
  | .num n => n.text
  | .str s => s
  | .arr items => String.intercalate "," (itemTexts items)
  | .obj _ => "[object Object]"

/-- The texts of the items of an array, nothing standing for null. -/
def itemTexts : List Value → List String
  | [] => []
  | item :: items =>
    (match item with
      | .null => ""
      | item => item.text) :: itemTexts items

end

/-- What a value puts on the page: only texts and numbers put anything there. -/
def rendered? : Value → Option String
  | .str s => some s
  | .num n => some n.text
  | _ => none

/-- Equality without conversion; numbers are equal if their floating-point values are. -/
def strictEq (a b : Value) : Bool :=
  match a, b with
  | .num m, .num n => m.toFloat == n.toFloat
  | a, b => a.same b

/-- Equality that compares a truth value with anything, and a number with a text, as numbers. Null
equals only itself. -/
def looseEq (a b : Value) : Bool :=
  match a, b with
  | .null, .null => true
  | .null, _ | _, .null => false
  | .num _, .str _ | .str _, .num _ | .bool _, _ | _, .bool _ => a.toFloat == b.toFloat
  | a, b => a.strictEq b

end Value

/-- The order of two numbers, none if either is undefined. -/
def Number.order? (x y : Float) : Option Ordering :=
  if x < y then some .lt else if x == y then some .eq else if y < x then some .gt else none

/-- The order of two values: texts by their characters, all else as numbers. -/
def Value.order? (a b : Value) : Option Ordering :=
  match a, b with
  | .str s, .str t => some (compare s t)
  | a, b => Number.order? a.toFloat b.toFloat

end Pressroom
