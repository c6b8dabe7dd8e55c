import Pressroom.Data.Coercion
import Pressroom.Expr.Error
import Pressroom.Text.LetterCase
import Pressroom.Text.Search

/-!
The methods of texts, arrays and numbers. Positions and lengths count characters.
-/

namespace Pressroom.Expr.Method

/-- The argument at a position, null if it is not given. -/
def argument (args : List Value) (i : Nat) : Value :=
  args.getD i .null

/-- A count of characters or items as a value. -/
def count (n : Nat) : Value :=
  .num (.int n)

/-- What stands for a position that does not exist. -/
def nowhere : Value :=
  .num (.int (-1))

/-- Where a cut falls in a sequence of `length`: negative places count from its end, and places
outside of it are its ends. -/
def place (length : Nat) (x : Float) : Nat :=
  if x < 0 then length - Number.toCount (-x) else min (Number.toCount x) length

/-- Where an argument of `slice` cuts; null cuts at `default`. -/
def cutPlace (length default : Nat) (arg : Value) : Nat :=
  match arg with
  | .null => default
  | arg => place length arg.toFloat

/-- The two places where the arguments of `slice` cut a sequence of `length`. The second one is
moved to the first if it would come before it. -/
def cutPlaces (length : Nat) (args : List Value) : Nat × Nat :=
  let start := cutPlace length 0 (argument args 0)
  (start, max start (cutPlace length length (argument args 1)))

/-- The part of a sequence between two cuts. -/
def slice {α : Type} (xs : List α) (args : List Value) : List α :=
  let (start, stop) := cutPlaces xs.length args
  (xs.take stop).drop start

/-- The parts of a text between occurrences of a separator, or its characters if that is empty. -/
def split (separator cs : List Char) : List (List Char) :=
  if separator.isEmpty then cs.map ([·]) else Text.pieces separator cs

def ofText (s : String) (method : String) (args : List Value) : Option Value :=
  let cs := s.toList
  let first := (argument args 0).text.toList
  match method with
  | "toUpperCase" => some (.str (Text.toUpper s))
  | "toLowerCase" => some (.str (Text.toLower s))
  | "trim" => some (.str (String.ofList (Text.trim cs)))
  | "startsWith" => some (.bool (Text.strip? first cs).isSome)
  | "endsWith" => some (.bool (Text.strip? first.reverse cs.reverse).isSome)
  | "includes" => some (.bool (Text.occursIn first cs))
  | "indexOf" => some (match Text.cut? first cs with
      | some (before, _) => count before.length
      | none => nowhere)
  | "split" => some (.arr ((split first cs).map fun part => .str (String.ofList part)))
  | "slice" => some (.str (String.ofList (slice cs args)))
  | _ => none

def ofArray (items : List Value) (method : String) (args : List Value) : Option Value :=
  let first := argument args 0
  match method with
  | "slice" => some (.arr (slice items args))
  | "join" =>
    let separator := match first with
      | .null => ","
      | first => first.text
    some (.str (String.intercalate separator (Value.itemTexts items)))
  | "includes" => some (.bool (items.any (Value.strictEq · first)))
  | "indexOf" => some (match items.findIdx? (Value.strictEq · first) with
      | some i => count i
      | none => nowhere)
  | _ => none

def ofNumber (n : Numeral) (method : String) (args : List Value) : Option Value :=
  match method with
  | "toFixed" =>
    let places := min (Number.toCount (argument args 0).toFloat) 100
    some (.str (Number.fixedText places n.toFloat))
  | _ => none

def find? (target : Value) (method : String) (args : List Value) : Option Value :=
  if method = "toString" then some (.str target.text)
  else match target with
    | .str s => ofText s method args
    | .arr items => ofArray items method args
    | .num n => ofNumber n method args
    | _ => none

/-- A method of a value, called. -/
def call (target : Value) (method : String) (args : List Value) : Except EvalError Value :=
  match target with
  | .null => .error (.mistyped (.callOnNull method))
  | target =>
    match find? target method args with
    | some value => .ok value
    | none => .error (.mistyped (.notAFunction method))

/-- The smallest of some numbers, undefined if one of them is. -/
def least (xs : List Float) : Float :=
  if xs.any fun x => !(x == x) then Number.nan
  else xs.foldl (fun m x => if x < m then x else m) Number.infinity

/-- The largest of some numbers, undefined if one of them is. -/
def greatest (xs : List Float) : Float :=
  if xs.any fun x => !(x == x) then Number.nan
  else xs.foldl (fun m x => if m < x then x else m) (-Number.infinity)

/-- The functions of `Math`. -/
def math? (method : String) (args : List Float) : Option Float :=
  let first := args.headD Number.nan
  match method with
  | "round" => some (Number.floor (first + 0.5))
  | "floor" => some (Number.floor first)
  | "ceil" => some (Number.ceil first)
  | "abs" => some (Number.abs first)
  | "min" => some (least args)
  | "max" => some (greatest args)
  | _ => none

end Pressroom.Expr.Method
