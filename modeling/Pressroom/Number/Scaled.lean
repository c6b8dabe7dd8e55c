import Pressroom.Number.Literal

/-!
Numbers put together from decimal digits in machine words. The digits make up a count for as long as
it fits into 64 bits, and the count is scaled by a power of ten in floating point. That takes a
rounding for each step, so that the result may be next to the nearest number.
-/

namespace Pressroom.Number

/-- A count with digits behind it, up to the first one with which it does not fit into 64 bits, and
how many are left over from there on. -/
def fillCount (count : Nat) : List Char → Nat × Nat
  | [] => (count, 0)
  | d :: ds =>
    let more := count * 10 + (d.toNat - '0'.toNat)
    if more ≤ countLimit then fillCount more ds else (count, ds.length + 1)

def powerOfTen (n : Nat) : Float :=
  Float.ofScientific 1 false n

/-- The greatest exponent at which a power of ten is a floating-point number. -/
def greatestPower : Nat := 308

/-- `count · 10 ^ exponent`, if it is not too large. Far below zero there are two divisions, and
farther down there is nothing left. -/
def scaled? (count : Nat) (exponent : Int) : Option Float :=
  let down := (-exponent).toNat
  if count = 0 then some 0
  else if 0 ≤ exponent then
    if exponent ≤ greatestPower then
      let x := ofInt count * powerOfTen exponent.toNat
      if isFinite x then some x else none
    else none
  else if down ≤ greatestPower then some (ofInt count / powerOfTen down)
  else if down ≤ 2 * greatestPower then
    some (ofInt count / powerOfTen greatestPower / powerOfTen (down - greatestPower))
  else some 0

theorem fillCount_le {count : Nat} (h : count ≤ countLimit) (ds : List Char) :
    (fillCount count ds).1 ≤ countLimit := by
  fun_induction fillCount count ds with
  | case1 => exact h
  | case2 count d ds more hmore ih => exact ih hmore
  | case3 => exact h

/-- All digits are taken in where the whole of them fits. -/
theorem fillCount_eq {count : Nat} {ds : List Char}
    (h : ds.foldl (fun n d => n * 10 + (d.toNat - '0'.toNat)) count ≤ countLimit) :
    fillCount count ds = (ds.foldl (fun n d => n * 10 + (d.toNat - '0'.toNat)) count, 0) := by
  fun_induction fillCount count ds with
  | case1 => rfl
  | case2 count d ds more hmore ih => exact ih h
  | case3 count d ds more hmore =>
    -- what comes behind makes the count no smaller
    have hle (m : Nat) (ds : List Char) :
        m ≤ ds.foldl (fun n d => n * 10 + (d.toNat - '0'.toNat)) m := by
      induction ds generalizing m with
      | nil => exact Nat.le_refl m
      | cons d ds ih => exact Nat.le_trans (show m ≤ m * 10 + _ by omega) (ih _)
    exact absurd (Nat.le_trans (hle more ds) h) hmore

end Pressroom.Number
