/-!
Hexadecimal digits, read in either case and written in small letters.
-/

namespace Pressroom.Text

def hexValue? (c : Char) : Option Nat :=
  if '0' ≤ c && c ≤ '9' then some (c.toNat - '0'.toNat)
  else if 'a' ≤ c && c ≤ 'f' then some (c.toNat - 'a'.toNat + 10)
  else if 'A' ≤ c && c ≤ 'F' then some (c.toNat - 'A'.toNat + 10)
  else none

/-- The number that hexadecimal digits spell, continuing one that has been read. -/
def hexNumber? (n : Nat) : List Char → Option Nat
  | [] => some n
  | c :: rest =>
    match hexValue? c with
    | some digit => hexNumber? (n * 16 + digit) rest
    | none => none

def hexDigits (n : Nat) : List Char :=
  Nat.toDigits 16 n

end Pressroom.Text
