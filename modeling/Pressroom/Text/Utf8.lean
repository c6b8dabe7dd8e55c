/-!
Text from bytes. A byte sequence that is not UTF-8 is either refused or read with a replacement
character for every longest part that could have begun a character but does not complete it.
-/

namespace Pressroom.Text

/-- The character that stands for bytes that cannot be read. -/
def replacement : Char := '\uFFFD'

/-- Whether a byte continues a character. -/
def isContinuation (b : UInt8) : Bool :=
  0x80 ≤ b && b ≤ 0xBF

/-- How many bytes follow a leading byte, and the range its second byte is taken from. -/
def sequenceOf (lead : UInt8) : Option (Nat × UInt8 × UInt8) :=
  if 0xC2 ≤ lead && lead ≤ 0xDF then some (1, 0x80, 0xBF)
  else if lead == 0xE0 then some (2, 0xA0, 0xBF)
  else if lead == 0xED then some (2, 0x80, 0x9F)
  else if 0xE1 ≤ lead && lead ≤ 0xEF then some (2, 0x80, 0xBF)
  else if lead == 0xF0 then some (3, 0x90, 0xBF)
  else if lead == 0xF4 then some (3, 0x80, 0x8F)
  else if 0xF1 ≤ lead && lead ≤ 0xF3 then some (3, 0x80, 0xBF)
  else none

/-- The payload of a leading byte followed by `count` more. -/
def leadBits (count : Nat) (lead : UInt8) : Nat :=
  match count with
  | 1 => lead.toNat % 32
  | 2 => lead.toNat % 16
  | _ => lead.toNat % 8

/-- Reads up to `count` continuation bytes onto `code`; the answer tells the code if all were
there, and what is left of the input. -/
def continuation : (count : Nat) → (code : Nat) → List UInt8 → Option Nat × List UInt8
  | 0, code, bytes => (some code, bytes)
  | _ + 1, _, [] => (none, [])
  | count + 1, code, b :: bytes =>
    if isContinuation b then continuation count (code * 64 + b.toNat % 64) bytes
    else (none, b :: bytes)

theorem length_continuation_le (count code : Nat) (bytes : List UInt8) :
    (continuation count code bytes).2.length ≤ bytes.length := by
  induction count generalizing code bytes with
  | zero => simp [continuation]
  | succ count ih =>
    cases bytes with
    | nil => simp [continuation]
    | cons b bytes =>
      simp only [continuation]
      split
      · exact Nat.le_succ_of_le (ih ..)
      · simp

/-- The character after a leading byte, `none` where the bytes do not complete one, and what is
left of the input. -/
def sequel (lead : UInt8) (rest : List UInt8) : Option Char × List UInt8 :=
  if lead < 0x80 then (some (Char.ofNat lead.toNat), rest)
  else match sequenceOf lead, rest with
    | some (count, low, high), b :: more =>
      if low ≤ b && b ≤ high then
        let (code, left) := continuation (count - 1) (leadBits count lead * 64 + b.toNat % 64) more
        (code.map Char.ofNat, left)
      else (none, b :: more)
    | _, rest => (none, rest)

theorem length_sequel_le (lead : UInt8) (rest : List UInt8) :
    (sequel lead rest).2.length ≤ rest.length := by
  unfold sequel
  split
  · simp
  · split
    · split
      · exact Nat.le_succ_of_le (length_continuation_le ..)
      · simp
    · simp

/-- The characters of a byte sequence, `none` for each part that is not a character. -/
def readings : List UInt8 → List (Option Char)
  | [] => []
  | lead :: rest =>
    have := length_sequel_le lead rest
    (sequel lead rest).1 :: readings (sequel lead rest).2
termination_by bytes => bytes.length

/-- The text of a byte sequence that is UTF-8 throughout. -/
def decode? (bytes : ByteArray) : Option String :=
  ((readings bytes.toList).mapM id).map String.ofList

/-- The text of a byte sequence, with replacement characters for what is not UTF-8. -/
def decodeLossy (bytes : ByteArray) : String :=
  String.ofList ((readings bytes.toList).map (·.getD replacement))

end Pressroom.Text
