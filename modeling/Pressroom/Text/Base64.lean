/-!
Base64 with the standard alphabet and padding: three bytes become four letters.
-/

namespace Pressroom.Text

/-- The 64 letters in order of their values. -/
def base64Alphabet : List Char :=
  "ABCDEFGHIJKLMNOPQRSTUVWXYZabcdefghijklmnopqrstuvwxyz0123456789+/".toList

def base64Letter (n : Nat) : Char :=
  base64Alphabet.getD (n % 64) '='

def base64 : List UInt8 → List Char
  | [] => []
  | [a] =>
    let n := a.toNat * 16
    [base64Letter (n / 64), base64Letter n, '=', '=']
  | [a, b] =>
    let n := (a.toNat * 256 + b.toNat) * 4
    [base64Letter (n / 4096), base64Letter (n / 64), base64Letter n, '=']
  | a :: b :: c :: rest =>
    let n := (a.toNat * 256 + b.toNat) * 256 + c.toNat
    base64Letter (n / 262144) :: base64Letter (n / 4096) :: base64Letter (n / 64) ::
      base64Letter n :: base64 rest

theorem length_base64 : (bytes : List UInt8) →
    (base64 bytes).length = (bytes.length + 2) / 3 * 4
  | [] => by simp [base64]
  | [_] => by simp [base64]
  | [_, _] => by simp [base64]
  | _ :: _ :: _ :: rest => by
    simp only [base64, List.length_cons, length_base64 rest]
    omega

theorem base64Letter_mem (n : Nat) : base64Letter n ∈ base64Alphabet := by
  have hlt : n % 64 < base64Alphabet.length := Nat.mod_lt _ (by decide)
  rw [base64Letter, List.getD_eq_getElem?_getD, List.getElem?_eq_getElem hlt]
  exact List.getElem_mem hlt

theorem mem_base64 {c : Char} : {bytes : List UInt8} → c ∈ base64 bytes →
    c = '=' ∨ c ∈ base64Alphabet
  | [], h => nomatch h
  | [_], h => by
    simp only [base64, List.mem_cons, List.not_mem_nil, or_false] at h
    rcases h with rfl | rfl | rfl | rfl <;> simp [base64Letter_mem]
  | [_, _], h => by
    simp only [base64, List.mem_cons, List.not_mem_nil, or_false] at h
    rcases h with rfl | rfl | rfl | rfl <;> simp [base64Letter_mem]
  | _ :: _ :: _ :: rest, h => by
    simp only [base64, List.mem_cons] at h
    rcases h with rfl | rfl | rfl | rfl | h
    · exact .inr (base64Letter_mem _)
    · exact .inr (base64Letter_mem _)
    · exact .inr (base64Letter_mem _)
    · exact .inr (base64Letter_mem _)
    · exact mem_base64 h

end Pressroom.Text
