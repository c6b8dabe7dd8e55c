import Mathlib.Data.Nat.Digits.Defs
import Mathlib.Tactic.Ring
import Pressroom.Text.Hex

/-!
Hexadecimal digits and the number that they spell, in whichever case the letters are. Main
statement: a text is read as a number just when it consists of digits of that number.
-/

namespace Pressroom.Text

/-- Hexadecimal digits, in either case, of a number. -/
def IsHex (digits : List Char) (n : Nat) : Prop :=
  ∃ ds : List (Fin 16), digits.map Char.toLower = ds.map (fun d => d.val.digitChar) ∧
    n = Nat.ofDigits (16 : Nat) (ds.reverse.map Fin.val)

lemma hexValue?_ascii : ∀ n < 128,
    (∀ d : Fin 16, hexValue? (Char.ofNat n) = some d.val ↔
      (Char.ofNat n).toLower = d.val.digitChar) ∧
    ∀ v ∈ hexValue? (Char.ofNat n), v < 16 := by
  decide +kernel

lemma hexValue?_of_not_ascii {c : Char} (h : 128 ≤ c.toNat) :
    hexValue? c = none ∧ c.toLower = c := by
  have habove {x : Char} (hx : x.toNat < 128) : ¬ c ≤ x := fun hle => by
    have : c.toNat ≤ x.toNat := UInt32.le_iff_toNat_le.1 hle
    omega
  have hlower : c.toLower = c := dif_neg fun hupper =>
    habove (x := 'Z') (by decide) hupper.2
  simp [hexValue?, habove (x := '9') (by decide), habove (x := 'f') (by decide),
    habove (x := 'F') (by decide), hlower]

lemma hexValue?_eq_some_iff {c : Char} {n : Nat} :
    hexValue? c = some n ↔ ∃ d : Fin 16, c.toLower = d.val.digitChar ∧ n = d := by
  by_cases h : c.toNat < 128
  · obtain ⟨hdigit, hsmall⟩ := hexValue?_ascii c.toNat h
    rw [Char.ofNat_toNat] at hdigit hsmall
    constructor
    · intro hn
      exact ⟨⟨n, hsmall n hn⟩, (hdigit _).1 hn, rfl⟩
    · rintro ⟨d, hd, rfl⟩
      exact (hdigit d).2 hd
  · obtain ⟨hnone, hlower⟩ := hexValue?_of_not_ascii (Nat.le_of_not_lt h)
    rw [hnone, hlower]
    refine ⟨fun hn => absurd hn.symm (Option.some_ne_none n), ?_⟩
    rintro ⟨d, rfl, rfl⟩
    have hascii : ∀ d : Fin 16, d.val.digitChar.toNat < 128 := by decide
    exact absurd (hascii d) h

lemma isHex_nil {n : Nat} : IsHex [] n ↔ n = 0 := by
  constructor
  · rintro ⟨ds, hds, rfl⟩
    rw [List.map_nil, eq_comm, List.map_eq_nil_iff] at hds
    rw [hds]
    rfl
  · rintro rfl
    exact ⟨[], rfl, rfl⟩

lemma isHex_cons {c : Char} {digits : List Char} {n : Nat} :
    IsHex (c :: digits) n ↔ ∃ (d : Fin 16) (k : Nat), c.toLower = d.val.digitChar ∧
      IsHex digits k ∧ n = d.val * 16 ^ digits.length + k := by
  have hvalue (d : Fin 16) (ds : List (Fin 16)) :
      Nat.ofDigits (16 : Nat) ((d :: ds).reverse.map Fin.val) =
        d.val * 16 ^ ds.length + Nat.ofDigits (16 : Nat) (ds.reverse.map Fin.val) := by
    rw [List.reverse_cons, List.map_append, Nat.ofDigits_append, List.map_singleton,
      Nat.ofDigits_singleton, List.length_map, List.length_reverse]
    ring
  constructor
  · rintro ⟨ds, hds, rfl⟩
    cases ds with
    | nil => cases hds
    | cons d ds =>
      obtain ⟨hd, hds⟩ := List.cons.inj hds
      have hlength : digits.length = ds.length := by simpa using congrArg List.length hds
      exact ⟨d, _, hd, ⟨ds, hds, rfl⟩, by rw [hvalue, hlength]⟩
  · rintro ⟨d, k, hd, ⟨ds, hds, rfl⟩, rfl⟩
    have hlength : digits.length = ds.length := by simpa using congrArg List.length hds
    exact ⟨d :: ds, by rw [List.map_cons, List.map_cons, hd, hds], by rw [hvalue, hlength]⟩

lemma IsHex.lt {digits : List Char} {n : Nat} (h : IsHex digits n) : n < 16 ^ digits.length := by
  obtain ⟨ds, hds, rfl⟩ := h
  have hlength : digits.length = (ds.reverse.map Fin.val).length := by
    simpa using congrArg List.length hds
  rw [hlength]
  exact Nat.ofDigits_lt_base_pow_length (by decide) (by simp)

/-- **Digits are read as the number that they spell**, behind the one that has been read. -/
theorem hexNumber?_eq_some_iff {digits : List Char} {n m : Nat} :
    hexNumber? n digits = some m ↔
      ∃ k, IsHex digits k ∧ m = n * 16 ^ digits.length + k := by
  induction digits generalizing n with
  | nil => simp [hexNumber?, isHex_nil, eq_comm]
  | cons c digits ih =>
    have hstep : hexNumber? n (c :: digits) = some m ↔
        ∃ v, hexValue? c = some v ∧ hexNumber? (n * 16 + v) digits = some m := by
      cases hv : hexValue? c <;> simp [hexNumber?, hv]
    simp only [hstep, hexValue?_eq_some_iff, ih, isHex_cons, List.length_cons]
    constructor
    · rintro ⟨_, ⟨d, hd, rfl⟩, k, hk, rfl⟩
      exact ⟨_, ⟨d, k, hd, hk, rfl⟩, by ring⟩
    · rintro ⟨_, ⟨d, k, hd, hk, rfl⟩, rfl⟩
      exact ⟨d, ⟨d, hd, rfl⟩, k, hk, by ring⟩

lemma IsHex.digit {digits : List Char} {n : Nat} (h : IsHex digits n) {c : Char}
    (hc : c ∈ digits) : ∃ d : Fin 16, c.toLower = d.val.digitChar := by
  obtain ⟨ds, hds, -⟩ := h
  obtain ⟨d, -, hd⟩ := List.mem_map.1 (hds ▸ List.mem_map_of_mem hc)
  exact ⟨d, hd.symm⟩

lemma not_isHex_plus {digits : List Char} {n : Nat} : ¬ IsHex ('+' :: digits) n := by
  intro h
  obtain ⟨d, hd⟩ := h.digit List.mem_cons_self
  revert d
  decide

end Pressroom.Text
