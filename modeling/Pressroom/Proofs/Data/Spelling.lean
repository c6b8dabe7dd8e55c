import Mathlib.Data.List.TakeWhile
import Mathlib.Tactic.IntervalCases
import Pressroom.Data.Lexeme
import Pressroom.Data.Printer

/-!
JSON text of strings and numbers, read back. A string is read as itself whatever stands behind it. A
number is told from what follows by the first character that no number is made of, so it is read in
front of other text as it is read on its own. Whole numbers that fit into 64 bits are read exactly.
-/

namespace Pressroom.Lexeme

/-! ### Strings -/

lemma stringCodes_plain {c : Char} (hquote : c ≠ '"') (hslash : c ≠ '\\') (hlow : 0x20 ≤ c.toNat)
    (rest : List Char) :
    stringCodes (c :: rest) = (stringCodes rest).map fun p => (c.toNat :: p.1, p.2) := by
  rw [stringCodes]
  · rw [if_neg (by simp [hslash]; omega)]
    cases stringCodes rest <;> rfl
  all_goals simp [hquote, hslash]

lemma stringCodes_escape {c d : Char} (hescape : escape? c = some d) (rest : List Char) :
    stringCodes ('\\' :: c :: rest) = (stringCodes rest).map fun p => (d.toNat :: p.1, p.2) := by
  have hu : c ≠ 'u' := by
    rintro rfl
    cases hescape
  rw [stringCodes]
  · rw [hescape]
    cases stringCodes rest <;> rfl
  · simp [hu]

lemma hexNumber?_control : ∀ n < 0x20,
    Text.hexNumber? 0 ['0', '0', Nat.digitChar (n / 16), Nat.digitChar (n % 16)] = some n := by
  decide

lemma stringCodes_jsonChar (c : Char) (rest : List Char) :
    stringCodes (jsonChar c ++ rest) =
      (stringCodes rest).map fun p => (c.toNat :: p.1, p.2) := by
  unfold jsonChar
  split
  · exact stringCodes_escape rfl rest
  · exact stringCodes_escape rfl rest
  · exact stringCodes_escape rfl rest
  · exact stringCodes_escape rfl rest
  · exact stringCodes_escape rfl rest
  · exact stringCodes_escape rfl rest
  · exact stringCodes_escape rfl rest
  · next hquote hslash _ _ _ _ _ =>
    split
    · next hlow =>
      simp only [List.cons_append, List.nil_append]
      rw [stringCodes, hexNumber?_control c.toNat hlow]
      cases stringCodes rest <;> rfl
    · next hlow => exact stringCodes_plain hquote hslash (by omega) rest

lemma stringCodes_jsonChars (cs rest : List Char) :
    stringCodes (cs.flatMap jsonChar ++ '"' :: rest) = some (cs.map Char.toNat, rest) := by
  induction cs with
  | nil => rfl
  | cons c cs ih => rw [List.flatMap_cons, List.append_assoc, stringCodes_jsonChar, ih]; rfl

lemma joinHalves_toNat (cs : List Char) : joinHalves (cs.map Char.toNat) = some cs := by
  induction cs with
  | nil => rfl
  | cons c cs ih =>
    have hvalid : c.toNat < 0xD800 ∨ 0xDFFF < c.toNat ∧ c.toNat < 0x110000 := c.valid
    have hlow : isLowHalf c.toNat = false := by
      simp only [isLowHalf, Bool.and_eq_false_iff, decide_eq_false_iff_not]
      omega
    have hhigh : isHighHalf c.toNat = false := by
      simp only [isHighHalf, Bool.and_eq_false_iff, decide_eq_false_iff_not]
      omega
    rw [List.map_cons, joinHalves.eq_def]
    simp only [hlow, hhigh, Bool.false_eq_true, if_false, ih, Option.map_some, Char.ofNat_toNat]

/-- **A string is read back.** -/
lemma next_jsonString (s : String) (rest : List Char) :
    next (jsonString s ++ rest) = (.str (some s), rest) := by
  have htext : jsonString s ++ rest = '"' :: (s.toList.flatMap jsonChar ++ '"' :: rest) := by
    simp [jsonString]
  rw [htext, next, string?, stringCodes_jsonChars, Option.map_some, Option.getD_some]
  dsimp only
  rw [joinHalves_toNat, Option.map_some, String.ofList_toList]

/-! ### Numbers -/

/-- What may follow a number: nothing, or a character that no number is made of. -/
def Apart (rest : List Char) : Prop :=
  ∀ c ∈ rest.head?, isGap c = true ∨ c = ',' ∨ c = ']' ∨ c = '}'

lemma apart_nil : Apart [] := by
  simp [Apart]

lemma Apart.tail_irrelevant {c : Char} {rest : List Char} (h : Apart (c :: rest)) :
    c.isDigit = false ∧ c ≠ '.' ∧ c ≠ '-' ∧ c ≠ '+' ∧ (c == 'e' || c == 'E') = false := by
  rcases h c rfl with hgap | rfl | rfl | rfl
  · simp only [isGap, Bool.or_eq_true, beq_iff_eq] at hgap
    rcases hgap with ((rfl | rfl) | rfl) | rfl <;> decide
  all_goals decide

section Apart

variable {cs ds r rest : List Char} (hrest : Apart rest)

include hrest

lemma spanDigits_append (cs : List Char) :
    Number.spanDigits (cs ++ rest) =
      ((Number.spanDigits cs).1, (Number.spanDigits cs).2 ++ rest) := by
  unfold Number.spanDigits
  induction cs with
  | nil =>
    cases rest with
    | nil => rfl
    | cons c rest => simp [hrest.tail_irrelevant.1]
  | cons c cs ih =>
    obtain ⟨htake, hdrop⟩ := Prod.mk.inj ih
    cases hc : c.isDigit <;> simp [hc, htake, hdrop]

lemma sign_append (cs : List Char) :
    Number.sign (cs ++ rest) = ((Number.sign cs).1, (Number.sign cs).2 ++ rest) := by
  cases cs with
  | nil =>
    cases rest with
    | nil => rfl
    | cons c rest =>
      obtain ⟨-, -, hminus, hplus, -⟩ := hrest.tail_irrelevant
      unfold Number.sign
      split <;> simp_all
  | cons c cs =>
    unfold Number.sign
    split <;> simp_all

lemma wholeDigits?_append (h : wholeDigits? cs = some (ds, r)) :
    wholeDigits? (cs ++ rest) = some (ds, r ++ rest) := by
  unfold wholeDigits? at h ⊢
  rw [spanDigits_append hrest]
  dsimp only at h ⊢
  split at h
  · cases h
  · next hdigits =>
    cases h
    rw [if_neg hdigits]

lemma fraction?_append (h : fraction? cs = some (ds, r)) :
    fraction? (cs ++ rest) = some (ds, r ++ rest) := by
  unfold fraction? at h
  split at h
  · next tail =>
    rw [List.cons_append, fraction?, spanDigits_append hrest]
    dsimp only at h ⊢
    split at h
    · cases h
    · next hdigits =>
      cases h
      rw [if_neg hdigits]
  · next hpoint =>
    cases h
    rw [fraction?]
    intro tail htail
    cases cs with
    | nil =>
      subst htail
      exact hrest.tail_irrelevant.2.1 rfl
    | cons c cs => exact hpoint cs (congrArg (· :: cs) (List.cons.inj htail).1)

lemma exponent?_append {e : Option Int} (h : exponent? cs = some (e, r)) :
    exponent? (cs ++ rest) = some (e, r ++ rest) := by
  cases cs with
  | nil =>
    cases h
    cases rest with
    | nil => rfl
    | cons c rest =>
      obtain ⟨-, -, -, -, hmark⟩ := hrest.tail_irrelevant
      rw [List.nil_append, exponent?, hmark]
      rfl
  | cons c cs =>
    rw [exponent?] at h
    rw [List.cons_append, exponent?, sign_append hrest]
    dsimp only at h ⊢
    rw [spanDigits_append hrest]
    split at h
    · next hmark =>
      rw [if_pos hmark]
      split at h
      · cases h
      · next hdigits =>
        cases h
        rw [if_neg hdigits]
    · next hmark =>
      cases h
      rw [if_neg hmark]
      rfl

lemma number?_append {negative : Bool} {lexeme : Lexeme}
    (h : number? negative cs = some (lexeme, r)) :
    number? negative (cs ++ rest) = some (lexeme, r ++ rest) := by
  simp only [number?, Option.bind_eq_bind, Option.bind_eq_some_iff, Option.pure_def,
    Option.some.injEq, Prod.mk.injEq, Prod.exists] at h ⊢
  obtain ⟨whole, r₁, hwhole, fraction, r₂, hfraction, exponent, r₃, hexponent, hlexeme, rfl⟩ := h
  exact ⟨whole, _, wholeDigits?_append hrest hwhole, fraction, _,
    fraction?_append hrest hfraction, exponent, _, exponent?_append hrest hexponent, hlexeme, rfl⟩

end Apart

/-! ### Numerals -/

/-- A number is read back from its text, of which nothing is left. -/
def ReadsBack (n : Numeral) : Prop :=
  next n.json = (.num (some n), [])

lemma next_of_isDigit {c : Char} (hc : c.isDigit = true) (cs : List Char) :
    next (c :: cs) = (number? false (c :: cs)).getD (.fault, []) := by
  unfold next
  split
  case h_12 => rfl
  all_goals
    next heq =>
      cases heq
      cases hc

lemma isDigit_of_number? {negative : Bool} {c : Char} {cs rest : List Char} {lexeme : Lexeme}
    (h : number? negative (c :: cs) = some (lexeme, rest)) : c.isDigit = true := by
  simp only [number?, Option.bind_eq_bind, Option.bind_eq_some_iff, Prod.exists] at h
  obtain ⟨whole, r, hwhole, -⟩ := h
  unfold wholeDigits? Number.spanDigits at hwhole
  by_contra hc
  simp [hc] at hwhole

lemma number?_of_next {cs : List Char} {n : Option Numeral} {rest : List Char}
    (h : next cs = (.num n, rest)) :
    (∃ tail, cs = '-' :: tail ∧ number? true tail = some (.num n, rest)) ∨
      number? false cs = some (.num n, rest) := by
  unfold next at h
  split at h
  case h_10 tail =>
    exfalso
    cases hs : string? tail with
    | none => rw [hs] at h; cases h
    | some found =>
      rw [hs] at h
      obtain ⟨codes, hcodes, rfl⟩ := Option.map_eq_some_iff.1 hs
      cases h
  case h_11 tail =>
    refine .inl ⟨tail, rfl, ?_⟩
    cases hn : number? true tail with
    | none => rw [hn] at h; cases h
    | some found => rw [hn] at h; exact congrArg some h
  case h_12 =>
    refine .inr ?_
    cases hn : number? false cs with
    | none => rw [hn] at h; cases h
    | some found => rw [hn] at h; exact congrArg some h
  all_goals cases h

lemma next_json {n : Numeral} (h : ReadsBack n) {rest : List Char} (hrest : Apart rest) :
    next (n.json ++ rest) = (.num (some n), rest) := by
  rcases number?_of_next h with ⟨tail, hjson, hnumber⟩ | hnumber
  · rw [hjson, List.cons_append, next, number?_append hrest hnumber]
    rfl
  · have hread := number?_append hrest hnumber
    cases hjson : n.json with
    | nil => rw [hjson] at hnumber; cases hnumber
    | cons c cs =>
      rw [hjson] at hread hnumber
      rw [List.cons_append, next_of_isDigit (isDigit_of_number? hnumber), ← List.cons_append, hread]
      rfl

/-! ### Whole numbers -/

/-- A number that can be held: one that is whole and exact fits into 64 bits. -/
def Held : Numeral → Prop
  | .int n => -(Number.signBit : Int) ≤ n ∧ n ≤ Number.countLimit
  | .float _ => True

lemma ofDigits_digits (n : Nat) : Number.ofDigits (Nat.toDigits 10 n) = n := by
  rw [Number.ofDigits]
  simpa only [Nat.ofDigitChars_eq_foldl, Nat.mul_comm] using Nat.ofDigitChars_ten_toDigits (n := n)

lemma spanDigits_digits (n : Nat) :
    Number.spanDigits (Nat.toDigits 10 n) = (Nat.toDigits 10 n, []) := by
  have hdigits : ∀ c ∈ Nat.toDigits 10 n, c.isDigit = true := fun c =>
    Nat.isDigit_of_mem_toDigits (by decide) (by decide)
  rw [Number.spanDigits, List.takeWhile_eq_self_iff.2 hdigits, List.dropWhile_eq_nil_iff.2 hdigits]

lemma head_digits {n : Nat} (hn : 0 < n) : (Nat.toDigits 10 n).head? ≠ some '0' := by
  induction n using Nat.strong_induction_on with
  | _ n ih =>
    by_cases hsmall : n < 10
    · rw [Nat.toDigits_of_lt_base hsmall]
      interval_cases n <;> decide
    · rw [Nat.toDigits_of_base_le (by decide) (by omega)]
      have := ih (n / 10) (by omega) (by omega)
      cases hd : Nat.toDigits 10 (n / 10) with
      | nil => exact absurd hd Nat.toDigits_ne_nil
      | cons c cs => rw [hd] at this; exact this

lemma wholeDigits?_digits (n : Nat) :
    wholeDigits? (Nat.toDigits 10 n) = some (Nat.toDigits 10 n, []) := by
  unfold wholeDigits?
  rw [spanDigits_digits]
  dsimp only
  rw [if_neg]
  rcases Nat.eq_zero_or_pos n with rfl | hn
  · decide
  · simp [head_digits hn]

lemma numeral?_digits (negative : Bool) {n : Nat} (h : n ≤ Number.countLimit) :
    numeral? negative (Nat.toDigits 10 n) [] none = some (wholeNumeral negative n) := by
  have hcount : Number.fillCount 0 (Nat.toDigits 10 n) = (n, 0) := by
    have hn := ofDigits_digits n
    rw [Number.ofDigits] at hn
    rw [Number.fillCount_eq (hn.symm ▸ h), hn]
  rw [numeral?, hcount]
  rfl

lemma number?_digits (negative : Bool) {n : Nat} (h : n ≤ Number.countLimit) :
    number? negative (Nat.toDigits 10 n) = some (.num (some (wholeNumeral negative n)), []) := by
  rw [← numeral?_digits negative h, number?, wholeDigits?_digits]
  rfl

lemma toList_toString_ofNat (n : Nat) : (toString (Int.ofNat n)).toList = Nat.toDigits 10 n :=
  Nat.toList_repr

lemma toList_toString_negSucc (n : Nat) :
    (toString (Int.negSucc n)).toList = '-' :: Nat.toDigits 10 (n + 1) := by
  show ("-" ++ (n + 1).repr).toList = _
  rw [String.toList_append, Nat.toList_repr]
  rfl

/-- **A whole number is read back.** -/
lemma readsBack_int {n : Int} (h : Held (.int n)) : ReadsBack (.int n) := by
  obtain ⟨hlow, hhigh⟩ := h
  rw [ReadsBack, Numeral.json]
  cases n with
  | ofNat n =>
    have hn : n ≤ Number.countLimit := Int.ofNat_le.1 hhigh
    have hnumber := number?_digits false hn
    rw [toList_toString_ofNat]
    cases hdigits : Nat.toDigits 10 n with
    | nil => exact absurd hdigits Nat.toDigits_ne_nil
    | cons c cs =>
      rw [hdigits] at hnumber
      rw [next_of_isDigit (isDigit_of_number? hnumber), hnumber]
      rfl
  | negSucc n =>
    have hn : n + 1 ≤ Number.signBit := by omega
    have hlimit : n + 1 ≤ Number.countLimit := hn.trans (by decide)
    rw [toList_toString_negSucc, next, number?_digits true hlimit, wholeNumeral]
    simp [hn, Int.negSucc_eq]

lemma held_wholeNumeral (negative : Bool) {n : Nat} (h : n ≤ Number.countLimit) :
    Held (wholeNumeral negative n) := by
  unfold wholeNumeral
  split
  · have : (n : Int) ≤ Number.countLimit := Int.ofNat_le.2 h
    simp only [Held]
    omega
  · split
    · next h =>
      simp only [Bool.and_eq_true, decide_eq_true_eq] at h
      simp only [Held]
      omega
    · trivial

lemma held_of_numeral? {negative : Bool} {whole fraction : List Char} {exponent : Option Int}
    {n : Numeral} (h : numeral? negative whole fraction exponent = some n) : Held n := by
  unfold numeral? at h
  dsimp only at h
  split at h
  · cases h
    exact held_wholeNumeral negative (Number.fillCount_le (Nat.zero_le _) whole)
  · obtain ⟨x, -, rfl⟩ := Option.map_eq_some_iff.1 h
    trivial

lemma held_of_number? {negative : Bool} {cs rest : List Char} {n : Numeral}
    (h : number? negative cs = some (.num (some n), rest)) : Held n := by
  simp only [number?, Option.bind_eq_bind, Option.bind_eq_some_iff, Option.pure_def,
    Option.some.injEq, Prod.mk.injEq, Prod.exists, Lexeme.num.injEq] at h
  obtain ⟨whole, r₁, -, fraction, r₂, -, exponent, r₃, -, hnumeral, -⟩ := h
  exact held_of_numeral? hnumeral

/-- Units whose numbers can be held. -/
def AllHeld (units : List Lexeme) : Prop :=
  ∀ n, Lexeme.num (some n) ∈ units → Held n

lemma AllHeld.of_suffix {units rest : List Lexeme} (h : AllHeld units) (hrest : rest <:+ units) :
    AllHeld rest :=
  fun n hn => h n (hrest.subset hn)

lemma allHeld_ofText (cs : List Char) : AllHeld (ofText cs) := by
  fun_induction ofText cs with
  | case1 => exact fun n hn => absurd hn List.not_mem_nil
  | case2 c rest _ ih => exact ih
  | case3 c rest _ _ ih =>
    intro n hn
    rcases List.mem_cons.1 hn with hhead | htail
    · have hnext : next (c :: rest) = (.num (some n), (next (c :: rest)).2) :=
        Prod.ext hhead.symm rfl
      rcases number?_of_next hnext with ⟨tail, -, hnumber⟩ | hnumber
      · exact held_of_number? hnumber
      · exact held_of_number? hnumber
    · exact ih n htail

end Pressroom.Lexeme
