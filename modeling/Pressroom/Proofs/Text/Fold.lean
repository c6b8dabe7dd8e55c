import Mathlib.Data.List.Infix
import Mathlib.Data.List.TakeWhile
import Mathlib.Tactic.Lemma
import Pressroom.Text.Blank
import Pressroom.Text.Fold

/-!
Words and blanks at the start of a text. What they leave is a suffix of the text, and it is found
whatever stands behind it.
-/

namespace Pressroom.Text

variable {fold : Char → Char}

-- What the characters of a text are like is decided along the text: the library also has instances
-- that try every character there is.

instance decidableBall {p : Char → Prop} [DecidablePred p] (cs : List Char) :
    Decidable (∀ c ∈ cs, p c) :=
  List.decidableBAll p cs

instance decidableBallOption {p : Char → Prop} [DecidablePred p] (o : Option Char) :
    Decidable (∀ c ∈ o, p c) :=
  Option.decidableForallMem o

lemma stripFolded?_eq_some_iff {pattern cs rest : List Char} :
    stripFolded? fold pattern cs = some rest ↔
      ∃ word, cs = word ++ rest ∧ word.map fold = pattern.map fold := by
  induction pattern generalizing cs with
  | nil => simp [stripFolded?, eq_comm]
  | cons p pattern ih =>
    cases cs with
    | nil =>
      simp only [stripFolded?, reduceCtorEq, false_iff, not_exists, not_and]
      rintro word h
      have : word = [] := (List.append_eq_nil_iff.1 h.symm).1
      simp [this]
    | cons c cs =>
      simp only [stripFolded?]
      split
      · next h =>
        rw [ih]
        constructor
        · rintro ⟨word, rfl, hw⟩
          exact ⟨c :: word, rfl, by simp [h, hw]⟩
        · rintro ⟨word, hcs, hw⟩
          cases word with
          | nil => simp at hw
          | cons w word =>
            simp only [List.cons_append, List.cons.injEq, List.map_cons] at hcs hw
            exact ⟨word, hcs.2, hw.2⟩
      · next h =>
        simp only [reduceCtorEq, false_iff, not_exists, not_and]
        rintro word hcs hw
        cases word with
        | nil => simp at hw
        | cons w word =>
          simp only [List.cons_append, List.cons.injEq, List.map_cons] at hcs hw
          exact h (hcs.1 ▸ hw.1)

lemma stripFolded?_self (pattern rest : List Char) :
    stripFolded? fold pattern (pattern ++ rest) = some rest :=
  stripFolded?_eq_some_iff.2 ⟨pattern, rfl, rfl⟩

lemma stripFolded?_append_iff {pattern cs more rest : List Char} :
    stripFolded? fold pattern (cs ++ more) = some (rest ++ more) ↔
      stripFolded? fold pattern cs = some rest := by
  simp only [stripFolded?_eq_some_iff, ← List.append_assoc, List.append_cancel_right_eq]

lemma stripFolded?_append {p q cs : List Char} :
    stripFolded? fold (p ++ q) cs = (stripFolded? fold p cs).bind (stripFolded? fold q) := by
  induction p generalizing cs with
  | nil => simp [stripFolded?]
  | cons a p ih =>
    cases cs with
    | nil => rfl
    | cons c cs =>
      simp only [List.cons_append, stripFolded?]
      split
      · exact ih
      · rfl

lemma stripFolded?_comparable {p q cs r s : List Char} (hp : stripFolded? fold p cs = some r)
    (hq : stripFolded? fold q cs = some s) :
    p.map fold <+: q.map fold ∨ q.map fold <+: p.map fold := by
  obtain ⟨u, rfl, hu⟩ := stripFolded?_eq_some_iff.1 hp
  obtain ⟨v, hv, hw⟩ := stripFolded?_eq_some_iff.1 hq
  rw [← hu, ← hw]
  rcases List.prefix_or_prefix_of_prefix (List.prefix_append u r) (hv ▸ List.prefix_append v s) with
    h | h
  · exact .inl (h.map fold)
  · exact .inr (h.map fold)

lemma toNat_foldAscii (c : Char) :
    (foldAscii c).toNat = if 65 ≤ c.toNat ∧ c.toNat ≤ 90 then c.toNat + 32 else c.toNat := by
  unfold foldAscii Char.toLower
  split
  · next h =>
    have h1 : 65 ≤ c.toNat := UInt32.le_iff_toNat_le.1 h.1
    have h2 : c.toNat ≤ 90 := UInt32.le_iff_toNat_le.1 h.2
    rw [if_pos ⟨h1, h2⟩]
    show (c.val + 32).toNat = c.toNat + 32
    rw [UInt32.toNat_add]
    have : (32 : UInt32).toNat = 32 := rfl
    exact Nat.mod_eq_of_lt (by show c.toNat + _ < _; omega)
  · next h =>
    rw [if_neg]
    rintro ⟨h1, h2⟩
    exact h ⟨UInt32.le_iff_toNat_le.2 h1, UInt32.le_iff_toNat_le.2 h2⟩

lemma foldAscii_cases (c : Char) :
    foldAscii c = c ∨ (65 ≤ c.toNat ∧ c.toNat ≤ 90 ∧ (foldAscii c).toNat = c.toNat + 32) := by
  have h := toNat_foldAscii c
  split at h
  · next hc => exact .inr ⟨hc.1, hc.2, h⟩
  · exact .inl (Char.toNat_inj.1 h)

lemma eq_of_foldAscii {c x : Char} (hx : x.toNat < 97 ∨ 122 < x.toNat)
    (h : foldAscii c = x) : c = x := by
  rcases foldAscii_cases c with hc | ⟨h1, h2, h3⟩
  · exact hc ▸ h
  · rw [h] at h3
    omega

lemma foldAscii_eq_iff {c x : Char} (hx : x.isAlpha = false) :
    foldAscii c = foldAscii x ↔ c = x := by
  have hcase : x.isUpper = false ∧ x.isLower = false := Bool.or_eq_false_iff.1 hx
  have hsmall : ¬ (97 ≤ x.toNat ∧ x.toNat ≤ 122) := by
    rintro ⟨h1, h2⟩
    have hlower : x.isLower = true :=
      Bool.and_eq_true_iff.2 ⟨decide_eq_true (UInt32.le_iff_toNat_le.2 h1),
        decide_eq_true (UInt32.le_iff_toNat_le.2 h2)⟩
    exact Bool.false_ne_true (hcase.2.symm.trans hlower)
  have hcapital : ¬ (65 ≤ x.toNat ∧ x.toNat ≤ 90) := by
    rintro ⟨h1, h2⟩
    have hupper : x.isUpper = true :=
      decide_eq_true ⟨UInt32.le_iff_toNat_le.2 h1, UInt32.le_iff_toNat_le.2 h2⟩
    exact Bool.false_ne_true (hcase.1.symm.trans hupper)
  have hfix : foldAscii x = x := by
    rcases foldAscii_cases x with h | ⟨h1, h2, -⟩
    · exact h
    · exact absurd ⟨h1, h2⟩ hcapital
  rw [hfix]
  exact ⟨eq_of_foldAscii (by omega), fun h => h ▸ hfix⟩

lemma eq_of_foldSimple {c x : Char} (hx : x.toNat < 97 ∨ 122 < x.toNat)
    (h : foldSimple c = x) : c = x := by
  unfold foldSimple at h
  split at h
  · subst h; exact absurd hx (by decide)
  · split at h
    · subst h; exact absurd hx (by decide)
    · exact eq_of_foldAscii hx h

lemma eq_of_foldSimple_eq_a {c : Char} (h : foldSimple c = 'a') : c = 'a' ∨ c = 'A' := by
  unfold foldSimple at h
  split at h
  · exact absurd h (by decide)
  · split at h
    · exact absurd h (by decide)
    · rcases foldAscii_cases c with hc | ⟨-, -, hc⟩
      · exact .inl (hc ▸ h)
      · have h : foldAscii c = 'a' := h
        rw [h] at hc
        have hc : c.toNat = 65 := by
          have : 'a'.toNat = 97 := rfl
          omega
        exact .inr (Char.toNat_inj.1 hc)

lemma stripFolded?_eq_strip? {fold : Char → Char} {pattern cs : List Char}
    (h : ∀ p ∈ pattern, ∀ c, fold c = fold p → c = p) :
    stripFolded? fold pattern cs = strip? pattern cs := by
  induction pattern generalizing cs with
  | nil => rfl
  | cons p pattern ih =>
    cases cs with
    | nil => rfl
    | cons c cs =>
      simp only [stripFolded?, strip?]
      by_cases hc : c = p
      · subst hc
        simpa using ih fun q hq => h q (by simp [hq])
      · rw [if_neg hc, if_neg fun he => hc (h p (by simp) c he)]

lemma dropWhile_append_iff {p : Char → Bool} {cs more rest : List Char} (h : rest ≠ []) :
    (cs ++ more).dropWhile p = rest ++ more ↔ cs.dropWhile p = rest := by
  rw [List.dropWhile_append]
  split
  · next hcs =>
    rw [List.isEmpty_iff] at hcs
    constructor
    · intro hs
      have := (List.dropWhile_sublist p (l := more)).length_le
      rw [hs, List.length_append] at this
      have := List.length_pos_iff.2 h
      omega
    · intro hs
      exact absurd (hs.symm.trans hcs) h
  · exact List.append_left_inj more

lemma takeWhile_append_of_dropWhile_ne_nil {p : Char → Bool} {cs : List Char} (more : List Char)
    (h : cs.dropWhile p ≠ []) : (cs ++ more).takeWhile p = cs.takeWhile p := by
  induction cs with
  | nil => simp at h
  | cons c cs ih =>
    simp only [List.cons_append, List.takeWhile_cons, List.dropWhile_cons] at h ⊢
    split
    · next hc => rw [ih (by simpa [hc] using h)]
    · rfl

lemma span_append {p : Char → Bool} {cs rest : List Char} (hcs : ∀ c ∈ cs, p c = true)
    (hrest : ∀ c ∈ rest.head?, p c = false) :
    (cs ++ rest).takeWhile p = cs ∧ (cs ++ rest).dropWhile p = rest := by
  rw [List.takeWhile_append_of_pos hcs, List.dropWhile_append_of_pos hcs]
  cases rest with
  | nil => simp
  | cons c rest => simp [hrest c rfl]

lemma span_takeWhile (p : Char → Bool) (cs : List Char) :
    (cs.takeWhile p).takeWhile p = cs.takeWhile p ∧ (cs.takeWhile p).dropWhile p = [] := by
  have hall : ∀ c ∈ cs.takeWhile p, p c = true := fun c hc => List.mem_takeWhile_imp hc
  exact ⟨List.takeWhile_eq_self_iff.2 hall, List.dropWhile_eq_nil_iff.2 hall⟩

lemma skipBlanks_append_iff {cs more rest : List Char} (h : rest ≠ []) :
    skipBlanks (cs ++ more) = rest ++ more ↔ skipBlanks cs = rest :=
  dropWhile_append_iff h

end Pressroom.Text
