import Pressroom.Proofs.Expr.Spelling
import Pressroom.Proofs.Text.Hex

/-!
What a quoted text says. It ends in front of the first quote that no backslash escapes, and what it
says is read off its characters by a table of escapes. The reader's table has one row more than that
of four hexadecimal digits for the code of a character: a plus sign may stand for the first of them.
-/

namespace Pressroom.Expr

open Lexer Text

/-! ### Where a quoted text ends -/

/-- A text behind which a character is escaped: it ends in an odd number of backslashes. -/
def Escapes (before : List Char) : Prop :=
  (before.reverse.takeWhile (· == '\\')).length % 2 = 1

instance (before : List Char) : Decidable (Escapes before) :=
  inferInstanceAs (Decidable (_ % 2 = 1))

/-- A text up to its first quote that is not escaped, and what follows that quote. -/
structure Closes (q : Quote) (cs body rest : List Char) : Prop where
  cut : cs = body ++ q.mark :: rest
  unescaped : ¬ Escapes body
  first : ∀ before after, cs = before ++ q.mark :: after → ¬ Escapes before →
    body.length ≤ before.length

lemma not_escapes_nil : ¬ Escapes [] := by
  decide

lemma escapes_backslash : Escapes ['\\'] := by
  decide

lemma escapes_cons {c : Char} (hc : c ≠ '\\') (cs : List Char) :
    Escapes (c :: cs) ↔ Escapes cs := by
  unfold Escapes
  rw [List.reverse_cons, List.takeWhile_append]
  split
  · next hall => simp [hc, hall]
  · rfl

lemma escapes_pair (c : Char) (cs : List Char) : Escapes ('\\' :: c :: cs) ↔ Escapes cs := by
  unfold Escapes
  rw [List.reverse_cons, List.reverse_cons, List.append_assoc, List.takeWhile_append]
  split
  · next hall =>
    by_cases hc : c = '\\'
    · simp [hc, hall, Nat.add_mod_right]
    · simp [hc, hall]
  · rfl

section Closes

variable {q : Quote} {c : Char} {cs body rest : List Char}

lemma mark_ne_backslash (q : Quote) : q.mark ≠ '\\' := by
  cases q <;> decide

lemma closes_mark (rest : List Char) : Closes q (q.mark :: rest) [] rest :=
  ⟨rfl, not_escapes_nil, fun _ _ _ _ => Nat.zero_le _⟩

lemma closes_cons (hc : c ≠ '\\') (hmark : c ≠ q.mark) :
    Closes q (c :: cs) (c :: body) rest ↔ Closes q cs body rest := by
  constructor
  · rintro ⟨hcut, hunescaped, hfirst⟩
    refine ⟨(List.cons.inj hcut).2, mt (escapes_cons hc _).2 hunescaped, fun before after h hb => ?_⟩
    have := hfirst (c :: before) after (congrArg (c :: ·) h) (mt (escapes_cons hc _).1 hb)
    simpa using this
  · rintro ⟨hcut, hunescaped, hfirst⟩
    refine ⟨congrArg (c :: ·) hcut, mt (escapes_cons hc _).1 hunescaped, fun before after h hb => ?_⟩
    cases before with
    | nil => exact absurd (List.cons.inj h).1 hmark
    | cons d before =>
      obtain ⟨rfl, htail⟩ := List.cons.inj h
      simpa using hfirst before after htail (mt (escapes_cons hc _).2 hb)

lemma closes_pair :
    Closes q ('\\' :: c :: cs) ('\\' :: c :: body) rest ↔ Closes q cs body rest := by
  constructor
  · rintro ⟨hcut, hunescaped, hfirst⟩
    refine ⟨(List.cons.inj (List.cons.inj hcut).2).2, mt (escapes_pair c _).2 hunescaped,
      fun before after h hb => ?_⟩
    have := hfirst ('\\' :: c :: before) after (congrArg (fun t => '\\' :: c :: t) h)
      (mt (escapes_pair c _).1 hb)
    simpa using this
  · rintro ⟨hcut, hunescaped, hfirst⟩
    refine ⟨congrArg (fun t => '\\' :: c :: t) hcut, mt (escapes_pair c _).1 hunescaped,
      fun before after h hb => ?_⟩
    match before with
    | [] => exact absurd (List.cons.inj h).1.symm (mark_ne_backslash q)
    | [d] =>
      rw [← (List.cons.inj h).1] at hb
      exact absurd escapes_backslash hb
    | d :: d' :: before =>
      obtain ⟨hd, hpair⟩ := List.cons.inj h
      obtain ⟨rfl, htail⟩ := List.cons.inj hpair
      rw [← hd] at hb
      simpa using hfirst before after htail (mt (escapes_pair _ _).2 hb)

lemma Closes.unique {body' : List Char} (h : Closes q cs body rest) (h' : Closes q cs body' rest) :
    body = body' :=
  List.append_cancel_right (h.cut.symm.trans h'.cut)

end Closes

/-! ### What it says -/

/-- The characters that stand for another one behind a backslash. -/
def controls : List (Char × Char) :=
  [('n', '\n'), ('t', '\t'), ('r', '\r'), ('0', '\x00')]

/-- **The table of escapes**: what the characters between two quotes say, if a backslash, `u` and a
code of a character stand for that character. -/
inductive Spells (IsCode : List Char → Char → Prop) : List Char → List Char → Prop where
  | nil : Spells IsCode [] []
  | plain {c : Char} {cs text : List Char} (hc : c ≠ '\\') (h : Spells IsCode cs text) :
      Spells IsCode (c :: cs) (c :: text)
  | control {c ch : Char} {cs text : List Char} (hc : (c, ch) ∈ controls)
      (h : Spells IsCode cs text) : Spells IsCode ('\\' :: c :: cs) (ch :: text)
  | unicode {code cs text : List Char} {ch : Char} (hcode : IsCode code ch)
      (h : Spells IsCode cs text) : Spells IsCode ('\\' :: 'u' :: (code ++ cs)) (ch :: text)
  /-- In front of any other character the backslash is dropped. -/
  | dropped {c : Char} {cs text : List Char} (hc : c ∉ controls.map (·.1))
      (hu : c = 'u' → ∀ code rest ch, cs = code ++ rest → ¬ IsCode code ch)
      (h : Spells IsCode cs text) : Spells IsCode ('\\' :: c :: cs) (c :: text)

/-- Four hexadecimal digits of the number of a character. -/
def FourDigits (code : List Char) (ch : Char) : Prop :=
  code.length = 4 ∧ IsHex code ch.toNat

/-- A plus sign and three hexadecimal digits of the number of a character. -/
def PlusDigits (code : List Char) (ch : Char) : Prop :=
  ∃ digits, code = '+' :: digits ∧ digits.length = 3 ∧ IsHex digits ch.toNat

/-- What the reader takes for the code of a character. -/
def ReaderCode (code : List Char) (ch : Char) : Prop :=
  FourDigits code ch ∨ PlusDigits code ch

/-! ### Codes -/

lemma scalar_eq_some_iff {n : Nat} (hn : n < 16 ^ 4) {ch : Char} :
    (if n < 0xD800 || 0xDFFF < n then some (Char.ofNat n) else none) = some ch ↔
      ch.toNat = n := by
  have hscalar : (n < 0xD800 || 0xDFFF < n) = true ↔ n.isValidChar := by
    simp only [Bool.or_eq_true, decide_eq_true_eq, Nat.isValidChar]
    omega
  constructor
  · intro h
    split at h
    · next hcode =>
      rw [← Option.some.inj h, Char.ofNat, dif_pos (hscalar.1 hcode)]
      rfl
    · cases h
  · rintro rfl
    rw [if_pos (hscalar.2 ch.valid), Char.ofNat_toNat]

lemma unicodeEscape?_eq_some_iff {a b c d ch : Char} :
    unicodeEscape? a b c d = some ch ↔ ReaderCode [a, b, c, d] ch := by
  have hread (digits : List Char) (hlength : digits.length ≤ 4) :
      ((hexNumber? 0 digits).bind fun code =>
        if code < 0xD800 || 0xDFFF < code then some (Char.ofNat code) else none) = some ch ↔
      IsHex digits ch.toNat := by
    rw [Option.bind_eq_some_iff]
    constructor
    · rintro ⟨code, hcode, hch⟩
      obtain ⟨k, hk, rfl⟩ := hexNumber?_eq_some_iff.1 hcode
      rw [Nat.zero_mul, Nat.zero_add] at hch
      have hbound := hk.lt.trans_le (Nat.pow_le_pow_right (by decide) hlength)
      rwa [(scalar_eq_some_iff hbound).1 hch]
    · intro h
      have hbound := h.lt.trans_le (Nat.pow_le_pow_right (by decide) hlength)
      exact ⟨ch.toNat, hexNumber?_eq_some_iff.2 ⟨_, h, by simp⟩, (scalar_eq_some_iff hbound).2 rfl⟩
  have hcode := hread (if a == '+' then [b, c, d] else [a, b, c, d]) (by split <;> simp)
  refine Iff.trans hcode ?_
  by_cases ha : a = '+'
  · subst ha
    rw [if_pos (beq_self_eq_true _)]
    constructor
    · exact fun h => .inr ⟨[b, c, d], rfl, rfl, h⟩
    · rintro (⟨-, h⟩ | ⟨digits, hdigits, -, h⟩)
      · exact absurd h not_isHex_plus
      · rwa [(List.cons.inj hdigits).2]
  · rw [if_neg (by simpa using ha)]
    constructor
    · exact fun h => .inl ⟨rfl, h⟩
    · rintro (⟨-, h⟩ | ⟨digits, hdigits, -⟩)
      · exact h
      · exact absurd (List.cons.inj hdigits).1 ha

lemma ReaderCode.chars {code : List Char} {ch : Char} (h : ReaderCode code ch) (q : Quote) :
    code.length = 4 ∧ ∀ c ∈ code, c ≠ '\\' ∧ c ≠ q.mark := by
  have hdigit {c : Char} (hc : ∃ d : Fin 16, c.toLower = d.val.digitChar) :
      c ≠ '\\' ∧ c ≠ q.mark := by
    obtain ⟨d, hd⟩ := hc
    constructor
    · rintro rfl
      revert d
      decide
    · rintro rfl
      revert d
      cases q <;> decide
  rcases h with ⟨hlength, hhex⟩ | ⟨digits, rfl, hlength, hhex⟩
  · exact ⟨hlength, fun c hc => hdigit (hhex.digit hc)⟩
  · refine ⟨by simp [hlength], fun c hc => ?_⟩
    rcases List.mem_cons.1 hc with rfl | hc
    · cases q <;> decide
    · exact hdigit (hhex.digit hc)

/-! ### The reader -/

section Reader

variable {q : Quote} {ch : Char} {cs code body text rest : List Char}

lemma string?_code (h : ReaderCode code ch) :
    string? q.mark ('\\' :: 'u' :: (code ++ rest)) =
      (string? q.mark rest).map fun p => (ch :: p.1, p.2) := by
  obtain ⟨hlength, -⟩ := h.chars q
  obtain ⟨a, b, c, d, rfl⟩ : ∃ a b c d, code = [a, b, c, d] := by
    match code, hlength with
    | [a, b, c, d], _ => exact ⟨a, b, c, d, rfl⟩
  simp only [List.cons_append, List.nil_append, string?, unicodeEscape?_eq_some_iff.2 h]

lemma string?_u (h : ∀ code after ch, rest = code ++ after → ¬ ReaderCode code ch) :
    string? q.mark ('\\' :: 'u' :: rest) =
      (string? q.mark rest).map fun p => ('u' :: p.1, p.2) := by
  match rest with
  | a :: b :: c :: d :: after =>
    have hnone : unicodeEscape? a b c d = none := by
      refine Option.eq_none_iff_forall_ne_some.2 fun ch hch => ?_
      exact h [a, b, c, d] after ch rfl (unicodeEscape?_eq_some_iff.1 hch)
    simp only [string?, hnone]
  | [] | [a] | [a, b] | [a, b, c] => simp [string?, escaped]

lemma escaped_of_control {c : Char} (h : (c, ch) ∈ controls) : c ≠ 'u' ∧ escaped c = ch := by
  simp only [controls, List.mem_cons, Prod.mk.injEq, List.not_mem_nil, or_false] at h
  rcases h with ⟨rfl, rfl⟩ | ⟨rfl, rfl⟩ | ⟨rfl, rfl⟩ | ⟨rfl, rfl⟩ <;> decide

lemma escaped_of_not_control {c : Char} (h : c ∉ controls.map (·.1)) : escaped c = c := by
  unfold escaped
  split <;> first | rfl | exact absurd (by decide) h

lemma closes_append (hcode : ∀ c ∈ code, c ≠ '\\' ∧ c ≠ q.mark) :
    Closes q (code ++ cs) (code ++ body) rest ↔ Closes q cs body rest := by
  induction code with
  | nil => exact Iff.rfl
  | cons c code ih =>
    obtain ⟨⟨hc, hmark⟩, hothers⟩ := List.forall_mem_cons.1 hcode
    exact (closes_cons hc hmark).trans (ih hothers)

lemma code_before_mark (hcode : ReaderCode code ch) {after : List Char}
    (h : body ++ q.mark :: rest = code ++ after) : ∃ more, body = code ++ more := by
  rcases List.append_eq_append_iff.1 h with ⟨t, rfl, ht⟩ | ⟨t, rfl, -⟩
  · cases t with
    | nil => exact ⟨[], by simp⟩
    | cons c t =>
      obtain ⟨rfl, -⟩ := List.cons.inj ht
      exact absurd rfl ((hcode.chars q).2 q.mark (by simp)).2
  · exact ⟨t, rfl⟩

/-- What stands between quotes is read as what it says. -/
theorem string?_of_spells (h : Spells ReaderCode body text) (hcs : Closes q cs body rest) :
    string? q.mark cs = some (text, rest) := by
  induction h generalizing cs with
  | nil => rw [hcs.cut]; exact string?_close
  | @plain c body text hc h ih =>
    obtain rfl := hcs.cut
    have hmark : c ≠ q.mark := by
      rintro rfl
      simpa using hcs.first [] _ rfl not_escapes_nil
    have hbody : Closes q (body ++ q.mark :: rest) body rest := (closes_cons hc hmark).1 hcs
    rw [List.cons_append, string?_plain hc hmark, ih hbody]
    rfl
  | @control c ch body text hc h ih =>
    obtain rfl := hcs.cut
    obtain ⟨hu, hch⟩ := escaped_of_control hc
    have hbody : Closes q (body ++ q.mark :: rest) body rest := closes_pair.1 hcs
    rw [List.cons_append, List.cons_append, string?_backslash hu, ih hbody, hch]
    rfl
  | @unicode code body text ch hcode h ih =>
    obtain rfl := hcs.cut
    have hbody : Closes q (body ++ q.mark :: rest) body rest := by
      rw [← closes_append (hcode.chars q).2, ← List.append_assoc]
      exact closes_pair.1 hcs
    rw [List.cons_append, List.cons_append, List.append_assoc, string?_code hcode, ih hbody]
    rfl
  | @dropped c body text hc hu h ih =>
    obtain rfl := hcs.cut
    have hbody : Closes q (body ++ q.mark :: rest) body rest := closes_pair.1 hcs
    have hread : string? q.mark ('\\' :: c :: (body ++ q.mark :: rest)) =
        (string? q.mark (body ++ q.mark :: rest)).map fun p => (c :: p.1, p.2) := by
      by_cases hcu : c = 'u'
      · subst hcu
        refine string?_u fun code after ch hcut hcode => ?_
        obtain ⟨more, hmore⟩ := code_before_mark hcode hcut
        exact hu rfl code more ch hmore hcode
      · rw [string?_backslash hcu, escaped_of_not_control hc]
    rw [List.cons_append, List.cons_append, hread, ih hbody]
    rfl

lemma escapes_append (hcode : ∀ c ∈ code, c ≠ '\\') : Escapes (code ++ cs) ↔ Escapes cs := by
  induction code with
  | nil => exact Iff.rfl
  | cons c code ih =>
    obtain ⟨hc, hothers⟩ := List.forall_mem_cons.1 hcode
    exact (escapes_cons hc _).trans (ih hothers)

lemma exists_spells (h : ¬ Escapes body) : ∃ text, Spells ReaderCode body text := by
  induction hn : body.length using Nat.strong_induction_on generalizing body with
  | _ n ih =>
    subst hn
    cases body with
    | nil => exact ⟨[], .nil⟩
    | cons c cs =>
      by_cases hc : c = '\\'
      · subst hc
        cases cs with
        | nil => exact absurd escapes_backslash h
        | cons c cs =>
          have hcs : ¬ Escapes cs := mt (escapes_pair c cs).2 h
          by_cases hcode : c = 'u' ∧ ∃ code rest ch, cs = code ++ rest ∧ ReaderCode code ch
          · obtain ⟨rfl, code, rest, ch, rfl, hcode⟩ := hcode
            have hplain (x : Char) (hx : x ∈ code) : x ≠ '\\' := ((hcode.chars .single).2 x hx).1
            obtain ⟨text, htext⟩ := ih rest.length
              (by simp only [List.length_cons, List.length_append]; omega)
              (mt (escapes_append hplain).2 hcs) rfl
            exact ⟨_, .unicode hcode htext⟩
          · obtain ⟨text, htext⟩ := ih cs.length (by simp only [List.length_cons]; omega) hcs rfl
            by_cases hcontrol : c ∈ controls.map (·.1)
            · obtain ⟨⟨_, ch⟩, hch, rfl⟩ := List.mem_map.1 hcontrol
              exact ⟨_, .control hch htext⟩
            · refine ⟨_, .dropped hcontrol (fun hu code rest ch hcs hch => ?_) htext⟩
              exact hcode ⟨hu, code, rest, ch, hcs, hch⟩
      · obtain ⟨text, htext⟩ := ih cs.length (by simp) (mt (escapes_cons hc cs).2 h) rfl
        exact ⟨_, .plain hc htext⟩

lemma exists_unescaped {found : List Char × List Char} (h : string? q.mark cs = some found) :
    ∃ before after, cs = before ++ q.mark :: after ∧ ¬ Escapes before := by
  fun_induction string? q.mark cs generalizing found with
  | case1 => cases h
  | case2 a b c d cs ch hch ih =>
    obtain ⟨found, hfound, -⟩ := Option.map_eq_some_iff.1 h
    obtain ⟨before, after, rfl, hbefore⟩ := ih hfound
    have hcode := (unicodeEscape?_eq_some_iff.1 hch).chars q
    refine ⟨'\\' :: 'u' :: ([a, b, c, d] ++ before), after, rfl, ?_⟩
    rwa [escapes_pair, escapes_append fun x hx => (hcode.2 x hx).1]
  | case3 a b c d cs hnone ih =>
    obtain ⟨found, hfound, -⟩ := Option.map_eq_some_iff.1 h
    obtain ⟨before, after, hcs, hbefore⟩ := ih hfound
    exact ⟨'\\' :: 'u' :: before, after, by rw [hcs]; rfl, mt (escapes_pair _ _).1 hbefore⟩
  | case4 => cases h
  | case5 c cs hnot ih =>
    obtain ⟨found, hfound, -⟩ := Option.map_eq_some_iff.1 h
    obtain ⟨before, after, rfl, hbefore⟩ := ih hfound
    exact ⟨'\\' :: c :: before, after, rfl, mt (escapes_pair _ _).1 hbefore⟩
  | case6 cs hlone hpair => exact ⟨[], cs, rfl, not_escapes_nil⟩
  | case7 c cs hcode hlone hpair hmark ih =>
    have hc : c ≠ '\\' := by
      rintro rfl
      cases cs with
      | nil => exact hlone rfl rfl
      | cons d cs => exact hpair d cs rfl rfl
    obtain ⟨found, hfound, -⟩ := Option.map_eq_some_iff.1 h
    obtain ⟨before, after, rfl, hbefore⟩ := ih hfound
    exact ⟨c :: before, after, rfl, mt (escapes_cons hc _).1 hbefore⟩

lemma exists_closes {before after : List Char} (hcs : cs = before ++ q.mark :: after)
    (h : ¬ Escapes before) : ∃ body rest, Closes q cs body rest := by
  induction hn : before.length using Nat.strong_induction_on generalizing before after with
  | _ n ih =>
    subst hn
    by_cases hfirst : ∀ b a, cs = b ++ q.mark :: a → ¬ Escapes b → before.length ≤ b.length
    · exact ⟨before, after, hcs, h, hfirst⟩
    · push Not at hfirst
      obtain ⟨b, a, hb, hunescaped, hlt⟩ := hfirst
      exact ih b.length hlt hb hunescaped rfl

/-- **A text in quotes is read by the table.** -/
theorem string?_eq_some_iff :
    string? q.mark cs = some (text, rest) ↔
      ∃ body, Closes q cs body rest ∧ Spells ReaderCode body text := by
  constructor
  · intro h
    obtain ⟨before, after, hcs, hbefore⟩ := exists_unescaped h
    obtain ⟨body, rest', hcloses⟩ := exists_closes hcs hbefore
    obtain ⟨text', hspells⟩ := exists_spells hcloses.unescaped
    have hread := string?_of_spells hspells hcloses
    rw [h, Option.some.injEq, Prod.mk.injEq] at hread
    obtain ⟨rfl, rfl⟩ := hread
    exact ⟨body, hcloses, hspells⟩
  · rintro ⟨body, hcloses, hspells⟩
    exact string?_of_spells hspells hcloses

end Reader

/-! ### Four digits -/

/-- Somewhere in a text a backslash that is not escaped, `u`, a plus sign and three hexadecimal
digits stand one after the other. -/
def HasPlusCode (body : List Char) : Prop :=
  ∃ before code after ch, body = before ++ '\\' :: 'u' :: (code ++ after) ∧ ¬ Escapes before ∧
    PlusDigits code ch

section FourDigits

variable {c ch : Char} {cs code body text : List Char}

lemma hasPlusCode_cons (hc : c ≠ '\\') : HasPlusCode (c :: cs) ↔ HasPlusCode cs := by
  constructor
  · rintro ⟨before, code, after, ch, hcs, hbefore, hcode⟩
    cases before with
    | nil => exact absurd (List.cons.inj hcs).1 hc
    | cons d before =>
      obtain ⟨rfl, htail⟩ := List.cons.inj hcs
      exact ⟨before, code, after, ch, htail, mt (escapes_cons hc _).2 hbefore, hcode⟩
  · rintro ⟨before, code, after, ch, rfl, hbefore, hcode⟩
    exact ⟨c :: before, code, after, ch, rfl, mt (escapes_cons hc _).1 hbefore, hcode⟩

lemma hasPlusCode_append (hcode : ∀ c ∈ code, c ≠ '\\') :
    HasPlusCode (code ++ cs) ↔ HasPlusCode cs := by
  induction code with
  | nil => exact Iff.rfl
  | cons c code ih =>
    obtain ⟨hc, hothers⟩ := List.forall_mem_cons.1 hcode
    exact (hasPlusCode_cons hc).trans (ih hothers)

lemma hasPlusCode_pair : HasPlusCode ('\\' :: c :: cs) ↔
    (c = 'u' ∧ ∃ code after ch, cs = code ++ after ∧ PlusDigits code ch) ∨ HasPlusCode cs := by
  constructor
  · rintro ⟨before, code, after, ch, hcs, hbefore, hcode⟩
    match before with
    | [] =>
      obtain ⟨-, hpair⟩ := List.cons.inj hcs
      obtain ⟨rfl, htail⟩ := List.cons.inj hpair
      exact .inl ⟨rfl, code, after, ch, htail, hcode⟩
    | [d] =>
      rw [← (List.cons.inj hcs).1] at hbefore
      exact absurd escapes_backslash hbefore
    | d :: d' :: before =>
      obtain ⟨hd, hpair⟩ := List.cons.inj hcs
      obtain ⟨rfl, htail⟩ := List.cons.inj hpair
      rw [← hd] at hbefore
      exact .inr ⟨before, code, after, ch, htail, mt (escapes_pair _ _).2 hbefore, hcode⟩
  · rintro (⟨rfl, code, after, ch, rfl, hcode⟩ | ⟨before, code, after, ch, rfl, hbefore, hcode⟩)
    · exact ⟨[], code, after, ch, rfl, not_escapes_nil, hcode⟩
    · exact ⟨'\\' :: c :: before, code, after, ch, rfl, mt (escapes_pair _ _).1 hbefore, hcode⟩

lemma spells_fourDigits (h : Spells ReaderCode body text) (hplus : ¬ HasPlusCode body) :
    Spells FourDigits body text := by
  induction h with
  | nil => exact .nil
  | plain hc h ih => exact .plain hc (ih (mt (hasPlusCode_cons hc).2 hplus))
  | control hc h ih => exact .control hc (ih fun h => hplus (hasPlusCode_pair.2 (.inr h)))
  | @unicode code cs text ch hcode h ih =>
    have hfour : FourDigits code ch := hcode.resolve_right fun hcode =>
      hplus (hasPlusCode_pair.2 (.inl ⟨rfl, code, cs, ch, rfl, hcode⟩))
    have hplain (x : Char) (hx : x ∈ code) : x ≠ '\\' := ((hcode.chars .single).2 x hx).1
    exact .unicode hfour (ih fun h =>
      hplus (hasPlusCode_pair.2 (.inr ((hasPlusCode_append hplain).2 h))))
  | dropped hc hu h ih =>
    exact .dropped hc (fun h code rest ch hcs hcode => hu h code rest ch hcs (.inl hcode))
      (ih fun h => hplus (hasPlusCode_pair.2 (.inr h)))

lemma spells_cons {IsCode : List Char → Char → Prop} (hc : c ≠ '\\')
    (h : Spells IsCode (c :: cs) text) : ∃ more, text = c :: more ∧ Spells IsCode cs more := by
  cases h with
  | plain _ h => exact ⟨_, rfl, h⟩
  | _ => exact absurd rfl hc

lemma spells_append {IsCode : List Char → Char → Prop} (hcode : ∀ c ∈ code, c ≠ '\\')
    (h : Spells IsCode (code ++ cs) text) : ∃ more, text = code ++ more ∧ Spells IsCode cs more := by
  induction code generalizing text with
  | nil => exact ⟨text, rfl, h⟩
  | cons c code ih =>
    obtain ⟨hc, hothers⟩ := List.forall_mem_cons.1 hcode
    obtain ⟨text, rfl, htail⟩ := spells_cons hc h
    obtain ⟨more, rfl, hmore⟩ := ih hothers htail
    exact ⟨more, rfl, hmore⟩

lemma spells_pair {IsCode : List Char → Char → Prop} (h : Spells IsCode ('\\' :: c :: cs) text) :
    (∃ ch more, text = ch :: more ∧ (c, ch) ∈ controls ∧ Spells IsCode cs more) ∨
    (c = 'u' ∧ ∃ code rest ch more, cs = code ++ rest ∧ IsCode code ch ∧ text = ch :: more ∧
      Spells IsCode rest more) ∨
    (c ∉ controls.map (·.1) ∧ ∃ more, text = c :: more ∧ Spells IsCode cs more) := by
  generalize hbody : '\\' :: c :: cs = body at h
  cases h with
  | nil => cases hbody
  | plain hc h => exact absurd (List.cons.inj hbody).1.symm hc
  | control hc h =>
    cases hbody
    exact .inl ⟨_, _, rfl, hc, h⟩
  | @unicode code rest more ch hcode h =>
    cases hbody
    exact .inr (.inl ⟨rfl, code, rest, ch, more, rfl, hcode, rfl, h⟩)
  | dropped hc hu h =>
    cases hbody
    exact .inr (.inr ⟨hc, _, rfl, h⟩)

lemma not_fourDigits_of_plusDigits {ch' : Char} (h : PlusDigits code ch) :
    ¬ FourDigits code ch' := by
  rintro ⟨-, hhex⟩
  obtain ⟨digits, rfl, -⟩ := h
  exact not_isHex_plus hhex

lemma control_ne_u {c : Char} (hc : c ∈ controls.map (·.1)) : c ≠ 'u' := by
  rintro rfl
  revert hc
  decide

lemma code_unique {code' after after' : List Char} {ch' : Char} (hcode : ReaderCode code ch)
    (hcode' : ReaderCode code' ch') (h : code ++ after = code' ++ after') :
    code = code' ∧ after = after' :=
  List.append_inj h ((hcode.chars .single).1.trans (hcode'.chars .single).1.symm)

/-- By four digits a text says no less than by the codes of the reader, and it says more if one of
those has a plus sign. -/
lemma length_le_of_spells {text' : List Char} (h : Spells ReaderCode body text)
    (h' : Spells FourDigits body text') :
    text.length ≤ text'.length ∧ (HasPlusCode body → text.length < text'.length) := by
  induction h generalizing text' with
  | nil =>
    refine ⟨Nat.zero_le _, ?_⟩
    rintro ⟨before, code, after, ch, h, -⟩
    cases before <;> cases h
  | plain hc h ih =>
    obtain ⟨more, rfl, hmore⟩ := spells_cons hc h'
    simpa [hasPlusCode_cons hc] using ih hmore
  | @control c ch cs text hc h ih =>
    have hmem : c ∈ controls.map (·.1) := List.mem_map_of_mem hc
    rcases spells_pair h' with ⟨_, more, rfl, -, hmore⟩ | ⟨rfl, -⟩ | ⟨hnot, -⟩
    · simpa [hasPlusCode_pair, control_ne_u hmem] using ih hmore
    · exact absurd rfl (control_ne_u hmem)
    · exact absurd hmem hnot
  | @unicode code cs text ch hcode h ih =>
    have hplain (x : Char) (hx : x ∈ code) : x ≠ '\\' := ((hcode.chars .single).2 x hx).1
    rcases spells_pair h' with
      ⟨_, _, -, hu, -⟩ | ⟨-, code', rest, ch', more, hcs, hfour, rfl, hmore⟩ | ⟨-, more, rfl, hmore⟩
    · exact absurd rfl (control_ne_u (List.mem_map_of_mem hu))
    · obtain ⟨rfl, rfl⟩ := code_unique hcode (.inl hfour) hcs
      have hnot : ¬ ∃ code' after ch, code ++ cs = code' ++ after ∧ PlusDigits code' ch := by
        rintro ⟨code', after, ch, hcut, hplus⟩
        obtain ⟨rfl, -⟩ := code_unique hcode (.inr hplus) hcut
        exact not_fourDigits_of_plusDigits hplus hfour
      have hbody : HasPlusCode ('\\' :: 'u' :: (code ++ cs)) ↔ HasPlusCode cs := by
        rw [hasPlusCode_pair, eq_self_iff_true, true_and, or_iff_right hnot,
          hasPlusCode_append hplain]
      simpa [hbody] using ih hmore
    · -- read as a character here, and as `u` and the code itself there
      obtain ⟨others, rfl, hothers⟩ := spells_append hplain hmore
      have hle := (ih hothers).1
      have hfour := (hcode.chars .single).1
      simp only [List.length_cons, List.length_append]
      exact ⟨by omega, fun _ => by omega⟩
  | @dropped c cs text hc hu h ih =>
    rcases spells_pair h' with
      ⟨_, _, -, hctrl, -⟩ | ⟨rfl, code, rest, ch, _, rfl, hfour, -⟩ | ⟨-, more, rfl, hmore⟩
    · exact absurd (List.mem_map_of_mem hctrl) hc
    · exact absurd (.inl hfour) (hu rfl code rest ch rfl)
    · have hnot : ¬ (c = 'u' ∧ ∃ code after ch, cs = code ++ after ∧ PlusDigits code ch) := by
        rintro ⟨hcu, code, after, ch, hcs, hplus⟩
        exact hu hcu code after ch hcs (.inr hplus)
      have hbody : HasPlusCode ('\\' :: c :: cs) ↔ HasPlusCode cs := by
        rw [hasPlusCode_pair, or_iff_right hnot]
      simpa [hbody] using ih hmore

lemma spells_fourDigits_iff (h : Spells ReaderCode body text) :
    Spells FourDigits body text ↔ ¬ HasPlusCode body :=
  ⟨fun hfour hplus => absurd ((length_le_of_spells h hfour).2 hplus) (lt_irrefl _),
    spells_fourDigits h⟩

end FourDigits

/-- **Quoted texts.** A text in quotes is not finished just when every quote behind the opening one
is escaped. Otherwise it ends at the first one that is not, and what it says is what the table of
escapes says, with four hexadecimal digits for the number of a character: just when no plus sign
stands for the first of them anywhere. In general such a sign may. -/
theorem string?_reads_table (q : Quote) (cs : List Char) :
    (string? q.mark cs = none ↔
      ∀ before after, cs = before ++ q.mark :: after → Escapes before) ∧
    (∀ text rest, string? q.mark cs = some (text, rest) ↔
      ∃ body, Closes q cs body rest ∧ Spells ReaderCode body text) ∧
    ∀ body rest, (Closes q cs body rest ∧
        ∃ text, Spells FourDigits body text ∧ string? q.mark cs = some (text, rest)) ↔
      Closes q cs body rest ∧ ¬ HasPlusCode body := by
  refine ⟨⟨fun hnone before after hcs => ?_, fun h => ?_⟩, fun text rest => string?_eq_some_iff,
    fun body rest => and_congr_right fun hcloses => ⟨?_, fun hplus => ?_⟩⟩
  · by_contra hbefore
    obtain ⟨body, rest, hcloses⟩ := exists_closes hcs hbefore
    obtain ⟨text, hspells⟩ := exists_spells hcloses.unescaped
    rw [string?_of_spells hspells hcloses] at hnone
    cases hnone
  · refine Option.eq_none_iff_forall_ne_some.2 fun found hfound => ?_
    obtain ⟨before, after, hcs, hbefore⟩ := exists_unescaped hfound
    exact hbefore (h before after hcs)
  · rintro ⟨text, hfour, hread⟩
    obtain ⟨body', hcloses', hspells⟩ := string?_eq_some_iff.1 hread
    obtain rfl := hcloses.unique hcloses'
    exact (spells_fourDigits_iff hspells).1 hfour
  · obtain ⟨text, hspells⟩ := exists_spells hcloses.unescaped
    exact ⟨text, (spells_fourDigits_iff hspells).2 hplus, string?_of_spells hspells hcloses⟩

/-- A plus sign in front of three digits: the reader finds the letter that they name, and the table
says that they stay as they are. -/
theorem string?_reads_plus :
    string? Quote.double.mark "\\u+041\"".toList = some (['A'], []) ∧
      Closes .double "\\u+041\"".toList "\\u+041".toList [] ∧
      Spells FourDigits "\\u+041".toList "u+041".toList ∧
      ¬ Spells FourDigits "\\u+041".toList ['A'] := by
  have hcode : PlusDigits "+041".toList 'A' := ⟨"041".toList, rfl, rfl, [0, 4, 1], rfl, rfl⟩
  have hplus : HasPlusCode "\\u+041".toList :=
    hasPlusCode_pair.2 (.inl ⟨rfl, "+041".toList, [], 'A', rfl, hcode⟩)
  have hreader : ReaderCode "+041".toList 'A' := .inr hcode
  have hspells : Spells ReaderCode "\\u+041".toList ['A'] := .unicode hreader .nil
  have hfour (code rest : List Char) (ch : Char) (h : "+041".toList = code ++ rest) :
      ¬ FourDigits code ch := by
    rintro ⟨hlength, hhex⟩
    cases code with
    | nil => cases hlength
    | cons c code =>
      obtain ⟨rfl, -⟩ := List.cons.inj h
      exact not_isHex_plus hhex
  refine ⟨by decide, ?_, ?_, fun h => (spells_fourDigits_iff hspells).1 h hplus⟩
  · have hcloses := (closes_append (hreader.chars .double).2).2 (closes_mark [])
    exact closes_pair.2 hcloses
  · exact .dropped (by decide) (fun _ => hfour) (.plain (by decide) (.plain (by decide)
      (.plain (by decide) (.plain (by decide) .nil))))

end Pressroom.Expr
