import Pressroom.Expr.Lexer
import Pressroom.Proofs.Text.Fold

/-!
Lexemes: the ways in which a token can be written so that it is read back on its own. Written with a
space between any two of them, lexemes are read as their tokens, one by one.
-/

namespace Pressroom.Expr

/-! ### Lexemes -/

/-- A row of decimal digits. -/
structure Digits where
  first : Char
  others : List Char
  isDigit : ∀ c ∈ first :: others, c.isDigit = true

def Digits.chars (d : Digits) : List Char :=
  d.first :: d.others

/-- The number that a row of digits spells. -/
def Digits.value (d : Digits) : Float :=
  Number.ofDecimal (Number.ofDigits d.chars) 0

/-- A text that is read as a name. -/
structure Word where
  first : Char
  others : List Char
  starts : isNameStart first = true
  goesOn : ∀ c ∈ others, isNamePart c = true

def Word.chars (w : Word) : List Char :=
  w.first :: w.others

def Word.name (w : Word) : String :=
  String.ofList w.chars

inductive Quote where
  | single | double
  deriving Repr, DecidableEq

/-- The character at both ends of a quoted text. -/
def Quote.mark : Quote → Char
  | single => '\''
  | double => '"'

/-- A character inside quotes. -/
def Quote.escape (q : Quote) (c : Char) : List Char :=
  if c = '\n' then ['\\', 'n']
  else if c = '\t' then ['\\', 't']
  else if c = '\r' then ['\\', 'r']
  else if c = '\x00' then ['\\', '0']
  else if c = '\\' || c = q.mark then ['\\', c]
  else [c]

/-- A token as it is written. -/
inductive Lexeme where
  | digits (d : Digits)
  | quoted (q : Quote) (s : String)
  | word (w : Word)
  | symbol (s : Symbol)

namespace Lexeme

def spelling : Lexeme → List Char
  | digits d => d.chars
  | quoted q s => q.mark :: (s.toList.flatMap q.escape ++ [q.mark])
  | word w => w.chars
  | symbol s => s.spelling

def token : Lexeme → Token
  | digits d => .num d.value
  | quoted _ s => .str s
  | word w => .name w.name
  | symbol s => .symbol s

/-- Lexemes with single spaces between them. -/
def spaced (ls : List Lexeme) : List Char :=
  Text.join [' '] (ls.map spelling)

end Lexeme

/-! ### Characters that lexemes start with -/

/-- Whether no character is in both sets. -/
def disjointRanges (a b : Text.CodeRanges) : Bool :=
  a.all fun r => b.all fun s => r.2 < s.1 || s.2 < r.1

lemma not_has_of_disjoint {a b : Text.CodeRanges} {c : Char} (h : disjointRanges a b = true)
    (hb : b.has c = true) : a.has c = false := by
  refine Bool.eq_false_iff.2 fun ha => ?_
  obtain ⟨r, hr, hlow, hhigh⟩ := Text.CodeRanges.has_iff.1 ha
  obtain ⟨s, hs, hlow', hhigh'⟩ := Text.CodeRanges.has_iff.1 hb
  have hrs := List.all_eq_true.1 (List.all_eq_true.1 h r hr) s hs
  simp only [Bool.or_eq_true, decide_eq_true_eq] at hrs
  omega

lemma not_blank_of_ascii {c : Char} (hlow : 0x20 < c.toNat) (hhigh : c.toNat < 0x80) :
    Text.isBlank c = false := by
  refine Bool.eq_false_iff.2 fun hc => ?_
  obtain ⟨r, hr, h1, h2⟩ := Text.CodeRanges.has_iff.1 hc
  simp only [Text.blankRanges, List.mem_cons, List.not_mem_nil, or_false] at hr
  rcases hr with rfl | rfl | rfl | rfl | rfl | rfl | rfl | rfl | rfl | rfl <;>
    simp at h1 h2 <;> omega

lemma isDigit_iff {c : Char} : c.isDigit = true ↔ 0x30 ≤ c.toNat ∧ c.toNat ≤ 0x39 :=
  Bool.and_eq_true_iff.trans <| and_congr
    (decide_eq_true_iff.trans UInt32.le_iff_toNat_le)
    (decide_eq_true_iff.trans UInt32.le_iff_toNat_le)

lemma toNat_of_isAlpha {c : Char} (h : c.isAlpha = true) :
    0x41 ≤ c.toNat ∧ c.toNat ≤ 0x5A ∨ 0x61 ≤ c.toNat ∧ c.toNat ≤ 0x7A := by
  rcases Bool.or_eq_true_iff.1 h with hupper | hlower
  · obtain ⟨h1, h2⟩ := of_decide_eq_true hupper
    exact .inl ⟨UInt32.le_iff_toNat_le.1 h1, UInt32.le_iff_toNat_le.1 h2⟩
  · obtain ⟨h1, h2⟩ := Bool.and_eq_true_iff.1 hlower
    exact .inr ⟨UInt32.le_iff_toNat_le.1 (of_decide_eq_true h1),
      UInt32.le_iff_toNat_le.1 (of_decide_eq_true h2)⟩

lemma only_name_starts {c : Char} (h : isNameStart c = true) :
    Text.isBlank c = false ∧ ¬ (0x30 ≤ c.toNat ∧ c.toNat ≤ 0x39) ∧
      c ≠ '.' ∧ c ≠ '"' ∧ c ≠ '\'' := by
  simp only [isNameStart, Bool.or_eq_true, beq_iff_eq] at h
  have hsign {x : Char} (hx : x.toNat < 0x41) : 0x41 ≤ c.toNat → c ≠ x := by
    rintro hc rfl
    omega
  rcases h with (halpha | rfl) | rfl
  · unfold Text.isAlphabetic at halpha
    split at halpha
    · have hrange := toNat_of_isAlpha halpha
      have hcapital : 0x41 ≤ c.toNat := by omega
      exact ⟨not_blank_of_ascii (by omega) (by omega), by omega, hsign (by decide) hcapital,
        hsign (by decide) hcapital, hsign (by decide) hcapital⟩
    · have hcapital : 0x41 ≤ c.toNat := by omega
      exact ⟨not_has_of_disjoint (by decide +kernel) halpha, by omega, hsign (by decide) hcapital,
        hsign (by decide) hcapital, hsign (by decide) hcapital⟩
  · decide
  · decide

/-! ### One lexeme -/

/-- What may stand behind a lexeme: nothing, or a space. -/
def Apart (rest : List Char) : Prop :=
  rest = [] ∨ ∃ more, rest = ' ' :: more

lemma takeWhile_of_apart {p : Char → Bool} {cs rest : List Char} (hcs : ∀ c ∈ cs, p c = true)
    (hspace : p ' ' = false) (h : Apart rest) :
    (cs ++ rest).takeWhile p = cs ∧ (cs ++ rest).dropWhile p = rest := by
  refine Text.span_append hcs ?_
  rcases h with rfl | ⟨more, rfl⟩
  · exact nofun
  · rintro _ ⟨⟩
    exact hspace

lemma spanDigits_chars (d : Digits) : Number.spanDigits d.chars = (d.chars, []) := by
  have hspan := takeWhile_of_apart d.isDigit (by decide) (.inl rfl : Apart [])
  rw [List.append_nil] at hspan
  exact Prod.ext hspan.1 hspan.2

lemma toLower_of_isDigit {c : Char} (h : c.isDigit = true) : c.toLower = c := by
  refine dif_neg fun hupper => ?_
  have hcapital : 0x41 ≤ c.toNat := UInt32.le_iff_toNat_le.1 hupper.1
  have hdigit := (isDigit_iff.1 h).2
  omega

lemma read?_chars (d : Digits) : Number.read? d.chars = some d.value := by
  have hfirst : d.first.isDigit = true := d.isDigit _ List.mem_cons_self
  have hne {x : Char} (hx : x.isDigit = false) : d.first ≠ x := by
    rintro rfl
    exact Bool.false_ne_true (hx.symm.trans hfirst)
  have hsign : Number.sign d.chars = (false, d.chars) := by
    unfold Number.sign Digits.chars
    split
    · next h => exact absurd (List.cons.inj h).1 (hne rfl)
    · next h => exact absurd (List.cons.inj h).1 (hne rfl)
    · rfl
  have hword {word : List Char} (hhead : ∀ x ∈ word.head?, x.isDigit = false) :
      d.chars.map Char.toLower ≠ word := by
    rintro rfl
    have := hhead _ (Option.mem_def.2 rfl)
    rw [toLower_of_isDigit hfirst, hfirst] at this
    exact absurd this (by decide)
  have hunsigned : Number.unsigned? d.chars = some d.value := by
    simp only [Number.unsigned?, spanDigits_chars]
    simp [Digits.chars, Number.exponent?, Digits.value]
  simp only [Number.read?, hsign, Number.magnitude?]
  rw [if_neg, if_neg, hunsigned]
  · rfl
  · exact hword (by decide)
  · simp only [Bool.or_eq_true, decide_eq_true_eq, not_or]
    exact ⟨hword (by decide), hword (by decide)⟩

lemma number_chars (d : Digits) {rest : List Char} (h : Apart rest) :
    Lexer.number (d.chars ++ rest) = .ok (.num d.value, rest) := by
  have hparts : ∀ c ∈ d.chars, Lexer.isNumberPart c = true := fun c hc => by
    simp [Lexer.isNumberPart, d.isDigit c hc]
  obtain ⟨htake, hdrop⟩ := takeWhile_of_apart hparts (by decide) h
  have hexponent : Lexer.exponent rest = ([], rest) := by
    rcases h with rfl | ⟨more, rfl⟩
    · rfl
    · cases more <;> rfl
  simp only [Lexer.number, htake, hdrop, hexponent, List.append_nil, read?_chars]

section Quoted

variable {q : Quote} {c : Char} {rest : List Char}

lemma string?_close : Lexer.string? q.mark (q.mark :: rest) = some ([], rest) := by
  cases q <;> simp [Quote.mark, Lexer.string?]

lemma string?_plain (hbackslash : c ≠ '\\') (hmark : c ≠ q.mark) :
    Lexer.string? q.mark (c :: rest) =
      (Lexer.string? q.mark rest).map fun p => (c :: p.1, p.2) := by
  rw [Lexer.string?]
  · rw [if_neg hmark]
  all_goals simp [hbackslash]

lemma string?_backslash (hu : c ≠ 'u') :
    Lexer.string? q.mark ('\\' :: c :: rest) =
      (Lexer.string? q.mark rest).map fun p => (Lexer.escaped c :: p.1, p.2) := by
  rw [Lexer.string?]
  simp [hu]

lemma string?_escape (q : Quote) (c : Char) (rest : List Char) :
    Lexer.string? q.mark (q.escape c ++ rest) =
      (Lexer.string? q.mark rest).map fun p => (c :: p.1, p.2) := by
  unfold Quote.escape
  split
  · next h => exact h ▸ string?_backslash (by decide)
  split
  · next h => exact h ▸ string?_backslash (by decide)
  split
  · next h => exact h ▸ string?_backslash (by decide)
  split
  · next h => exact h ▸ string?_backslash (by decide)
  split
  · next h =>
    have hc : c ≠ 'u' ∧ Lexer.escaped c = c := by
      simp only [Bool.or_eq_true, decide_eq_true_eq] at h
      rcases h with rfl | rfl
      · decide
      · cases q <;> decide
    have hread : Lexer.string? q.mark ('\\' :: c :: rest) = _ := string?_backslash hc.1
    rwa [hc.2] at hread
  · next h =>
    simp only [Bool.or_eq_true, decide_eq_true_eq, not_or] at h
    exact string?_plain h.1 h.2

lemma string?_escapes (q : Quote) (s rest : List Char) :
    Lexer.string? q.mark (s.flatMap q.escape ++ q.mark :: rest) = some (s, rest) := by
  induction s with
  | nil => exact string?_close
  | cons c s ih => rw [List.flatMap_cons, List.append_assoc, string?_escape, ih]; rfl

end Quoted

lemma symbol?_spelling (s : Symbol) {rest : List Char} (h : Apart rest) :
    Lexer.symbol? (s.spelling ++ rest) = some (s, rest) := by
  rcases h with rfl | ⟨more, rfl⟩ <;> cases s <;> rfl

lemma only_symbol_starts (s : Symbol) :
    ∃ c cs, s.spelling = c :: cs ∧ Text.isBlank c = false ∧ c.isDigit = false ∧
      c ≠ '"' ∧ c ≠ '\'' ∧ isNameStart c = false ∧ (c = '.' → cs = []) := by
  cases s <;> exact ⟨_, _, rfl, by decide⟩

lemma token_symbol {s : Symbol} {c : Char} {cs rest : List Char} (hs : s.spelling = c :: cs)
    (hread : Lexer.symbol? (c :: (cs ++ rest)) = some (s, rest))
    (hnumber : c ≠ '.' ∨ Lexer.startsWithDigit rest = false) :
    Lexer.token c (cs ++ rest) = .ok (.symbol s, rest) := by
  obtain ⟨c', cs', hs', -, hdigit, hdouble, hsingle, hname, hpoint⟩ := only_symbol_starts s
  obtain ⟨rfl, rfl⟩ := List.cons.inj (hs.symm.trans hs')
  rw [Lexer.token, if_neg, if_neg (by simp [hdouble, hsingle]), if_neg (by simp [hname]), hread]
  simp only [hdigit, Bool.false_or, Bool.and_eq_true, beq_iff_eq, not_and]
  rintro rfl
  simp [hpoint rfl, hnumber.resolve_left (by simp)]

lemma token_word (w : Word) {rest : List Char} (hrest : ∀ c ∈ rest.head?, isNamePart c = false) :
    Lexer.token w.first (w.others ++ rest) = .ok (.name w.name, rest) := by
  obtain ⟨-, hdigit, hpoint, hdouble, hsingle⟩ := only_name_starts w.starts
  have hspan := Text.span_append w.goesOn hrest
  rw [Lexer.token, if_neg (by simp [isDigit_iff, hdigit, hpoint]),
    if_neg (by simp [hdouble, hsingle]), if_pos w.starts, hspan.1, hspan.2]
  rfl

namespace Lexeme

/-- **A lexeme with a space or nothing behind it is read as its token.** -/
theorem token_spelling (l : Lexeme) {rest : List Char} (h : Apart rest) :
    ∃ c cs, l.spelling = c :: cs ∧ Text.isBlank c = false ∧
      Lexer.token c (cs ++ rest) = .ok (l.token, rest) := by
  cases l with
  | digits d =>
    have hdigit : d.first.isDigit = true := d.isDigit _ List.mem_cons_self
    have hrange := isDigit_iff.1 hdigit
    refine ⟨d.first, d.others, rfl, not_blank_of_ascii (by omega) (by omega), ?_⟩
    rw [Lexer.token, if_pos (by simp [hdigit])]
    exact number_chars d h
  | quoted q s =>
    refine ⟨q.mark, _, rfl, by cases q <;> decide, ?_⟩
    rw [Lexer.token, if_neg (by cases q <;> simp [Quote.mark]),
      if_pos (by cases q <;> decide)]
    simp only [List.append_assoc, List.singleton_append, string?_escapes, String.ofList_toList]
    rfl
  | word w =>
    have hrest : ∀ c ∈ rest.head?, isNamePart c = false := by
      rcases h with rfl | ⟨more, rfl⟩
      · exact nofun
      · rintro _ ⟨⟩
        decide
    exact ⟨w.first, w.others, rfl, (only_name_starts w.starts).1, token_word w hrest⟩
  | symbol s =>
    obtain ⟨c, cs, hs, hblank, -⟩ := only_symbol_starts s
    have hnumber : Lexer.startsWithDigit rest = false := by
      rcases h with rfl | ⟨more, rfl⟩ <;> rfl
    have hread : Lexer.symbol? (c :: (cs ++ rest)) = some (s, rest) := by
      have := symbol?_spelling s h
      rwa [hs] at this
    exact ⟨c, cs, hs, hblank, token_symbol hs hread (.inr hnumber)⟩

/-! ### A row of lexemes -/

lemma tokens_cons {c : Char} {cs left : List Char} {t : Token} {ts : List Token}
    (hblank : Text.isBlank c = false) (htoken : Lexer.token c cs = .ok (t, left))
    (hleft : Lexer.tokens left = .ok ts) : Lexer.tokens (c :: cs) = .ok (t :: ts) := by
  rw [Lexer.tokens, if_neg (by simp [hblank])]
  split
  · next h => cases htoken.symm.trans h
  · next h =>
    cases htoken.symm.trans h
    simp only [hleft]

/-- **Lexemes with spaces between them are read as their tokens.** -/
theorem tokens_spaced (ls : List Lexeme) : Lexer.tokens (spaced ls) = .ok (ls.map token) := by
  induction ls with
  | nil =>
    rw [spaced, List.map_nil, Text.join, List.intersperse_nil, List.flatten_nil, Lexer.tokens,
      List.map_nil]
  | cons l ls ih =>
    obtain ⟨rest, hrest, hspelled, hread⟩ : ∃ rest, Apart rest ∧
        spaced (l :: ls) = l.spelling ++ rest ∧ Lexer.tokens rest = .ok (ls.map token) := by
      cases ls with
      | nil => exact ⟨[], .inl rfl, by simp [spaced, Text.join], ih⟩
      | cons l' ls =>
        refine ⟨' ' :: spaced (l' :: ls), .inr ⟨_, rfl⟩, by simp [spaced, Text.join], ?_⟩
        rw [Lexer.tokens, if_pos (by decide), ih]
    obtain ⟨c, cs, hl, hblank, htoken⟩ := token_spelling l hrest
    rw [hspelled, hl]
    exact tokens_cons hblank htoken hread

end Lexeme

end Pressroom.Expr
