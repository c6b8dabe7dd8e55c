import Pressroom.Proofs.Expr.Draft
import Pressroom.Proofs.Expr.Escapes

/-!
Expressions inside other ones. No token runs over into a closing bracket or a blank, so what stands
in front of one is read as if nothing stood behind it; and an expression in brackets is an operand.
So a text that is read as an expression is read as the same one inside a larger text.
-/

namespace Pressroom.Expr

open Lexer

/-! ### In front of a closing bracket or a blank -/

def closers : List Char := [')', ']', '}', ' ']

section Closer

variable {z : Char} {cs more rest left : List Char}

lemma not_continues (hz : z ∈ closers) :
    z.isDigit = false ∧ isNumberPart z = false ∧ isNamePart z = false ∧
      z ≠ 'e' ∧ z ≠ 'E' ∧ z ≠ '+' ∧ z ≠ '-' := by
  simp only [closers, List.mem_cons, List.not_mem_nil, or_false] at hz
  rcases hz with rfl | rfl | rfl | rfl <;> decide

lemma not_mem_tail_spelling (hz : z ∈ closers) (s : Symbol) : z ∉ s.spelling.tail := by
  simp only [closers, List.mem_cons, List.not_mem_nil, or_false] at hz
  rcases hz with rfl | rfl | rfl | rfl <;> cases s <;> decide

lemma takeWhile_stop {p : Char → Bool} (hz : p z = false) (cs more : List Char) :
    (cs ++ z :: more).takeWhile p = cs.takeWhile p ∧
      (cs ++ z :: more).dropWhile p = cs.dropWhile p ++ z :: more := by
  induction cs with
  | nil => simp [hz]
  | cons c cs ih =>
    by_cases hc : p c = true
    · simp [hc, ih]
    · simp [hc]

lemma startsWithDigit_append (hz : z ∈ closers) :
    startsWithDigit (cs ++ z :: more) = startsWithDigit cs := by
  cases cs with
  | nil => exact (not_continues hz).1
  | cons c cs => rfl

lemma exponent_append (hz : z ∈ closers) :
    exponent (cs ++ z :: more) = ((exponent cs).1, (exponent cs).2 ++ z :: more) := by
  obtain ⟨hdigit, -, -, he, hE, hplus, hminus⟩ := not_continues hz
  match cs with
  | [] => cases more <;> simp [exponent, he, hE]
  | [c] => simp [exponent, hdigit, hplus, hminus]
  | mark :: c :: cs =>
    have hcs := takeWhile_stop hdigit cs more
    have hccs := takeWhile_stop hdigit (c :: cs) more
    rw [List.cons_append] at hccs
    simp only [exponent, List.cons_append, hcs, hccs, startsWithDigit_append hz]
    split
    · split
      · rfl
      · split <;> rfl
    · rfl

lemma number_append {t : Token} (hz : z ∈ closers) (h : number cs = .ok (t, left)) :
    number (cs ++ z :: more) = .ok (t, left ++ z :: more) := by
  obtain ⟨htake, hdrop⟩ := takeWhile_stop (not_continues hz).2.1 cs more
  unfold number at h ⊢
  rw [htake, hdrop, exponent_append hz]
  dsimp only at h ⊢
  split at h
  · cases h
    rfl
  · cases h

lemma closes_behind {q : Quote} {body : List Char} (h : Closes q cs body rest) (more : List Char) :
    Closes q (cs ++ more) body (rest ++ more) := by
  obtain ⟨rfl, hunescaped, hfirst⟩ := h
  refine ⟨by simp, hunescaped, fun before after hcut hbefore => ?_⟩
  rw [List.append_assoc] at hcut
  rcases List.append_eq_append_iff.1 hcut with ⟨t, rfl, -⟩ | ⟨t, rfl, ht⟩
  · simp
  · cases t with
    | nil => simp
    | cons c t =>
      obtain ⟨rfl, -⟩ := List.cons.inj ht
      exact hfirst before (t ++ q.mark :: rest) (by simp) hbefore

lemma string?_append {q : Quote} {text : List Char} (h : string? q.mark cs = some (text, left))
    (more : List Char) : string? q.mark (cs ++ more) = some (text, left ++ more) := by
  obtain ⟨body, hcloses, hspells⟩ := string?_eq_some_iff.1 h
  exact string?_of_spells hspells (closes_behind hcloses more)

lemma strip?_append {pattern : List Char} (hz : z ∉ pattern) :
    Text.strip? pattern (cs ++ z :: more) = (Text.strip? pattern cs).map (· ++ z :: more) := by
  induction pattern generalizing cs with
  | nil => rfl
  | cons p pattern ih =>
    obtain ⟨hp, hpattern⟩ := not_or.1 (mt List.mem_cons.2 hz)
    cases cs with
    | nil => simp [Text.strip?, hp]
    | cons c cs =>
      by_cases hc : c = p
      · simp [Text.strip?, hc, ih hpattern]
      · simp [Text.strip?, hc]

lemma strip?_spelling_append (hz : z ∈ closers) (s : Symbol) (c : Char) :
    Text.strip? s.spelling (c :: (cs ++ z :: more)) =
      (Text.strip? s.spelling (c :: cs)).map (· ++ z :: more) := by
  have htail := not_mem_tail_spelling hz s
  cases hs : s.spelling with
  | nil => rfl
  | cons p pattern =>
    rw [hs, List.tail_cons] at htail
    simp only [Text.strip?, strip?_append htail]
    split <;> rfl

lemma findSome?_spelling_append (hz : z ∈ closers) (symbols : List Symbol) (c : Char) :
    (symbols.findSome? fun s => (Text.strip? s.spelling (c :: (cs ++ z :: more))).map (s, ·)) =
      (symbols.findSome? fun s => (Text.strip? s.spelling (c :: cs)).map (s, ·)).map
        fun found => (found.1, found.2 ++ z :: more) := by
  rw [List.map_findSome?]
  congr 1
  funext s
  rw [strip?_spelling_append hz, Function.comp_apply, Option.map_map, Option.map_map]
  rfl

/-- A symbol reads one character ahead: `?.` in front of a digit is a question mark. -/
lemma symbol?_append {c : Char} {s : Symbol} (hz : z ∈ closers)
    (h : symbol? (c :: cs) = some (s, left)) :
    symbol? (c :: (cs ++ z :: more)) = some (s, left ++ z :: more) := by
  unfold symbol? at h ⊢
  rw [findSome?_spelling_append hz]
  cases hf : Symbol.all.findSome? fun s => (Text.strip? s.spelling (c :: cs)).map (s, ·) with
  | none =>
    rw [hf] at h
    cases h
  | some found =>
    obtain ⟨s', left'⟩ := found
    rw [hf] at h
    cases s' with
    | optionalDot =>
      simp only [Option.map_some, startsWithDigit_append hz] at h ⊢
      split at h
      · next hdigit =>
        cases h
        rw [if_pos hdigit]
        rfl
      · next hdigit =>
        cases h
        rw [if_neg hdigit]
    | _ =>
      cases h
      rfl

lemma token_append {c : Char} {t : Token} (hz : z ∈ closers) (h : token c cs = .ok (t, left)) :
    token c (cs ++ z :: more) = .ok (t, left ++ z :: more) := by
  obtain ⟨htake, hdrop⟩ := takeWhile_stop (not_continues hz).2.2.1 cs more
  unfold token at h ⊢
  rw [startsWithDigit_append hz]
  split at h
  · next hnumber =>
    rw [if_pos hnumber]
    rw [← List.cons_append]
    exact number_append hz h
  next hnumber =>
  rw [if_neg hnumber]
  split at h
  · next hquote =>
    rw [if_pos hquote]
    obtain ⟨q, rfl⟩ : ∃ q : Quote, c = q.mark := by
      simp only [Bool.or_eq_true, beq_iff_eq] at hquote
      exact hquote.elim (fun h => ⟨.double, h⟩) fun h => ⟨.single, h⟩
    split at h
    · next hs =>
      cases h
      rw [string?_append hs]
    · cases h
  next hquote =>
  rw [if_neg hquote]
  split at h
  · next hname =>
    cases h
    rw [if_pos hname, htake, hdrop]
  next hname =>
  rw [if_neg hname]
  split at h
  · next hs =>
    cases h
    rw [symbol?_append hz hs]
  · cases h

/-- **What stands in front of a closing bracket or a blank is read as if nothing stood behind
it.** -/
theorem tokens_append {ts us : List Token} (hz : z ∈ closers) (h : tokens cs = .ok ts)
    (hmore : tokens (z :: more) = .ok us) : tokens (cs ++ z :: more) = .ok (ts ++ us) := by
  fun_induction tokens cs generalizing ts with
  | case1 =>
    cases h
    exact hmore
  | case2 c cs hblank ih =>
    rw [List.cons_append, tokens, if_pos hblank]
    exact ih h
  | case3 | case4 => cases h
  | case5 c cs hblank t left htoken _ ts' hleft ih =>
    obtain rfl : t :: ts' = ts := Except.ok.inj h
    rw [Bool.not_eq_true] at hblank
    exact Lexeme.tokens_cons hblank (token_append hz htoken) (ih hleft)

end Closer

/-! ### Single tokens in front of the rest -/

section Front

variable {rest : List Char} {ts : List Token}

lemma tokens_nil : tokens [] = .ok [] := by
  rw [tokens]

lemma tokens_blank (rest : List Char) : tokens (' ' :: rest) = tokens rest := by
  rw [tokens, if_pos (by decide)]

lemma tokens_symbol {s : Symbol} {c : Char} (hc : s.spelling = [c])
    (hs : symbol? (c :: rest) = some (s, rest)) (hdot : c ≠ '.' ∨ startsWithDigit rest = false)
    (h : tokens rest = .ok ts) : tokens (c :: rest) = .ok (.symbol s :: ts) := by
  obtain ⟨c', cs, hspelling, hblank, -⟩ := only_symbol_starts s
  obtain ⟨rfl, rfl⟩ := List.cons.inj (hc.symm.trans hspelling)
  exact Lexeme.tokens_cons hblank (token_symbol hc hs hdot) h

lemma startsWithDigit_word (w : Word) (more : List Char) :
    startsWithDigit (w.chars ++ more) = false := by
  rw [← Bool.not_eq_true]
  exact mt isDigit_iff.1 (only_name_starts w.starts).2.1

lemma tokens_word (w : Word) (hrest : ∀ c ∈ rest.head?, isNamePart c = false)
    (h : tokens rest = .ok ts) : tokens (w.chars ++ rest) = .ok (.name w.name :: ts) :=
  Lexeme.tokens_cons (only_name_starts w.starts).1 (token_word w hrest) h

end Front

/-! ### Texts around an expression -/

lemma ofSource_eq_ok_iff {source : List Char} {term : Term} :
    Term.ofSource source = .ok term ↔
      ∃ ts, tokens source = .ok ts ∧ Derives (.term .expression term) ts := by
  unfold Term.ofSource
  constructor
  · intro h
    split at h
    · next hread =>
      obtain ⟨ts, hts, hterm⟩ := bind_eq_ok.1 hread
      cases h
      exact ⟨ts, hts, derives_of_ofTokens hterm⟩
    · cases h
  · rintro ⟨ts, hts, hterm⟩
    rw [hts, Except.bind, ofTokens_of_derives hterm]

lemma ofSource_spaced {ls : List Lexeme} {p : Precedence} {term : Term}
    (h : Derives (.term p term) (ls.map Lexeme.token)) :
    Term.ofSource (Lexeme.spaced ls) = .ok term :=
  ofSource_eq_ok_iff.2 ⟨_, Lexeme.tokens_spaced ls, h.loosen p.rank.zero_le⟩

def parenthesised (source : List Char) : List Char :=
  "(".toList ++ source ++ ")".toList

/-- The truth of an expression, asked for by two negations. -/
def negatedTwice (source : List Char) : List Char :=
  "!!(".toList ++ source ++ ")".toList

/-- The truth of an expression, asked for by a conditional. -/
def chosen (source : List Char) : List Char :=
  "(".toList ++ source ++ ") ? true : false".toList

/-- An expression as the item of an array, taken out again. -/
def boxed (source : List Char) : List Char :=
  "[".toList ++ source ++ "][0]".toList

/-- An expression as the entry of an object, taken out again. -/
def keyed (k : Word) (source : List Char) : List Char :=
  "(\x7b".toList ++ k.chars ++ ": ".toList ++ source ++ "\x7d).".toList ++ k.chars

/-- An expression behind the empty text and a plus sign. -/
def concatenated (source : List Char) : List Char :=
  "'' + (".toList ++ source ++ ")".toList

/-- A method of an expression, called with arguments as they are written. -/
def called (source : List Char) (method : Word) (args : List Char) : List Char :=
  "(".toList ++ source ++ ").".toList ++ method.chars ++ "(".toList ++ args ++ ")".toList

def zero : Digits := ⟨'0', [], by decide⟩

lemma ofFloat_zero : Value.ofFloat zero.value = .num (.int 0) := by
  have hread : (Number.Binary.ofFloat? zero.value).map (fun b => (b.isWhole, b.floor)) =
      some (true, 0) := by
    decide +kernel
  have hsmall : Number.abs zero.value < Value.exactBound := by decide +kernel
  rw [Value.ofFloat]
  split
  · next h => simp [h] at hread
  · next b h =>
    simp only [h, Option.map_some, Option.some.injEq, Prod.mk.injEq] at hread
    simp [hread, hsmall]

def Term.boxed (term : Term) : Term :=
  .index (.array [term]) (.literal (.num (.int 0))) false

def Term.keyed (k : Word) (term : Term) : Term :=
  .member (.object [(k.name, term)]) k.name false

section Around

variable {source : List Char} {term : Term} (hterm : Term.ofSource source = .ok term)
include hterm

lemma exists_parenthesised {more : List Char} {us : List Token} (hmore : tokens more = .ok us) :
    ∃ ts, tokens ('(' :: (source ++ ')' :: more)) = .ok (ts ++ us) ∧
      Derives (.term .primary term) ts := by
  obtain ⟨ts, hts, hderives⟩ := ofSource_eq_ok_iff.1 hterm
  refine ⟨.symbol .openParen :: (ts ++ [.symbol .closeParen]), ?_, hderives.paren⟩
  have hclose := tokens_symbol (s := .closeParen) (c := ')') rfl rfl (.inl (by decide)) hmore
  simpa using tokens_symbol (s := .openParen) rfl rfl (.inl (by decide))
    (tokens_append (by decide) hts hclose)

theorem ofSource_parenthesised : Term.ofSource (parenthesised source) = .ok term := by
  obtain ⟨ts, hts, hderives⟩ := exists_parenthesised hterm tokens_nil
  refine ofSource_eq_ok_iff.2 ⟨ts, by simpa [parenthesised] using hts, hderives.loosen (by decide)⟩

theorem ofSource_negatedTwice :
    Term.ofSource (negatedTwice source) = .ok (.unary .not (.unary .not term)) := by
  obtain ⟨ts, hts, hderives⟩ := exists_parenthesised hterm tokens_nil
  have hsign : (Symbol.bang, UnaryOp.not) ∈ signs := by decide
  refine ofSource_eq_ok_iff.2 ⟨.symbol .bang :: .symbol .bang :: ts, ?_,
    Derives.loosen (by decide) (.sign hsign (.sign hsign (hderives.loosen (by decide))))⟩
  have := tokens_symbol (s := .bang) (c := '!') rfl rfl (.inl (by decide))
    (tokens_symbol (s := .bang) (c := '!') rfl rfl (.inl (by decide)) hts)
  simpa [negatedTwice] using this

theorem ofSource_chosen : Term.ofSource (chosen source) =
    .ok (.conditional term (.literal (.bool true)) (.literal (.bool false))) := by
  have hbranches : tokens " ? true : false".toList = .ok [.symbol .question,
      .name (Word.ofBool true).name, .symbol .colon, .name (Word.ofBool false).name] :=
    (tokens_blank _).trans (Lexeme.tokens_spaced [.symbol .question, .word (.ofBool true),
      .symbol .colon, .word (.ofBool false)])
  obtain ⟨ts, hts, hderives⟩ := exists_parenthesised hterm hbranches
  have hbool (b : Bool) :
      Derives (.term .expression (.literal (.bool b))) [.name (Word.ofBool b).name] :=
    .loosen (by decide) (.constant (Draft.bool_mem_constants b))
  refine ofSource_eq_ok_iff.2 ⟨_, ?_,
    .conditional (hderives.loosen (by decide)) (hbool true) (hbool false)⟩
  simpa [chosen] using hts

theorem ofSource_concatenated :
    Term.ofSource (concatenated source) = .ok (.binary (.literal (.str "")) .add term) := by
  obtain ⟨ts, hts, hderives⟩ := exists_parenthesised hterm tokens_nil
  have hquotes : tokens "''".toList = .ok [.str ""] := Lexeme.tokens_spaced [.quoted .single ""]
  have hplus := tokens_symbol (s := .plus) (c := '+') rfl rfl (.inl (by decide))
    ((tokens_blank _).trans hts)
  have htokens := tokens_append (z := ' ') (by decide) hquotes ((tokens_blank _).trans hplus)
  have hempty : Derives (.term .additive (.literal (.str ""))) [.str ""] :=
    (Derives.str "").loosen (by decide)
  have hadd : (Symbol.plus, (Term.binary · .add ·)) ∈ Precedence.additive.operators := by
    simp [Precedence.operators]
  have hsum := hempty.operator hadd rfl (hderives.loosen (by decide))
  refine ofSource_eq_ok_iff.2 ⟨_, htokens, ?_⟩
  rw [List.append_nil]
  exact hsum.loosen (by decide)

theorem ofSource_called (method : Word) {args : List Char} {us : List Token} {terms : List Term}
    (hargs : tokens args = .ok us) (hderivesArgs : Derives (.terms terms) us) :
    Term.ofSource (called source method args) = .ok (.call term method.name terms false) := by
  have hclose : tokens [')'] = .ok [.symbol .closeParen] :=
    Lexeme.tokens_spaced [.symbol .closeParen]
  have hopen := tokens_symbol (s := .openParen) (c := '(') rfl rfl (.inl (by decide))
    (tokens_append (by decide) hargs hclose)
  have hmethod := tokens_word method (by rintro _ ⟨⟩; decide) hopen
  have hdot : tokens ('.' :: (method.chars ++ '(' :: (args ++ [')']))) = .ok (.symbol .dot :: _) :=
    tokens_symbol rfl rfl (.inr (startsWithDigit_word method _)) hmethod
  obtain ⟨ts, hts, hderives⟩ := exists_parenthesised hterm hdot
  refine ofSource_eq_ok_iff.2 ⟨_, ?_,
    ((hderives.loosen (p := .access) (by decide)).call method.name false hderivesArgs).loosen
      (by decide)⟩
  simpa [called, point] using hts

theorem ofSource_boxed : Term.ofSource (boxed source) = .ok term.boxed := by
  obtain ⟨ts, hts, hderives⟩ := ofSource_eq_ok_iff.1 hterm
  have hindex : tokens "[0]".toList =
      .ok [.symbol .openBracket, .num zero.value, .symbol .closeBracket] := by
    have hclose : tokens "]".toList = .ok [.symbol .closeBracket] :=
      Lexeme.tokens_spaced [.symbol .closeBracket]
    exact tokens_symbol rfl rfl (.inl (by decide))
      (tokens_append (by decide) (Lexeme.tokens_spaced [.digits zero]) hclose)
  have hclose := tokens_symbol (s := .closeBracket) (c := ']') rfl rfl (.inl (by decide)) hindex
  have htokens := tokens_symbol (s := .openBracket) rfl rfl (.inl (by decide))
    (tokens_append (by decide) hts hclose)
  have hderives' := (hderives.lastTerm.array.loosen (p := .access) (by decide)).index false
    (.loosen (by decide) (.num zero.value))
  rw [ofFloat_zero] at hderives'
  refine ofSource_eq_ok_iff.2 ⟨_, ?_, hderives'.loosen (by decide)⟩
  simpa [boxed, corner] using htokens

theorem ofSource_keyed (k : Word) : Term.ofSource (keyed k source) = .ok (term.keyed k) := by
  obtain ⟨ts, hts, hderives⟩ := ofSource_eq_ok_iff.1 hterm
  have hkey : tokens k.chars = .ok [.name k.name] := by
    simpa using tokens_word k (by simp) tokens_nil
  have hnumber : startsWithDigit k.chars = false := by
    simpa using startsWithDigit_word k []
  have hdot : tokens ('.' :: k.chars) = .ok [.symbol .dot, .name k.name] :=
    tokens_symbol rfl rfl (.inr hnumber) hkey
  have hclose := tokens_symbol (s := .closeBrace) (c := '}') rfl rfl (.inl (by decide))
    (tokens_symbol (s := .closeParen) (c := ')') rfl rfl (.inl (by decide)) hdot)
  have hvalue := tokens_append (by decide) hts hclose
  have hcolon := tokens_symbol (s := .colon) (c := ':') rfl rfl (.inl (by decide))
    ((tokens_blank _).trans hvalue)
  have hentry := tokens_word k (by rintro _ ⟨⟩; decide) hcolon
  have htokens := tokens_symbol (s := .openParen) rfl rfl (.inl (by decide))
    (tokens_symbol (s := .openBrace) rfl rfl (.inl (by decide)) hentry)
  have hobject := (hderives.keyed (.name k.name)).lastEntry.object
  have hderives' := ((hobject.loosen (p := .expression) (by decide)).paren.loosen
    (p := .access) (by decide)).member k.name false
  refine ofSource_eq_ok_iff.2 ⟨_, ?_, hderives'.loosen (by decide)⟩
  simpa [keyed, point] using htokens

end Around

end Pressroom.Expr
