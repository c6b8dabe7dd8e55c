import Pressroom.Proofs.Expr.Soundness

/-!
What the grammar derives is read by the parser. Where the tokens start with a phrase, the reader of
its level takes this phrase off them, unless what follows continues it (`Stops`). The operators of
one level group from the left, so the tokens of a phrase do not say where its reader is done: the
reader goes on from the phrase to what follows it (`resume`), and that is what the induction is on.

Main statement: the parser accepts exactly what the grammar derives.
-/

namespace Pressroom.Expr

open Pressroom.Expr.Parser

/-! ### How phrases start and what continues them -/

/-- A token that an operand may start with. -/
def Token.opens : Token → Bool
  | .num _ | .str _ | .name _ => true
  | .symbol s => s = .openParen || s = .openBracket || s = .openBrace

/-- A token that is an operator in front of an operand. -/
def Token.isSign : Token → Bool
  | .symbol s => s = .bang || s = .minus || s = .plus
  | _ => false

/-- How a phrase starts. A list may be empty. -/
def Headed : Phrase → List Token → Prop
  | .term p _, used => ∃ t tail, used = t :: tail ∧
      (t.opens = true ∨ p.rank ≤ Precedence.unary.rank ∧ t.isSign = true)
  | .entry _ _, used => ∃ t tail, used = t :: tail ∧ t.opens = true
  | .terms _, _ | .entries _, _ => True

lemma Headed.append {p : Precedence} {t u : Term} {used : List Token}
    (h : Headed (.term p t) used) (more : List Token) : Headed (.term p u) (used ++ more) := by
  obtain ⟨first, tail, rfl, hfirst⟩ := h
  exact ⟨first, tail ++ more, rfl, hfirst⟩

lemma headed_of_opens {p : Precedence} {t : Term} {first : Token} {tail : List Token}
    (h : first.opens = true) : Headed (.term p t) (first :: tail) :=
  ⟨first, tail, rfl, .inl h⟩

lemma opens_of_isKey {k : String} {t : Token} (h : IsKey k t) : t.opens = true := by
  cases h <;> rfl

lemma headed_of_derives {ph : Phrase} {used : List Token} (h : Derives ph used) :
    Headed ph used := by
  induction h with
  | next hq h ih =>
    obtain ⟨t, tail, rfl, ht⟩ := ih
    have := Precedence.rank_next hq
    exact ⟨t, tail, rfl, ht.imp_right fun ⟨hrank, hsign⟩ => ⟨by omega, hsign⟩⟩
  | @conditional _ _ _ _ us vs _ _ _ ih =>
    have : Precedence.fallback.rank ≤ Precedence.unary.rank := by decide
    obtain ⟨t, tail, rfl, ht⟩ := ih
    exact ⟨t, _, rfl, ht.imp_right fun ⟨_, hsign⟩ => ⟨by decide, hsign⟩⟩
  | operator _ _ _ _ ih => exact ih.append _
  | sign hs h ih =>
    refine ⟨_, _, rfl, .inr ⟨Nat.le_refl _, ?_⟩⟩
    simp only [signs, List.mem_cons, Prod.mk.injEq, List.not_mem_nil, or_false] at hs
    rcases hs with ⟨rfl, rfl⟩ | ⟨rfl, rfl⟩ | ⟨rfl, rfl⟩ <;> rfl
  | member n lenient ho ih => exact ih.append _
  | call n lenient ho hargs ih => exact ih.append _
  | index lenient ho hkey ih => exact ih.append _
  | num | str | constant | named | paren | array | object => exact headed_of_opens rfl
  | keyed hkey => exact ⟨_, _, rfl, opens_of_isKey hkey⟩
  | short hkey => exact ⟨_, _, rfl, opens_of_isKey hkey⟩
  | noTerms | lastTerm | moreTerms | noEntries | lastEntry | moreEntries => trivial

/-- The level of phrases that a symbol continues. A parenthesis would make a call of an operand. -/
def Symbol.continues? : Symbol → Option Precedence
  | .question => some .expression
  | .nullish => some .fallback
  | .either => some .disjunction
  | .both => some .conjunction
  | .strictEq | .strictNe | .looseEq | .looseNe => some .equality
  | .le | .ge | .lt | .gt => some .relational
  | .plus | .minus => some .additive
  | .star | .slash | .percent => some .multiplicative
  | .dot | .optionalDot | .openBracket => some .access
  | .openParen => some .primary
  | .comma | .colon | .bang | .openBrace | .closeParen | .closeBracket | .closeBrace => none

/-- What follows does not continue a phrase of the level. -/
def Stops (p : Precedence) (rest : List Token) : Prop :=
  ∀ s, rest.head? = some (.symbol s) → ∀ q, s.continues? = some q → q.rank < p.rank

lemma stops_symbol {p : Precedence} {s : Symbol} {rest : List Token} :
    Stops p (.symbol s :: rest) ↔ ∀ q, s.continues? = some q → q.rank < p.rank := by
  simp [Stops]

lemma stops_nil (p : Precedence) : Stops p [] := by
  simp [Stops]

lemma stops_of_none {s : Symbol} (h : s.continues? = none) (p : Precedence) (rest : List Token) :
    Stops p (.symbol s :: rest) :=
  stops_symbol.2 fun q hq => by simp [h] at hq

lemma Stops.mono {p q : Precedence} {rest : List Token} (h : Stops p rest)
    (hrank : p.rank ≤ q.rank) : Stops q rest :=
  fun s hs r hr => Nat.lt_of_lt_of_le (h s hs r hr) hrank

lemma Stops.head_ne {p q : Precedence} {s : Symbol} {rest : List Token} (h : Stops p rest)
    (hs : s.continues? = some q) (hrank : p.rank ≤ q.rank) :
    rest.head? ≠ some (.symbol s) := by
  intro hhead
  have := h s hhead q hs
  omega

lemma continues_of_mem {p : Precedence} {s : Symbol} {make : Term → Term → Term}
    (h : (s, make) ∈ p.operators) : s.continues? = some p := by
  have hs : s ∈ p.operators.map (·.1) := List.mem_map_of_mem h
  revert hs
  cases p <;> simp only [Precedence.operators, List.map_cons, List.map_nil, List.mem_cons,
    List.not_mem_nil, or_false, false_imp_iff] <;> rintro (rfl | rfl | rfl | rfl) <;> rfl

lemma expect_of_ne {s : Symbol} {ts : List Token} (h : ts.head? ≠ some (.symbol s)) :
    expect s ts = .error (.expected s) := by
  unfold expect
  split
  · rw [if_neg]
    rintro rfl
    exact h rfl
  · rfl

/-! ### Readers by level -/

/-- The reader of a level in which brackets nest less than `depth` deep. -/
def Precedence.reader (depth : Nat) : Precedence → Parser Term
  | .expression => Parser.expression (depth + 1)
  | .fallback => Parser.fallback (Parser.expression depth)
  | .disjunction => Parser.disjunction (Parser.expression depth)
  | .conjunction => Parser.conjunction (Parser.expression depth)
  | .equality => Parser.equality (Parser.expression depth)
  | .relational => Parser.relational (Parser.expression depth)
  | .additive => Parser.additive (Parser.expression depth)
  | .multiplicative => Parser.multiplicative (Parser.expression depth)
  | .unary => Parser.unary (Parser.expression depth)
  | .access => Parser.access (Parser.expression depth)
  | .primary => Parser.primary (Parser.expression depth)

/-- A level of operators between operands. -/
def Precedence.IsChain (p : Precedence) : Prop :=
  p.operators ≠ []

lemma reader_eq_chain {p q : Precedence} (depth : Nat) (hp : p.IsChain) (hq : p.next? = some q) :
    p.reader depth = chain (q.reader depth) p.operator? := by
  cases p <;> simp only [Precedence.next?, Option.some.injEq, reduceCtorEq] at hq <;> subst hq <;>
    first
    | rfl
    | exact absurd rfl hp

/-- What the reader of a level does once it has read a phrase: an operand is followed by operators
and further operands, an object by its properties, calls and indexes. -/
def Precedence.resume (depth fuel : Nat) (p : Precedence) (t : Term) (rest : List Token) :
    Except SyntaxFault (Term × List Token) :=
  match p, p.next? with
  | .expression, _ | .unary, _ | .primary, _ => .ok (t, rest)
  | .access, _ => accessTail (Parser.expression depth) fuel t rest
  | p, some q => chainTail (q.reader depth) p.operator? fuel t rest
  | _, none => .ok (t, rest)

lemma resume_of_chain {p q : Precedence} (hp : p.IsChain) (hq : p.next? = some q)
    (depth fuel : Nat) (t : Term) (rest : List Token) :
    p.resume depth fuel t rest = chainTail (q.reader depth) p.operator? fuel t rest := by
  cases p <;> simp only [Precedence.next?, Option.some.injEq, reduceCtorEq] at hq <;> subst hq <;>
    first
    | rfl
    | exact absurd rfl hp

lemma chainTail_of_stops {p : Precedence} (operand : Parser Term) (fuel : Nat) (t : Term)
    {rest : List Token} (h : Stops p rest) :
    chainTail operand p.operator? fuel t rest = .ok (t, rest) := by
  cases fuel with
  | zero => rfl
  | succ fuel =>
    unfold chainTail
    split
    · next s tail =>
      split
      · next make hmake =>
        have hs := continues_of_mem (operator?_eq_some_iff.1 hmake)
        exact absurd rfl (h.head_ne hs (Nat.le_refl _))
      · rfl
    · rfl

lemma accessTail_of_stops (whole : Parser Term) (fuel : Nat) (t : Term) {rest : List Token}
    (h : Stops .access rest) : accessTail whole fuel t rest = .ok (t, rest) := by
  cases fuel with
  | zero => rfl
  | succ fuel =>
    have hne {s : Symbol} {tail : List Token} {q : Precedence} (hs : s.continues? = some q)
        (hrank : Precedence.access.rank ≤ q.rank) : rest ≠ .symbol s :: tail := by
      rintro rfl
      exact h.head_ne hs hrank rfl
    unfold accessTail
    split
    · exact absurd rfl (hne (s := .dot) rfl (by decide))
    · exact absurd rfl (hne (s := .optionalDot) rfl (by decide))
    · exact absurd rfl (hne (s := .optionalDot) rfl (by decide))
    · exact absurd rfl (hne (s := .openBracket) rfl (by decide))
    · exact absurd rfl (hne (s := .openParen) rfl (by decide))
    · rfl

lemma resume_of_stops {p : Precedence} (depth fuel : Nat) (t : Term) {rest : List Token}
    (h : Stops p rest) : p.resume depth fuel t rest = .ok (t, rest) := by
  cases p with
  | expression | unary | primary => rfl
  | access => exact accessTail_of_stops _ _ _ h
  | _ => exact chainTail_of_stops _ _ _ h

/-- What follows a phrase of the level does not belong to its last operand. -/
def Ready (p : Precedence) (rest : List Token) : Prop :=
  match p, p.next? with
  | .expression, _ => Stops .expression rest
  | _, some q => Stops q rest
  | _, none => True

lemma ready_iff {p q : Precedence} (hp : p ≠ .expression) (hq : p.next? = some q)
    {rest : List Token} : Ready p rest ↔ Stops q rest := by
  cases p <;> simp only [Precedence.next?, Option.some.injEq, reduceCtorEq] at hq <;> subst hq <;>
    first
    | rfl
    | exact absurd rfl hp

lemma Stops.ready {p : Precedence} {rest : List Token} (h : Stops p rest) : Ready p rest := by
  by_cases hp : p = .expression
  · subst hp
    exact h
  · cases hq : p.next? with
    | some q =>
      have := Precedence.rank_next hq
      exact (ready_iff hp hq).2 (h.mono (by omega))
    | none =>
      cases p <;> simp only [Precedence.next?, reduceCtorEq] at hq
      exact trivial

/-- Where tokens start with a phrase, it is read. -/
def Complete : Phrase → List Token → Prop
  | .term p t, used => ∀ depth rest, used.length ≤ depth → Ready p rest →
      ∃ fuel, rest.length ≤ fuel ∧ p.reader depth (used ++ rest) = p.resume depth fuel t rest
  | .terms us, used => ∀ depth fuel close rest, used.length ≤ depth → used.length < fuel →
      close ∈ [Symbol.closeParen, .closeBracket, .closeBrace] →
      separated (Parser.expression (depth + 1)) close fuel (used ++ .symbol close :: rest) =
        .ok (us, rest)
  | .entry k v, used => ∀ depth s rest, used.length ≤ depth → s ∈ [Symbol.comma, .closeBrace] →
      entry (Parser.expression (depth + 1)) (used ++ .symbol s :: rest) =
        .ok ((k, v), .symbol s :: rest)
  | .entries es, used => ∀ depth fuel rest, used.length ≤ depth → used.length < fuel →
      separated (entry (Parser.expression (depth + 1))) .closeBrace fuel
        (used ++ .symbol .closeBrace :: rest) = .ok (es, rest)

lemma Complete.read {p : Precedence} {t : Term} {used rest : List Token}
    (h : Complete (.term p t) used) {depth : Nat} (hdepth : used.length ≤ depth)
    (hrest : Stops p rest) : p.reader depth (used ++ rest) = .ok (t, rest) := by
  obtain ⟨fuel, -, hread⟩ := h depth rest hdepth hrest.ready
  rw [hread, resume_of_stops _ _ _ hrest]

lemma Complete.inside {t : Term} {used rest : List Token} {s : Symbol}
    (h : Complete (.term .expression t) used) {depth : Nat} (hdepth : used.length < depth)
    (hs : s.continues? = none) :
    Parser.expression depth (used ++ .symbol s :: rest) = .ok (t, .symbol s :: rest) := by
  obtain ⟨d, rfl⟩ := Nat.exists_eq_add_of_lt hdepth
  exact h.read (p := .expression) (Nat.le_add_right _ d) (stops_of_none hs _ _)

/-! ### One rule at a time -/

section Rules

variable {p q : Precedence} {ts us vs : List Token}

lemma unary_of_opens (whole : Parser Term) {t : Token} (ht : t.opens = true)
    (tail : List Token) : unary whole (t :: tail) = access whole (t :: tail) := by
  cases t with
  | symbol s => cases s <;> first | rfl | simp [Token.opens] at ht
  | _ => rfl

lemma complete_next {t : Term} (hq : p.next? = some q) (h : Derives (.term q t) ts)
    (ih : Complete (.term q t) ts) : Complete (.term p t) ts := by
  intro depth rest hdepth hready
  have hread : Stops q rest → q.reader depth (ts ++ rest) = .ok (t, rest) := ih.read hdepth
  by_cases hp : p.IsChain
  · have hstops := (ready_iff (by rintro rfl; exact hp rfl) hq).1 hready
    refine ⟨rest.length, Nat.le_refl _, ?_⟩
    rw [reader_eq_chain depth hp hq, resume_of_chain hp hq, chain, hread hstops]
    rfl
  · cases p with
    | expression =>
      cases hq
      have hstops : Stops .expression rest := hready
      refine ⟨rest.length, Nat.le_refl _, ?_⟩
      have hquestion := expect_of_ne (hstops.head_ne (s := .question) rfl (Nat.le_refl _))
      have hfallback : fallback (Parser.expression depth) (ts ++ rest) = .ok (t, rest) :=
        hread (hstops.mono (by decide))
      show Parser.expression (depth + 1) (ts ++ rest) = .ok (t, rest)
      simp only [Parser.expression, hfallback, ok_bind, hquestion]
      rfl
    | unary =>
      cases hq
      obtain ⟨first, tail, rfl, hfirst⟩ := headed_of_derives h
      have hopens : first.opens = true := hfirst.resolve_right fun hsign =>
        absurd hsign.1 (by decide)
      refine ⟨rest.length, Nat.le_refl _, ?_⟩
      show unary (Parser.expression depth) (first :: (tail ++ rest)) = .ok (t, rest)
      rw [unary_of_opens _ hopens]
      exact hread ((ready_iff (by decide) rfl).1 hready)
    | access =>
      cases hq
      have hprimary : primary (Parser.expression depth) (ts ++ rest) = .ok (t, rest) :=
        hread ((ready_iff (by decide) rfl).1 hready)
      refine ⟨rest.length + 1, Nat.le_succ _, ?_⟩
      show access (Parser.expression depth) (ts ++ rest) = _
      rw [access, hprimary]
      rfl
    | primary => cases hq
    | _ => exact absurd (by simp [Precedence.IsChain, Precedence.operators]) hp

lemma complete_conditional {test consequent alternate : Term}
    (htest : Complete (.term .fallback test) ts)
    (hconsequent : Complete (.term .expression consequent) us)
    (halternate : Complete (.term .expression alternate) vs) :
    Complete (.term .expression (.conditional test consequent alternate))
      (ts ++ .symbol .question :: (us ++ .symbol .colon :: vs)) := by
  intro depth rest hdepth hready
  have hstops : Stops .expression rest := hready
  simp only [List.length_append, List.length_cons] at hdepth
  refine ⟨rest.length, Nat.le_refl _, ?_⟩
  have hread : fallback (Parser.expression depth)
      (ts ++ (.symbol .question :: (us ++ .symbol .colon :: vs) ++ rest)) =
        .ok (test, .symbol .question :: (us ++ .symbol .colon :: vs) ++ rest) :=
    htest.read (by omega) (stops_symbol.2 fun q hq => by cases hq; decide)
  have hus : Parser.expression depth (us ++ .symbol .colon :: (vs ++ rest)) =
      .ok (consequent, .symbol .colon :: (vs ++ rest)) := hconsequent.inside (by omega) rfl
  obtain ⟨d, rfl⟩ := Nat.exists_eq_add_of_lt (show vs.length < depth by omega)
  have hvs : Parser.expression (vs.length + d + 1) (vs ++ rest) = .ok (alternate, rest) :=
    halternate.read (by omega) hstops
  show Parser.expression _ _ = .ok (_, rest)
  rw [Parser.expression, List.append_assoc, hread]
  simp only [ok_bind, List.cons_append, List.append_assoc, expect_self, hus, hvs]
  rfl

lemma complete_operator {s : Symbol} {make : Term → Term → Term} {a b : Term}
    (hs : (s, make) ∈ p.operators) (hq : p.next? = some q) (ha : Complete (.term p a) ts)
    (hb : Complete (.term q b) us) : Complete (.term p (make a b)) (ts ++ .symbol s :: us) := by
  intro depth rest hdepth hready
  simp only [List.length_append, List.length_cons] at hdepth
  have hp : p.IsChain := List.ne_nil_of_mem hs
  have hne : p ≠ .expression := by rintro rfl; exact hp rfl
  have hrank := Precedence.rank_next hq
  have hop : Ready p (.symbol s :: (us ++ rest)) := by
    refine (ready_iff hne hq).2 (stops_symbol.2 fun r hr => ?_)
    obtain rfl : p = r := Option.some.inj ((continues_of_mem hs).symm.trans hr)
    omega
  obtain ⟨fuel, hfuel, hread⟩ := ha depth _ (by omega) hop
  have hright : q.reader depth (us ++ rest) = .ok (b, rest) :=
    hb.read (by omega) ((ready_iff hne hq).1 hready)
  simp only [List.length_cons, List.length_append] at hfuel
  obtain ⟨fuel, rfl⟩ : ∃ f, fuel = f + 1 := ⟨fuel - 1, by omega⟩
  refine ⟨fuel, by omega, ?_⟩
  rw [List.append_assoc, List.cons_append, hread, resume_of_chain hp hq, resume_of_chain hp hq,
    chainTail]
  simp only [operator?_eq_some_iff.2 hs, hright]
  rfl

lemma complete_sign {s : Symbol} {op : UnaryOp} {t : Term} (hs : (s, op) ∈ signs)
    (ih : Complete (.term .unary t) ts) :
    Complete (.term .unary (.unary op t)) (.symbol s :: ts) := by
  intro depth rest hdepth hready
  refine ⟨rest.length, Nat.le_refl _, ?_⟩
  have hread : unary (Parser.expression depth) (ts ++ rest) = .ok (t, rest) := by
    obtain ⟨fuel, -, hread⟩ := ih depth rest (Nat.le_of_succ_le hdepth) hready
    exact hread
  show unary (Parser.expression depth) (.symbol s :: (ts ++ rest)) = .ok (.unary op t, rest)
  simp only [signs, List.mem_cons, Prod.mk.injEq, List.not_mem_nil, or_false] at hs
  rcases hs with ⟨rfl, rfl⟩ | ⟨rfl, rfl⟩ | ⟨rfl, rfl⟩ <;> rw [unary, hread] <;> rfl

lemma Complete.object {o : Term} (ho : Complete (.term .access o) ts) {first : Symbol}
    (hfirst : first ≠ .openParen) {depth : Nat} (hdepth : ts.length ≤ depth) (tail : List Token) :
    ∃ fuel, tail.length ≤ fuel ∧ access (Parser.expression depth) (ts ++ .symbol first :: tail) =
      accessTail (Parser.expression depth) (fuel + 1) o (.symbol first :: tail) := by
  have hready : Ready .access (.symbol first :: tail) := by
    refine (ready_iff (by decide) rfl).2 (stops_symbol.2 fun r hr => ?_)
    cases first <;> first | exact absurd rfl hfirst | cases hr
    all_goals decide
  obtain ⟨fuel, hfuel, hread⟩ := ho depth _ hdepth hready
  rw [List.length_cons] at hfuel
  obtain ⟨fuel, rfl⟩ : ∃ f, fuel = f + 1 := ⟨fuel - 1, by omega⟩
  exact ⟨fuel, by omega, hread⟩

lemma point_ne (lenient : Bool) : point lenient ≠ .openParen := by
  cases lenient <;> decide

lemma accessTail_point (whole : Parser Term) (fuel : Nat) (o : Term) (lenient : Bool) (n : String)
    (rest : List Token) :
    accessTail whole (fuel + 1) o (.symbol (point lenient) :: .name n :: rest) = (do
      let (object, rest) ← property whole o lenient (.name n :: rest)
      accessTail whole fuel object rest) := by
  cases lenient <;> rfl

lemma accessTail_corner (whole : Parser Term) (fuel : Nat) (o : Term) (lenient : Bool)
    (rest : List Token) :
    accessTail whole (fuel + 1) o (corner lenient ++ rest) = (do
      let (object, rest) ← Parser.index whole o lenient rest
      accessTail whole fuel object rest) := by
  cases lenient <;> rfl

lemma complete_member {o : Term} (n : String) (lenient : Bool)
    (ho : Complete (.term .access o) ts) :
    Complete (.term .access (.member o n lenient)) (ts ++ [.symbol (point lenient), .name n]) := by
  intro depth rest hdepth hready
  simp only [List.length_append, List.length_cons] at hdepth
  obtain ⟨fuel, hfuel, hread⟩ :=
    ho.object (point_ne lenient) (show ts.length ≤ depth by omega) (.name n :: rest)
  have hstops : Stops .primary rest := (ready_iff (by decide) rfl).1 hready
  refine ⟨fuel, by simp at hfuel; omega, ?_⟩
  show access (Parser.expression depth) _ = accessTail (Parser.expression depth) fuel _ rest
  rw [List.append_assoc]
  refine hread.trans ?_
  rw [accessTail_point, property, expect_of_ne (hstops.head_ne rfl (Nat.le_refl _))]
  rfl

lemma complete_call {o : Term} {args : List Term} (n : String) (lenient : Bool)
    (ho : Complete (.term .access o) ts) (hargs : Complete (.terms args) us) :
    Complete (.term .access (.call o n args lenient))
      (ts ++ .symbol (point lenient) :: .name n :: .symbol .openParen ::
        (us ++ [.symbol .closeParen])) := by
  intro depth rest hdepth _
  simp only [List.length_append, List.length_cons] at hdepth
  obtain ⟨fuel, hfuel, hread⟩ := ho.object (point_ne lenient) (show ts.length ≤ depth by omega)
    (.name n :: .symbol .openParen :: (us ++ [.symbol .closeParen]) ++ rest)
  obtain ⟨d, rfl⟩ := Nat.exists_eq_add_of_lt (show us.length < depth by omega)
  have hus := hargs (us.length + d) ((us ++ .symbol .closeParen :: rest).length + 1) .closeParen
    rest (by omega) (by rw [List.length_append]; omega) (by simp)
  refine ⟨fuel, by simp at hfuel; omega, ?_⟩
  show access _ _ = accessTail _ fuel _ rest
  rw [List.append_assoc]
  refine hread.trans ?_
  rw [List.cons_append, List.cons_append, accessTail_point, property, expect_self,
    List.append_assoc, List.singleton_append]
  simp only [hus]
  rfl

lemma complete_index {o key : Term} (lenient : Bool) (ho : Complete (.term .access o) ts)
    (hkey : Complete (.term .expression key) us) :
    Complete (.term .access (.index o key lenient))
      (ts ++ (corner lenient ++ (us ++ [.symbol .closeBracket]))) := by
  intro depth rest hdepth _
  simp only [List.length_append, List.length_cons] at hdepth
  obtain ⟨first, tail, hcorner, hfirst⟩ : ∃ s tail, corner lenient = .symbol s :: tail ∧
      s ≠ .openParen := by
    cases lenient <;> exact ⟨_, _, rfl, by decide⟩
  obtain ⟨fuel, hfuel, hread⟩ := ho.object hfirst (show ts.length ≤ depth by omega)
    (tail ++ (us ++ [.symbol .closeBracket]) ++ rest)
  have hus : Parser.expression depth (us ++ .symbol .closeBracket :: rest) =
      .ok (key, .symbol .closeBracket :: rest) :=
    hkey.inside (by simp only [hcorner, List.length_cons] at hdepth; omega) rfl
  refine ⟨fuel, by simp at hfuel; omega, ?_⟩
  show access _ _ = accessTail _ fuel _ rest
  have hsplit : ts ++ (corner lenient ++ (us ++ [.symbol .closeBracket])) ++ rest =
      ts ++ .symbol first :: (tail ++ (us ++ [.symbol .closeBracket]) ++ rest) := by simp [hcorner]
  have hjoin : Token.symbol first :: (tail ++ (us ++ [.symbol .closeBracket]) ++ rest) =
      corner lenient ++ (us ++ .symbol .closeBracket :: rest) := by simp [hcorner]
  rw [hsplit, hread, hjoin, accessTail_corner]
  simp only [Parser.index, hus, ok_bind, expect_self]
  rfl

/-! ### Operands -/

lemma complete_primary {t : Term}
    (h : ∀ depth rest, ts.length ≤ depth → primary (Parser.expression depth) (ts ++ rest) =
      .ok (t, rest)) : Complete (.term .primary t) ts :=
  fun depth rest hdepth _ => ⟨rest.length, Nat.le_refl _, h depth rest hdepth⟩

lemma named_of_constant {n : String} {v : Value} (h : (n, v) ∈ constants) :
    named n = .literal v := by
  simp only [constants, List.mem_cons, Prod.mk.injEq, List.not_mem_nil, or_false] at h
  rcases h with ⟨rfl, rfl⟩ | ⟨rfl, rfl⟩ | ⟨rfl, rfl⟩ | ⟨rfl, rfl⟩ <;> simp [named]

lemma named_of_not_constant {n : String} (h : n ∉ constants.map (·.1)) : named n = .name n := by
  simp only [constants, List.map_cons, List.map_nil, List.mem_cons, List.not_mem_nil, or_false,
    not_or] at h
  simp [named, h]

lemma complete_paren {t : Term} (ih : Complete (.term .expression t) ts) :
    Complete (.term .primary t) (.symbol .openParen :: (ts ++ [.symbol .closeParen])) := by
  refine complete_primary fun depth rest hdepth => ?_
  simp only [List.length_cons, List.length_append] at hdepth
  have hread : Parser.expression depth (ts ++ .symbol .closeParen :: rest) =
      .ok (t, .symbol .closeParen :: rest) := ih.inside (by omega) rfl
  rw [List.cons_append, List.append_assoc, List.singleton_append, primary]
  simp only [hread, ok_bind, expect_self]
  rfl

lemma complete_array {items : List Term} (ih : Complete (.terms items) ts) :
    Complete (.term .primary (.array items))
      (.symbol .openBracket :: (ts ++ [.symbol .closeBracket])) := by
  refine complete_primary fun depth rest hdepth => ?_
  simp only [List.length_cons, List.length_append] at hdepth
  obtain ⟨d, rfl⟩ := Nat.exists_eq_add_of_lt (show ts.length < depth by omega)
  have hread := ih (ts.length + d) ((ts ++ .symbol .closeBracket :: rest).length + 1)
    .closeBracket rest (by omega) (by rw [List.length_append]; omega) (by simp)
  rw [List.cons_append, List.append_assoc, List.singleton_append, primary, hread]
  rfl

lemma complete_object {es : List (String × Term)} (ih : Complete (.entries es) ts) :
    Complete (.term .primary (.object es))
      (.symbol .openBrace :: (ts ++ [.symbol .closeBrace])) := by
  refine complete_primary fun depth rest hdepth => ?_
  simp only [List.length_cons, List.length_append] at hdepth
  obtain ⟨d, rfl⟩ := Nat.exists_eq_add_of_lt (show ts.length < depth by omega)
  have hread := ih (ts.length + d) ((ts ++ .symbol .closeBrace :: rest).length + 1)
    rest (by omega) (by rw [List.length_append]; omega)
  rw [List.cons_append, List.append_assoc, List.singleton_append, primary, hread]
  rfl

/-! ### Lists -/

section Lists

variable {α : Type} {element : Parser α} {close : Symbol} {rest more : List Token} {a : α}
  {as : List α}

lemma separated_nil (fuel : Nat) :
    separated element close (fuel + 1) (.symbol close :: rest) = .ok ([], rest) := by
  rw [separated, expect_self]

lemma separated_last (fuel : Nat) (hne : ts.head? ≠ some (.symbol close)) (hclose : close ≠ .comma)
    (h : element ts = .ok (a, .symbol close :: rest)) :
    separated element close (fuel + 1) ts = .ok ([a], rest) := by
  have hcomma : expect .comma (.symbol close :: rest) = .error (.expected .comma) :=
    expect_of_ne (by simpa using hclose)
  simp only [separated, expect_of_ne hne, h, ok_bind, hcomma, expect_self]
  rfl

lemma separated_more {fuel : Nat} (hne : ts.head? ≠ some (.symbol close))
    (h : element ts = .ok (a, .symbol .comma :: more))
    (hmore : separated element close fuel more = .ok (as, rest)) :
    separated element close (fuel + 1) ts = .ok (a :: as, rest) := by
  simp only [separated, expect_of_ne hne, h, ok_bind, expect_self, hmore]
  rfl

end Lists

lemma head_ne_close {t : Term} (h : Derives (.term p t) ts) (more : List Token) {close : Symbol}
    (hclose : close ∈ [Symbol.closeParen, .closeBracket, .closeBrace]) :
    (ts ++ more).head? ≠ some (.symbol close) := by
  obtain ⟨first, tail, rfl, hfirst⟩ := headed_of_derives h
  intro hhead
  obtain rfl : first = .symbol close := Option.some.inj hhead
  simp only [List.mem_cons, List.not_mem_nil, or_false] at hclose
  rcases hclose with rfl | rfl | rfl <;> simp [Token.opens, Token.isSign] at hfirst

lemma continues_of_close {close : Symbol}
    (h : close ∈ [Symbol.closeParen, .closeBracket, .closeBrace]) :
    close.continues? = none ∧ close ≠ .comma := by
  simp only [List.mem_cons, List.not_mem_nil, or_false] at h
  rcases h with rfl | rfl | rfl <;> exact ⟨rfl, by decide⟩

lemma complete_noTerms : Complete (.terms []) [] := by
  intro depth fuel close rest _ hfuel _
  obtain ⟨fuel, rfl⟩ := Nat.exists_eq_add_of_lt hfuel
  exact separated_nil _

lemma complete_lastTerm {t : Term} (h : Derives (.term .expression t) ts)
    (ih : Complete (.term .expression t) ts) : Complete (.terms [t]) ts := by
  intro depth fuel close rest hdepth hfuel hclose
  obtain ⟨fuel, rfl⟩ := Nat.exists_eq_add_of_lt hfuel
  obtain ⟨hnone, hcomma⟩ := continues_of_close hclose
  exact separated_last _ (head_ne_close h _ hclose) hcomma (ih.inside (by omega) hnone)

lemma complete_moreTerms {t : Term} {others : List Term} (h : Derives (.term .expression t) ts)
    (ih : Complete (.term .expression t) ts) (hothers : Complete (.terms others) us) :
    Complete (.terms (t :: others)) (ts ++ .symbol .comma :: us) := by
  intro depth fuel close rest hdepth hfuel hclose
  simp only [List.length_append, List.length_cons] at hdepth hfuel
  obtain ⟨fuel, rfl⟩ : ∃ f, fuel = f + 1 := ⟨fuel - 1, by omega⟩
  rw [List.append_assoc, List.cons_append]
  exact separated_more (head_ne_close h _ hclose) (ih.inside (by omega) rfl)
    (hothers _ _ _ _ (by omega) (by omega) hclose)

lemma key_of_isKey {k : String} {key : Token} (h : IsKey k key) (rest : List Token) :
    Parser.key (key :: rest) = .ok (k, rest) := by
  cases h <;> rfl

lemma complete_keyed {k : String} {key : Token} {value : Term} (hkey : IsKey k key)
    (ih : Complete (.term .expression value) ts) :
    Complete (.entry k value) (key :: .symbol .colon :: ts) := by
  intro depth s rest hdepth hs
  simp only [List.length_cons] at hdepth
  have hnone : s.continues? = none := by
    simp only [List.mem_cons, List.not_mem_nil, or_false] at hs
    rcases hs with rfl | rfl <;> rfl
  have hread : Parser.expression (depth + 1) (ts ++ .symbol s :: rest) =
      .ok (value, .symbol s :: rest) := ih.inside (by omega) hnone
  simp only [entry, List.cons_append, key_of_isKey hkey, ok_bind, expect_self, hread]
  rfl

lemma complete_short {k : String} {key : Token} (hkey : IsKey k key) :
    Complete (.entry k (.name k)) [key] := by
  intro depth s rest _ hs
  have hcolon : expect .colon (.symbol s :: rest) = .error (.expected .colon) := by
    refine expect_of_ne ?_
    simp only [List.mem_cons, List.not_mem_nil, or_false] at hs
    rcases hs with rfl | rfl <;> simp
  simp only [entry, List.singleton_append, key_of_isKey hkey, ok_bind, hcolon]
  rfl

lemma head_ne_closeBrace {k : String} {value : Term} (h : Derives (.entry k value) ts)
    (more : List Token) : (ts ++ more).head? ≠ some (.symbol .closeBrace) := by
  obtain ⟨first, tail, rfl, hfirst⟩ := headed_of_derives h
  intro hhead
  obtain rfl : first = .symbol .closeBrace := Option.some.inj hhead
  simp [Token.opens] at hfirst

lemma complete_noEntries : Complete (.entries []) [] := by
  intro depth fuel rest _ hfuel
  obtain ⟨fuel, rfl⟩ := Nat.exists_eq_add_of_lt hfuel
  exact separated_nil _

lemma complete_lastEntry {k : String} {value : Term} (h : Derives (.entry k value) ts)
    (ih : Complete (.entry k value) ts) : Complete (.entries [(k, value)]) ts := by
  intro depth fuel rest hdepth hfuel
  obtain ⟨fuel, rfl⟩ := Nat.exists_eq_add_of_lt hfuel
  exact separated_last _ (head_ne_closeBrace h _) (by decide) (ih _ _ _ hdepth (by simp))

lemma complete_moreEntries {k : String} {value : Term} {others : List (String × Term)}
    (h : Derives (.entry k value) ts) (ih : Complete (.entry k value) ts)
    (hothers : Complete (.entries others) us) :
    Complete (.entries ((k, value) :: others)) (ts ++ .symbol .comma :: us) := by
  intro depth fuel rest hdepth hfuel
  simp only [List.length_append, List.length_cons] at hdepth hfuel
  obtain ⟨fuel, rfl⟩ : ∃ f, fuel = f + 1 := ⟨fuel - 1, by omega⟩
  rw [List.append_assoc, List.cons_append]
  exact separated_more (head_ne_closeBrace h _) (ih _ _ _ (by omega) (by simp))
    (hothers _ _ _ (by omega) (by omega))

end Rules

/-! ### Whole expressions -/

theorem complete_of_derives {ph : Phrase} {used : List Token} (h : Derives ph used) :
    Complete ph used := by
  induction h with
  | next hq h ih => exact complete_next hq h ih
  | conditional _ _ _ htest hconsequent halternate =>
    exact complete_conditional htest hconsequent halternate
  | operator hs hq _ _ ha hb => exact complete_operator hs hq ha hb
  | sign hs _ ih => exact complete_sign hs ih
  | member n lenient _ ho => exact complete_member n lenient ho
  | call n lenient _ _ ho hargs => exact complete_call n lenient ho hargs
  | index lenient _ _ ho hkey => exact complete_index lenient ho hkey
  | num | str => exact complete_primary fun _ _ _ => rfl
  | constant h =>
    exact complete_primary fun _ rest _ => by
      rw [List.singleton_append, primary, named_of_constant h]
  | named h =>
    exact complete_primary fun _ rest _ => by
      rw [List.singleton_append, primary, named_of_not_constant h]
  | paren _ ih => exact complete_paren ih
  | array _ ih => exact complete_array ih
  | object _ ih => exact complete_object ih
  | noTerms => exact complete_noTerms
  | lastTerm h ih => exact complete_lastTerm h ih
  | moreTerms h _ ih hothers => exact complete_moreTerms h ih hothers
  | keyed hkey _ ih => exact complete_keyed hkey ih
  | short hkey => exact complete_short hkey
  | noEntries => exact complete_noEntries
  | lastEntry h ih => exact complete_lastEntry h ih
  | moreEntries h _ ih hothers => exact complete_moreEntries h ih hothers

theorem ofTokens_of_derives {t : Term} {ts : List Token} (h : Derives (.term .expression t) ts) :
    Term.ofTokens ts = .ok t := by
  have hread : Parser.expression (ts.length + 1) (ts ++ []) = .ok (t, []) :=
    (complete_of_derives h).read (p := .expression) (Nat.le_refl _) (stops_nil _)
  rw [List.append_nil] at hread
  rw [Term.ofTokens, hread]
  rfl

theorem derives_of_ofTokens {t : Term} {ts : List Token} (h : Term.ofTokens ts = .ok t) :
    Derives (.term .expression t) ts := by
  obtain ⟨⟨t', rest⟩, hread, hrest⟩ := bind_eq_ok.1 h
  obtain ⟨used, rfl, hused⟩ := expression_sound _ hread
  cases rest with
  | nil =>
    obtain rfl : t' = t := Except.ok.inj hrest
    simpa using hused
  | cons first tail => cases hrest

/-- **The parser accepts exactly what the grammar derives**, with the tree of the derivation; all
other tokens are at fault, and so is a text that is made of them. No tokens have two trees. -/
theorem ofTokens_iff_derives (ts : List Token) :
    (∀ t, Term.ofTokens ts = .ok t ↔ Derives (.term .expression t) ts) ∧
      ((∃ fault, Term.ofTokens ts = .error fault) ↔ ¬ ∃ t, Derives (.term .expression t) ts) ∧
      (∀ t u, Derives (.term .expression t) ts → Derives (.term .expression u) ts → t = u) ∧
      ∀ source, Lexer.tokens source = .ok ts →
        (∀ t, Term.ofSource source = .ok t ↔ Derives (.term .expression t) ts) ∧
          ((∃ fault, Term.ofSource source = .error (.malformed source fault)) ↔
            ¬ ∃ t, Derives (.term .expression t) ts) := by
  have haccepts (t : Term) : Term.ofTokens ts = .ok t ↔ Derives (.term .expression t) ts :=
    ⟨derives_of_ofTokens, ofTokens_of_derives⟩
  refine ⟨haccepts, ?_, fun t u ht hu => ?_, fun source hsource => ?_⟩
  · simp only [← haccepts]
    cases Term.ofTokens ts <;> simp
  · exact Except.ok.inj ((ofTokens_of_derives ht).symm.trans (ofTokens_of_derives hu))
  · simp only [← haccepts, Term.ofSource, hsource, Except.bind]
    cases Term.ofTokens ts <;> simp

end Pressroom.Expr
