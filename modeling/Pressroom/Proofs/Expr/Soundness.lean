import Pressroom.Proofs.Expr.Grammar
import Pressroom.Proofs.Outcome

/-!
What the parser reads is derived by the grammar: what a reader takes off the tokens is a phrase of
its level, with the tree of the derivation (`Sound`).
-/

namespace Pressroom.Expr

open Pressroom.Expr.Parser

lemma expect_eq_ok_iff {s : Symbol} {ts rest : List Token} :
    expect s ts = .ok rest ↔ ts = .symbol s :: rest := by
  unfold expect
  split
  · next s' tail =>
    by_cases h : s' = s <;> simp [h]
  · next h =>
    constructor
    · simp
    · rintro rfl
      exact absurd rfl (h s rest)

lemma expect_self (s : Symbol) (rest : List Token) : expect s (.symbol s :: rest) = .ok rest :=
  expect_eq_ok_iff.2 rfl

def Precedence.operator? : Precedence → Symbol → Option (Term → Term → Term)
  | .fallback => nullishOp?
  | .disjunction => orOp?
  | .conjunction => andOp?
  | .equality => equalityOp?
  | .relational => relationOp?
  | .additive => additiveOp?
  | .multiplicative => multiplicativeOp?
  | .expression | .unary | .access | .primary => fun _ => none

lemma operator?_eq_some_iff {p : Precedence} {s : Symbol} {make : Term → Term → Term} :
    p.operator? s = some make ↔ (s, make) ∈ p.operators := by
  cases p <;> cases s <;>
    simp [Precedence.operator?, Precedence.operators, nullishOp?, orOp?, andOp?, equalityOp?,
      relationOp?, additiveOp?, multiplicativeOp?, eq_comm]

/-! ### What is read is derived -/

section Sound

variable {α : Type}

/-- What a reader takes off the tokens is derived. -/
def Sound (read : Parser α) (D : α → List Token → Prop) : Prop :=
  ∀ ⦃ts a rest⦄, read ts = .ok (a, rest) → ∃ used, ts = used ++ rest ∧ D a used

lemma separated_sound {element : Parser α} {D : α → List Token → Prop}
    {L : List α → List Token → Prop} (helement : Sound element D) (nil : L [] [])
    (last : ∀ {a ts}, D a ts → L [a] ts)
    (more : ∀ {a ts as us}, D a ts → L as us → L (a :: as) (ts ++ .symbol .comma :: us))
    (close : Symbol) (fuel : Nat) {ts : List Token} {as : List α} {rest : List Token}
    (h : separated element close fuel ts = .ok (as, rest)) :
    ∃ used, ts = used ++ .symbol close :: rest ∧ L as used := by
  induction fuel generalizing ts as with
  | zero => simp [separated] at h
  | succ fuel ih =>
    simp only [separated] at h
    split at h
    · next r hclose =>
      simp only [Except.ok.injEq, Prod.mk.injEq] at h
      obtain ⟨rfl, rfl⟩ := h
      exact ⟨[], expect_eq_ok_iff.1 hclose, nil⟩
    · rw [bind_eq_ok] at h
      obtain ⟨⟨a, r⟩, ha, h⟩ := h
      obtain ⟨used, rfl, hused⟩ := helement ha
      simp only at h
      split at h
      · next r' hcomma =>
        obtain rfl := expect_eq_ok_iff.1 hcomma
        rw [bind_eq_ok] at h
        obtain ⟨⟨others, r''⟩, hothers, h⟩ := h
        cases h
        obtain ⟨used', rfl, hused'⟩ := ih hothers
        exact ⟨used ++ .symbol .comma :: used', by simp, more hused hused'⟩
      · rw [bind_eq_ok] at h
        obtain ⟨r', hclose, h⟩ := h
        cases h
        exact ⟨used, by rw [expect_eq_ok_iff.1 hclose], last hused⟩

variable {whole : Parser Term} (hwhole : Sound whole fun t => Derives (.term .expression t))

include hwhole

lemma terms_sound (close : Symbol) (fuel : Nat) {ts rest : List Token} {us : List Term}
    (h : separated whole close fuel ts = .ok (us, rest)) :
    ∃ used, ts = used ++ .symbol close :: rest ∧ Derives (.terms us) used :=
  separated_sound (L := fun us => Derives (.terms us)) hwhole .noTerms .lastTerm .moreTerms close
    fuel h

omit hwhole in
lemma key_eq_ok {ts rest : List Token} {k : String} (h : Parser.key ts = .ok (k, rest)) :
    ∃ t, ts = t :: rest ∧ IsKey k t := by
  unfold Parser.key at h
  split at h <;> cases h
  · exact ⟨_, rfl, .name _⟩
  · exact ⟨_, rfl, .str _⟩
  · exact ⟨_, rfl, .num _⟩

lemma entry_sound : Sound (entry whole) fun e => Derives (.entry e.1 e.2) := by
  intro ts e rest h
  rw [entry, bind_eq_ok] at h
  obtain ⟨⟨k, r⟩, hkey, h⟩ := h
  obtain ⟨t, rfl, hk⟩ := key_eq_ok hkey
  simp only at h
  split at h
  · next r' hcolon =>
    obtain rfl := expect_eq_ok_iff.1 hcolon
    rw [bind_eq_ok] at h
    obtain ⟨⟨value, r''⟩, hvalue, h⟩ := h
    cases h
    obtain ⟨used, rfl, hused⟩ := hwhole hvalue
    exact ⟨t :: .symbol .colon :: used, rfl, .keyed hk hused⟩
  · cases h
    exact ⟨[t], rfl, .short hk⟩

lemma entries_sound (fuel : Nat) {ts rest : List Token} {es : List (String × Term)}
    (h : separated (entry whole) .closeBrace fuel ts = .ok (es, rest)) :
    ∃ used, ts = used ++ .symbol .closeBrace :: rest ∧ Derives (.entries es) used :=
  separated_sound (L := fun es => Derives (.entries es)) (entry_sound hwhole) .noEntries .lastEntry
    .moreEntries .closeBrace fuel h

omit hwhole in
lemma named_derives (n : String) : Derives (.term .primary (named n)) [.name n] := by
  unfold named
  split
  · next h => exact h ▸ .constant (by simp [constants])
  · next htrue =>
    split
    · next h => exact h ▸ .constant (by simp [constants])
    · next hfalse =>
      split
      · next h =>
        simp only [Bool.or_eq_true, decide_eq_true_eq] at h
        rcases h with rfl | rfl
        · exact .constant (by simp [constants])
        · exact .constant (by simp [constants])
      · next h =>
        simp only [Bool.or_eq_true, decide_eq_true_eq, not_or] at h
        exact .named (by simp [constants, htrue, hfalse, h])

lemma primary_sound : Sound (primary whole) fun t => Derives (.term .primary t) := by
  intro ts t rest h
  unfold primary at h
  split at h
  · cases h
    exact ⟨[_], rfl, .num _⟩
  · cases h
    exact ⟨[_], rfl, .str _⟩
  · cases h
    exact ⟨[_], rfl, named_derives _⟩
  · rw [bind_eq_ok] at h
    obtain ⟨⟨inner, r⟩, hinner, h⟩ := h
    rw [bind_eq_ok] at h
    obtain ⟨r', hclose, h⟩ := h
    cases h
    obtain ⟨used, rfl, hused⟩ := hwhole hinner
    exact ⟨_ :: (used ++ [.symbol .closeParen]), by simp [expect_eq_ok_iff.1 hclose], .paren hused⟩
  · rw [bind_eq_ok] at h
    obtain ⟨⟨items, r⟩, hitems, h⟩ := h
    cases h
    obtain ⟨used, rfl, hused⟩ := terms_sound hwhole _ _ hitems
    exact ⟨_ :: (used ++ [.symbol .closeBracket]), by simp, .array hused⟩
  · rw [bind_eq_ok] at h
    obtain ⟨⟨es, r⟩, hes, h⟩ := h
    cases h
    obtain ⟨used, rfl, hused⟩ := entries_sound hwhole _ hes
    exact ⟨_ :: (used ++ [.symbol .closeBrace]), by simp, .object hused⟩
  · cases h
  · cases h

lemma property_sound {o : Term} {before : List Token} (ho : Derives (.term .access o) before)
    (lenient : Bool) {ts rest : List Token} {t : Term}
    (h : property whole o lenient ts = .ok (t, rest)) :
    ∃ used, ts = used ++ rest ∧
      Derives (.term .access t) (before ++ .symbol (point lenient) :: used) := by
  unfold property at h
  split at h
  · next n tail =>
    split at h
    · next r hopen =>
      obtain rfl := expect_eq_ok_iff.1 hopen
      rw [bind_eq_ok] at h
      obtain ⟨⟨args, r'⟩, hargs, h⟩ := h
      cases h
      obtain ⟨used, rfl, hused⟩ := terms_sound hwhole _ _ hargs
      exact ⟨.name n :: .symbol .openParen :: (used ++ [.symbol .closeParen]), by simp,
        .call n lenient ho hused⟩
    · cases h
      exact ⟨[.name n], rfl, .member n lenient ho⟩
  · cases h

lemma index_sound {o : Term} {before : List Token} (ho : Derives (.term .access o) before)
    (lenient : Bool) {ts rest : List Token} {t : Term}
    (h : index whole o lenient ts = .ok (t, rest)) :
    ∃ used, ts = used ++ rest ∧ Derives (.term .access t) (before ++ (corner lenient ++ used)) := by
  rw [index, bind_eq_ok] at h
  obtain ⟨⟨key, r⟩, hkey, h⟩ := h
  rw [bind_eq_ok] at h
  obtain ⟨r', hclose, h⟩ := h
  cases h
  obtain ⟨used, rfl, hused⟩ := hwhole hkey
  exact ⟨used ++ [.symbol .closeBracket], by simp [expect_eq_ok_iff.1 hclose],
    .index lenient ho hused⟩

lemma accessTail_sound (fuel : Nat) {o t : Term} {before ts rest : List Token}
    (ho : Derives (.term .access o) before) (h : accessTail whole fuel o ts = .ok (t, rest)) :
    ∃ used, ts = used ++ rest ∧ Derives (.term .access t) (before ++ used) := by
  induction fuel generalizing o before ts with
  | zero =>
    cases h
    exact ⟨[], rfl, by simpa using ho⟩
  | succ fuel ih =>
    have step {o' : Term} (lead : List Token) {used r : List Token}
        (ho' : Derives (.term .access o') (before ++ (lead ++ used)))
        (h : accessTail whole fuel o' r = .ok (t, rest)) :
        ∃ used', lead ++ (used ++ r) = used' ++ rest ∧
          Derives (.term .access t) (before ++ used') := by
      obtain ⟨used', rfl, hused'⟩ := ih ho' h
      exact ⟨lead ++ (used ++ used'), by simp, by simpa using hused'⟩
    unfold accessTail at h
    split at h
    · obtain ⟨⟨o', r⟩, ho', htail⟩ := bind_eq_ok.1 h
      obtain ⟨used, rfl, hused⟩ := property_sound hwhole ho false ho'
      exact step [.symbol .dot] hused htail
    · obtain ⟨⟨o', r⟩, ho', htail⟩ := bind_eq_ok.1 h
      obtain ⟨used, rfl, hused⟩ := index_sound hwhole ho true ho'
      exact step (corner true) hused htail
    · obtain ⟨⟨o', r⟩, ho', htail⟩ := bind_eq_ok.1 h
      obtain ⟨used, rfl, hused⟩ := property_sound hwhole ho true ho'
      exact step [.symbol .optionalDot] hused htail
    · obtain ⟨⟨o', r⟩, ho', htail⟩ := bind_eq_ok.1 h
      obtain ⟨used, rfl, hused⟩ := index_sound hwhole ho false ho'
      exact step (corner false) hused htail
    · cases h
    · cases h
      exact ⟨[], rfl, by simpa using ho⟩

lemma access_sound : Sound (access whole) fun t => Derives (.term .access t) := by
  intro ts t rest h
  rw [access, bind_eq_ok] at h
  obtain ⟨⟨o, r⟩, ho, h⟩ := h
  obtain ⟨before, rfl, hbefore⟩ := primary_sound hwhole ho
  obtain ⟨used, rfl, hused⟩ := accessTail_sound hwhole _ (.next rfl hbefore) h
  exact ⟨before ++ used, by simp, hused⟩

lemma unary_sound : Sound (unary whole) fun t => Derives (.term .unary t) := by
  intro ts t rest h
  have signed {s : Symbol} {op : UnaryOp} {operand : Term} {used : List Token}
      (hs : (s, op) ∈ signs) (hused : Derives (.term .unary operand) used) :
      ∃ used', .symbol s :: (used ++ rest) = used' ++ rest ∧
        Derives (.term .unary (.unary op operand)) used' :=
    ⟨.symbol s :: used, rfl, .sign hs hused⟩
  fun_induction unary whole ts generalizing t with
  | case1 r ih =>
    rw [bind_eq_ok] at h
    obtain ⟨⟨operand, r'⟩, hoperand, h⟩ := h
    cases h
    obtain ⟨used, rfl, hused⟩ := ih hoperand
    exact signed (by simp [signs]) hused
  | case2 r ih =>
    rw [bind_eq_ok] at h
    obtain ⟨⟨operand, r'⟩, hoperand, h⟩ := h
    cases h
    obtain ⟨used, rfl, hused⟩ := ih hoperand
    exact signed (by simp [signs]) hused
  | case3 r ih =>
    rw [bind_eq_ok] at h
    obtain ⟨⟨operand, r'⟩, hoperand, h⟩ := h
    cases h
    obtain ⟨used, rfl, hused⟩ := ih hoperand
    exact signed (by simp [signs]) hused
  | case4 =>
    obtain ⟨used, rfl, hused⟩ := access_sound hwhole h
    exact ⟨used, rfl, .next rfl hused⟩

omit hwhole in
lemma chainTail_sound {p q : Precedence} (hq : p.next? = some q) {operand : Parser Term}
    (hoperand : Sound operand fun t => Derives (.term q t)) (fuel : Nat) {left t : Term}
    {before ts rest : List Token} (hleft : Derives (.term p left) before)
    (h : chainTail operand p.operator? fuel left ts = .ok (t, rest)) :
    ∃ used, ts = used ++ rest ∧ Derives (.term p t) (before ++ used) := by
  induction fuel generalizing left before ts with
  | zero =>
    cases h
    exact ⟨[], rfl, by simpa using hleft⟩
  | succ fuel ih =>
    unfold chainTail at h
    split at h
    · next s r =>
      split at h
      · next make hmake =>
        rw [bind_eq_ok] at h
        obtain ⟨⟨right, r'⟩, hright, h⟩ := h
        obtain ⟨us, rfl, hus⟩ := hoperand hright
        obtain ⟨used, rfl, hused⟩ :=
          ih (.operator (operator?_eq_some_iff.1 hmake) hq hleft hus) h
        exact ⟨.symbol s :: (us ++ used), by simp, by simpa using hused⟩
      · cases h
        exact ⟨[], rfl, by simpa using hleft⟩
    · cases h
      exact ⟨[], rfl, by simpa using hleft⟩

omit hwhole in
lemma chain_sound {p q : Precedence} (hq : p.next? = some q) {operand : Parser Term}
    (hoperand : Sound operand fun t => Derives (.term q t)) :
    Sound (chain operand p.operator?) fun t => Derives (.term p t) := by
  intro ts t rest h
  rw [chain, bind_eq_ok] at h
  obtain ⟨⟨first, r⟩, hfirst, h⟩ := h
  obtain ⟨before, rfl, hbefore⟩ := hoperand hfirst
  obtain ⟨used, rfl, hused⟩ := chainTail_sound hq hoperand _ (.next hq hbefore) h
  exact ⟨before ++ used, by simp, hused⟩

lemma fallback_sound : Sound (fallback whole) fun t => Derives (.term .fallback t) :=
  chain_sound (p := .fallback) rfl <| chain_sound (p := .disjunction) rfl <|
    chain_sound (p := .conjunction) rfl <| chain_sound (p := .equality) rfl <|
    chain_sound (p := .relational) rfl <| chain_sound (p := .additive) rfl <|
    chain_sound (p := .multiplicative) rfl (unary_sound hwhole)

end Sound

lemma expression_sound (depth : Nat) :
    Sound (expression depth) fun t => Derives (.term .expression t) := by
  induction depth with
  | zero =>
    intro ts t rest h
    cases h
  | succ depth ih =>
    intro ts t rest h
    unfold expression at h
    rw [bind_eq_ok] at h
    obtain ⟨⟨test, r⟩, htest, h⟩ := h
    obtain ⟨before, rfl, hbefore⟩ := fallback_sound ih htest
    simp only at h
    split at h
    · next r' hquestion =>
      obtain rfl := expect_eq_ok_iff.1 hquestion
      rw [bind_eq_ok] at h
      obtain ⟨⟨consequent, r⟩, hconsequent, h⟩ := h
      rw [bind_eq_ok] at h
      obtain ⟨r', hcolon, h⟩ := h
      rw [bind_eq_ok] at h
      obtain ⟨⟨alternate, r''⟩, halternate, h⟩ := h
      cases h
      obtain ⟨us, rfl, hus⟩ := ih hconsequent
      obtain rfl := expect_eq_ok_iff.1 hcolon
      obtain ⟨vs, rfl, hvs⟩ := ih halternate
      exact ⟨before ++ .symbol .question :: (us ++ .symbol .colon :: vs), by simp,
        .conditional hbefore hus hvs⟩
    · cases h
      exact ⟨before, rfl, .next rfl hbefore⟩

end Pressroom.Expr
