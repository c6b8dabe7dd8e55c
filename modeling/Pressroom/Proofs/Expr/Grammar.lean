import Mathlib.Tactic.Lemma
import Pressroom.Expr.Parser

/-!
The grammar of expressions. A phrase is derived from the tokens that it consists of, all of them and
in their order; the rules say nothing about how a phrase is found.
-/

namespace Pressroom.Expr

/-- The levels of expressions, from those that bind least to single operands. -/
inductive Precedence where
  | expression | fallback | disjunction | conjunction | equality | relational | additive
  | multiplicative | unary | access | primary
  deriving DecidableEq

namespace Precedence

def rank : Precedence → Nat
  | expression => 0
  | fallback => 1
  | disjunction => 2
  | conjunction => 3
  | equality => 4
  | relational => 5
  | additive => 6
  | multiplicative => 7
  | unary => 8
  | access => 9
  | primary => 10

/-- The level that binds one step tighter: that of the operands. -/
def next? : Precedence → Option Precedence
  | expression => some fallback
  | fallback => some disjunction
  | disjunction => some conjunction
  | conjunction => some equality
  | equality => some relational
  | relational => some additive
  | additive => some multiplicative
  | multiplicative => some unary
  | unary => some access
  | access => some primary
  | primary => none

/-- The operators between operands of one level, with what they make of them. -/
def operators : Precedence → List (Symbol × (Term → Term → Term))
  | fallback => [(.nullish, (.logical · .nullish ·))]
  | disjunction => [(.either, (.logical · .or ·))]
  | conjunction => [(.both, (.logical · .and ·))]
  | equality => [(.strictEq, (.binary · .strictEq ·)), (.strictNe, (.binary · .strictNe ·)),
      (.looseEq, (.binary · .eq ·)), (.looseNe, (.binary · .ne ·))]
  | relational => [(.le, (.binary · .le ·)), (.ge, (.binary · .ge ·)), (.lt, (.binary · .lt ·)),
      (.gt, (.binary · .gt ·))]
  | additive => [(.plus, (.binary · .add ·)), (.minus, (.binary · .sub ·))]
  | multiplicative => [(.star, (.binary · .mul ·)), (.slash, (.binary · .div ·)),
      (.percent, (.binary · .rem ·))]
  | expression | unary | access | primary => []

lemma rank_le_primary (p : Precedence) : p.rank ≤ primary.rank := by
  cases p <;> decide

lemma rank_next {p q : Precedence} (h : p.next? = some q) : q.rank = p.rank + 1 := by
  cases p <;> simp only [next?, Option.some.injEq, reduceCtorEq] at h <;> subst h <;> rfl

end Precedence

/-- The operators in front of an operand. -/
def signs : List (Symbol × UnaryOp) :=
  [(.bang, .not), (.minus, .neg), (.plus, .plus)]

/-- The names that stand for a value. -/
def constants : List (String × Value) :=
  [("true", .bool true), ("false", .bool false), ("null", .null), ("undefined", .null)]

/-- What leads from an object to a property. -/
def point (lenient : Bool) : Symbol :=
  if lenient then .optionalDot else .dot

/-- What leads from an object to an index. -/
def corner (lenient : Bool) : List Token :=
  if lenient then [.symbol .optionalDot, .symbol .openBracket] else [.symbol .openBracket]

/-- What the tokens of an expression are grouped into. -/
inductive Phrase where
  | term (p : Precedence) (t : Term)
  | terms (ts : List Term)
  | entry (key : String) (value : Term)
  | entries (es : List (String × Term))

/-- A token that is the key of an entry. -/
inductive IsKey : String → Token → Prop where
  | name (n : String) : IsKey n (.name n)
  | str (s : String) : IsKey s (.str s)
  | num (x : Float) : IsKey (Number.text x) (.num x)

/-- **The grammar.** -/
inductive Derives : Phrase → List Token → Prop where
  /-- A phrase of one level is one of every level that binds less. -/
  | next {p q : Precedence} {t : Term} {ts : List Token} (hq : p.next? = some q)
      (h : Derives (.term q t) ts) : Derives (.term p t) ts
  | conditional {test consequent alternate : Term} {ts us vs : List Token}
      (htest : Derives (.term .fallback test) ts)
      (hconsequent : Derives (.term .expression consequent) us)
      (halternate : Derives (.term .expression alternate) vs) :
      Derives (.term .expression (.conditional test consequent alternate))
        (ts ++ .symbol .question :: (us ++ .symbol .colon :: vs))
  /-- Operators of one level group from the left. -/
  | operator {p q : Precedence} {s : Symbol} {make : Term → Term → Term} {a b : Term}
      {ts us : List Token} (hs : (s, make) ∈ p.operators) (hq : p.next? = some q)
      (ha : Derives (.term p a) ts) (hb : Derives (.term q b) us) :
      Derives (.term p (make a b)) (ts ++ .symbol s :: us)
  | sign {s : Symbol} {op : UnaryOp} {t : Term} {ts : List Token} (hs : (s, op) ∈ signs)
      (h : Derives (.term .unary t) ts) : Derives (.term .unary (.unary op t)) (.symbol s :: ts)
  | member {o : Term} {ts : List Token} (n : String) (lenient : Bool)
      (ho : Derives (.term .access o) ts) :
      Derives (.term .access (.member o n lenient)) (ts ++ [.symbol (point lenient), .name n])
  | call {o : Term} {args : List Term} {ts us : List Token} (n : String) (lenient : Bool)
      (ho : Derives (.term .access o) ts) (hargs : Derives (.terms args) us) :
      Derives (.term .access (.call o n args lenient))
        (ts ++ .symbol (point lenient) :: .name n :: .symbol .openParen ::
          (us ++ [.symbol .closeParen]))
  | index {o key : Term} {ts us : List Token} (lenient : Bool)
      (ho : Derives (.term .access o) ts) (hkey : Derives (.term .expression key) us) :
      Derives (.term .access (.index o key lenient))
        (ts ++ (corner lenient ++ (us ++ [.symbol .closeBracket])))
  | num (x : Float) : Derives (.term .primary (.literal (Value.ofFloat x))) [.num x]
  | str (s : String) : Derives (.term .primary (.literal (.str s))) [.str s]
  | constant {n : String} {v : Value} (h : (n, v) ∈ constants) :
      Derives (.term .primary (.literal v)) [.name n]
  | named {n : String} (h : n ∉ constants.map (·.1)) :
      Derives (.term .primary (.name n)) [.name n]
  | paren {t : Term} {ts : List Token} (h : Derives (.term .expression t) ts) :
      Derives (.term .primary t) (.symbol .openParen :: (ts ++ [.symbol .closeParen]))
  | array {items : List Term} {ts : List Token} (h : Derives (.terms items) ts) :
      Derives (.term .primary (.array items))
        (.symbol .openBracket :: (ts ++ [.symbol .closeBracket]))
  | object {es : List (String × Term)} {ts : List Token} (h : Derives (.entries es) ts) :
      Derives (.term .primary (.object es)) (.symbol .openBrace :: (ts ++ [.symbol .closeBrace]))
  | noTerms : Derives (.terms []) []
  | lastTerm {t : Term} {ts : List Token} (h : Derives (.term .expression t) ts) :
      Derives (.terms [t]) ts
  /-- Nothing need follow a comma. -/
  | moreTerms {t : Term} {others : List Term} {ts us : List Token}
      (h : Derives (.term .expression t) ts) (hothers : Derives (.terms others) us) :
      Derives (.terms (t :: others)) (ts ++ .symbol .comma :: us)
  | keyed {k : String} {key : Token} {value : Term} {ts : List Token} (hkey : IsKey k key)
      (h : Derives (.term .expression value) ts) :
      Derives (.entry k value) (key :: .symbol .colon :: ts)
  /-- A key alone stands for the variable of its name. -/
  | short {k : String} {key : Token} (hkey : IsKey k key) : Derives (.entry k (.name k)) [key]
  | noEntries : Derives (.entries []) []
  | lastEntry {k : String} {value : Term} {ts : List Token} (h : Derives (.entry k value) ts) :
      Derives (.entries [(k, value)]) ts
  | moreEntries {k : String} {value : Term} {others : List (String × Term)} {ts us : List Token}
      (h : Derives (.entry k value) ts) (hothers : Derives (.entries others) us) :
      Derives (.entries ((k, value) :: others)) (ts ++ .symbol .comma :: us)

namespace Derives

lemma loosen {p q : Precedence} {t : Term} {ts : List Token} (hrank : p.rank ≤ q.rank)
    (h : Derives (.term q t) ts) : Derives (.term p t) ts := by
  obtain ⟨n, hn⟩ := Nat.exists_eq_add_of_le hrank
  induction n generalizing p with
  | zero =>
    obtain rfl : p = q := by cases p <;> cases q <;> simp [Precedence.rank] at hn <;> rfl
    exact h
  | succ n ih =>
    cases hnext : p.next? with
    | none =>
      obtain rfl : p = .primary := by
        cases p <;> simp [Precedence.next?] at hnext
        rfl
      have := q.rank_le_primary
      omega
    | some m =>
      have hm := Precedence.rank_next hnext
      exact .next hnext (ih (by omega) (by omega))

end Derives

end Pressroom.Expr
