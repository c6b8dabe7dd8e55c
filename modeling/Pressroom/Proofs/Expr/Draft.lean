import Pressroom.Proofs.Expr.Completeness
import Pressroom.Proofs.Expr.Spelling

/-!
Expressions as their authors mean them, and how they are written down: with a space between any two
tokens, every text and every key in quotes, and parentheses only around an operand that binds less
than its place asks for. What is written is read back as it was meant.
-/

namespace Pressroom.Expr

/-! ### Drafts -/

/-- A name that stands for a variable. -/
structure Variable extends Word where
  free : toWord.name ∉ constants.map (·.1)

/-- An expression as it is meant. Numbers are given by the digits that spell them. -/
inductive Draft where
  | null
  | bool (b : Bool)
  | num (digits : Digits)
  | str (s : String)
  | name (n : Variable)
  | member (target : Draft) (property : Word) (lenient : Bool)
  | index (target key : Draft) (lenient : Bool)
  | call (target : Draft) (method : Word) (args : List Draft) (lenient : Bool)
  | unary (op : UnaryOp) (operand : Draft)
  | binary (left : Draft) (op : BinaryOp) (right : Draft)
  | logical (left : Draft) (op : LogicalOp) (right : Draft)
  | conditional (test consequent alternate : Draft)
  | array (items : List Draft)
  | object (entries : List (String × Draft))

namespace Draft

mutual

/-- The tree that a draft means. -/
def term : Draft → Term
  | null => .literal .null
  | bool b => .literal (.bool b)
  | num digits => .literal (Value.ofFloat digits.value)
  | str s => .literal (.str s)
  | name n => .name n.name
  | member target property lenient => .member target.term property.name lenient
  | index target key lenient => .index target.term key.term lenient
  | call target method args lenient => .call target.term method.name (terms args) lenient
  | unary op operand => .unary op operand.term
  | binary left op right => .binary left.term op right.term
  | logical left op right => .logical left.term op right.term
  | conditional test consequent alternate =>
    .conditional test.term consequent.term alternate.term
  | array items => .array (terms items)
  | object entries => .object (fields entries)

def terms : List Draft → List Term
  | [] => []
  | d :: ds => d.term :: terms ds

def fields : List (String × Draft) → List (String × Term)
  | [] => []
  | (k, d) :: ds => (k, d.term) :: fields ds

end

end Draft

/-! ### How operators are written -/

def UnaryOp.symbol : UnaryOp → Symbol
  | not => .bang
  | neg => .minus
  | plus => .plus

def BinaryOp.symbol : BinaryOp → Symbol
  | add => .plus
  | sub => .minus
  | mul => .star
  | div => .slash
  | rem => .percent
  | eq => .looseEq
  | ne => .looseNe
  | strictEq => .strictEq
  | strictNe => .strictNe
  | lt => .lt
  | le => .le
  | gt => .gt
  | ge => .ge

def LogicalOp.symbol : LogicalOp → Symbol
  | and => .both
  | or => .either
  | nullish => .nullish

/-- How tight an operator binds, and the level of its right operand. -/
def BinaryOp.precedence : BinaryOp → Precedence × Precedence
  | eq | ne | strictEq | strictNe => (.equality, .relational)
  | lt | le | gt | ge => (.relational, .additive)
  | add | sub => (.additive, .multiplicative)
  | mul | div | rem => (.multiplicative, .unary)

def LogicalOp.precedence : LogicalOp → Precedence × Precedence
  | nullish => (.fallback, .disjunction)
  | or => (.disjunction, .conjunction)
  | and => (.conjunction, .equality)

namespace Draft

def precedence : Draft → Precedence
  | conditional .. => .expression
  | logical _ op _ => op.precedence.1
  | binary _ op _ => op.precedence.1
  | unary .. => .unary
  | member .. | index .. | call .. => .access
  | null | bool _ | num _ | str _ | name _ | array _ | object _ => .primary

/-- An expression of one level in a place for another level: in parentheses if it binds less than
the place asks for. -/
def fit (place level : Precedence) (ls : List Lexeme) : List Lexeme :=
  if place.rank ≤ level.rank then ls
  else .symbol .openParen :: (ls ++ [.symbol .closeParen])

def commaed (parts : List (List Lexeme)) : List Lexeme :=
  (parts.intersperse [.symbol .comma]).flatten

end Draft

/-- A constant as it is written. -/
def Word.ofBool : Bool → Word
  | true => ⟨'t', "rue".toList, by decide, by decide⟩
  | false => ⟨'f', "alse".toList, by decide, by decide⟩

def Word.null : Word :=
  ⟨'n', "ull".toList, by decide, by decide⟩

def cornerLexemes (lenient : Bool) : List Lexeme :=
  if lenient then [.symbol .optionalDot, .symbol .openBracket] else [.symbol .openBracket]

namespace Draft

mutual

/-- An expression as it is written. -/
def lexemes (q : Quote) : Draft → List Lexeme
  | null => [.word .null]
  | bool b => [.word (.ofBool b)]
  | num digits => [.digits digits]
  | str s => [.quoted q s]
  | name n => [.word n.toWord]
  | member target property lenient =>
    fit .access target.precedence (target.lexemes q) ++
      [.symbol (point lenient), .word property]
  | index target key lenient =>
    fit .access target.precedence (target.lexemes q) ++
      (cornerLexemes lenient ++ (key.lexemes q ++ [.symbol .closeBracket]))
  | call target method args lenient =>
    fit .access target.precedence (target.lexemes q) ++
      .symbol (point lenient) :: .word method :: .symbol .openParen ::
        (commaed (itemLexemes q args) ++ [.symbol .closeParen])
  | unary op operand =>
    .symbol op.symbol :: fit .unary operand.precedence (operand.lexemes q)
  | binary left op right =>
    fit op.precedence.1 left.precedence (left.lexemes q) ++
      .symbol op.symbol :: fit op.precedence.2 right.precedence (right.lexemes q)
  | logical left op right =>
    fit op.precedence.1 left.precedence (left.lexemes q) ++
      .symbol op.symbol :: fit op.precedence.2 right.precedence (right.lexemes q)
  | conditional test consequent alternate =>
    fit .fallback test.precedence (test.lexemes q) ++
      .symbol .question :: (consequent.lexemes q ++ .symbol .colon :: alternate.lexemes q)
  | array items =>
    .symbol .openBracket :: (commaed (itemLexemes q items) ++ [.symbol .closeBracket])
  | object entries =>
    .symbol .openBrace :: (commaed (entryLexemes q entries) ++ [.symbol .closeBrace])

def itemLexemes (q : Quote) : List Draft → List (List Lexeme)
  | [] => []
  | d :: ds => d.lexemes q :: itemLexemes q ds

def entryLexemes (q : Quote) : List (String × Draft) → List (List Lexeme)
  | [] => []
  | (k, d) :: ds => (.quoted q k :: .symbol .colon :: d.lexemes q) :: entryLexemes q ds

end

def written (q : Quote) (d : Draft) : List Char :=
  Lexeme.spaced (d.lexemes q)

/-! ### What is written is derived -/

lemma derives_fit {p level : Precedence} {t : Term} {ls : List Lexeme}
    (h : Derives (.term level t) (ls.map Lexeme.token)) :
    Derives (.term p t) ((fit p level ls).map Lexeme.token) := by
  unfold fit
  split
  · next hrank => exact h.loosen hrank
  · have hparen := Derives.paren (h.loosen (p := .expression) (Nat.zero_le _))
    simpa [Lexeme.token] using hparen.loosen p.rank_le_primary

lemma operator_binary (op : BinaryOp) :
    (op.symbol, (Term.binary · op ·)) ∈ op.precedence.1.operators ∧
      op.precedence.1.next? = some op.precedence.2 := by
  cases op <;> simp [BinaryOp.symbol, BinaryOp.precedence, Precedence.operators, Precedence.next?]

lemma operator_logical (op : LogicalOp) :
    (op.symbol, (Term.logical · op ·)) ∈ op.precedence.1.operators ∧
      op.precedence.1.next? = some op.precedence.2 := by
  cases op <;> simp [LogicalOp.symbol, LogicalOp.precedence, Precedence.operators, Precedence.next?]

lemma sign_unary (op : UnaryOp) : (op.symbol, op) ∈ signs := by
  cases op <;> decide

lemma null_mem_constants : (Word.null.name, .null) ∈ constants := by
  have hname : Word.null.name = "null" := by decide
  simp [hname, constants]

lemma bool_mem_constants (b : Bool) : ((Word.ofBool b).name, .bool b) ∈ constants := by
  have hname : (Word.ofBool true).name = "true" ∧ (Word.ofBool false).name = "false" := by decide
  cases b <;> simp [hname, constants]

lemma map_token_cornerLexemes (lenient : Bool) :
    (cornerLexemes lenient).map Lexeme.token = corner lenient := by
  cases lenient <;> rfl

lemma commaed_cons (part part' : List Lexeme) (parts : List (List Lexeme)) :
    commaed (part :: part' :: parts) = part ++ .symbol .comma :: commaed (part' :: parts) := by
  simp [commaed]

mutual

/-- What is written for a draft is derived from the grammar, on the level of the draft. -/
theorem derives_lexemes (q : Quote) : (d : Draft) →
    Derives (.term d.precedence d.term) ((d.lexemes q).map Lexeme.token)
  | null => .constant null_mem_constants
  | bool b => .constant (bool_mem_constants b)
  | num digits => .num digits.value
  | str s => .str s
  | name n => .named n.free
  | member target property lenient => by
    have htarget := derives_fit (p := .access) (derives_lexemes q target)
    simpa [lexemes, Lexeme.token, term, precedence] using htarget.member property.name lenient
  | index target key lenient => by
    have htarget := derives_fit (p := .access) (derives_lexemes q target)
    have hkey := (derives_lexemes q key).loosen (p := .expression) (Nat.zero_le _)
    simpa [lexemes, Lexeme.token, term, precedence, map_token_cornerLexemes] using
      htarget.index lenient hkey
  | call target method args lenient => by
    have htarget := derives_fit (p := .access) (derives_lexemes q target)
    simpa [lexemes, Lexeme.token, term, precedence] using
      htarget.call method.name lenient (derives_items q args)
  | unary op operand => by
    have hoperand := derives_fit (p := .unary) (derives_lexemes q operand)
    simpa [lexemes, Lexeme.token, term, precedence] using Derives.sign (sign_unary op) hoperand
  | binary left op right => by
    have hleft := derives_fit (p := op.precedence.1) (derives_lexemes q left)
    have hright := derives_fit (p := op.precedence.2) (derives_lexemes q right)
    simpa [lexemes, Lexeme.token, term, precedence] using
      Derives.operator (operator_binary op).1 (operator_binary op).2 hleft hright
  | logical left op right => by
    have hleft := derives_fit (p := op.precedence.1) (derives_lexemes q left)
    have hright := derives_fit (p := op.precedence.2) (derives_lexemes q right)
    simpa [lexemes, Lexeme.token, term, precedence] using
      Derives.operator (operator_logical op).1 (operator_logical op).2 hleft hright
  | conditional test consequent alternate => by
    have htest := derives_fit (p := .fallback) (derives_lexemes q test)
    have hconsequent := (derives_lexemes q consequent).loosen (p := .expression) (Nat.zero_le _)
    have halternate := (derives_lexemes q alternate).loosen (p := .expression) (Nat.zero_le _)
    simpa [lexemes, Lexeme.token, term, precedence] using htest.conditional hconsequent halternate
  | array items => by
    simpa [lexemes, Lexeme.token, term, precedence] using (derives_items q items).array
  | object entries => by
    simpa [lexemes, Lexeme.token, term, precedence] using (derives_entries q entries).object

/-- So are the items of a list. -/
theorem derives_items (q : Quote) : (ds : List Draft) →
    Derives (.terms (terms ds)) ((commaed (itemLexemes q ds)).map Lexeme.token)
  | [] => .noTerms
  | [d] => by
    have hd := (derives_lexemes q d).loosen (p := .expression) (Nat.zero_le _)
    simpa [terms, itemLexemes, commaed] using hd.lastTerm
  | d :: d' :: ds => by
    have hd := (derives_lexemes q d).loosen (p := .expression) (Nat.zero_le _)
    have hmore := hd.moreTerms (derives_items q (d' :: ds))
    simpa [terms, itemLexemes, commaed_cons, Lexeme.token] using hmore

/-- So are the entries of an object. -/
theorem derives_entries (q : Quote) : (es : List (String × Draft)) →
    Derives (.entries (fields es)) ((commaed (entryLexemes q es)).map Lexeme.token)
  | [] => .noEntries
  | [(k, d)] => by
    have hd := (derives_lexemes q d).loosen (p := .expression) (Nat.zero_le _)
    simpa [fields, entryLexemes, commaed, Lexeme.token] using (hd.keyed (.str k)).lastEntry
  | (k, d) :: e' :: es => by
    have hd := (derives_lexemes q d).loosen (p := .expression) (Nat.zero_le _)
    have hmore := (hd.keyed (.str k)).moreEntries (derives_entries q (e' :: es))
    simpa [fields, entryLexemes, commaed_cons, Lexeme.token] using hmore

end

/-- **What is written is read back as it was meant.** -/
theorem ofSource_written (q : Quote) (d : Draft) : Term.ofSource (d.written q) = .ok d.term := by
  have hparsed : Term.ofTokens ((d.lexemes q).map Lexeme.token) = .ok d.term :=
    ofTokens_of_derives ((derives_lexemes q d).loosen (Nat.zero_le _))
  have hread : (Lexer.tokens (d.written q)).bind Term.ofTokens = .ok d.term := by
    rw [written, Lexeme.tokens_spaced]
    exact hparsed
  rw [Term.ofSource, hread]

/-- Operators of one level group from the left, so only a right operand of theirs is parted off. -/
example :
    let one : Draft := .num ⟨'1', [], by decide⟩
    (binary one .sub (binary one .sub one)).written .double = "1 - ( 1 - 1 )".toList ∧
      (binary (binary one .sub one) .sub one).written .double = "1 - 1 - 1".toList := by
  decide

end Draft

end Pressroom.Expr
