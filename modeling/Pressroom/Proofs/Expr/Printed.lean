import Pressroom.Proofs.Expr.Nodes
import Pressroom.Proofs.Text.Join

/-!
Trees written down: with a space between any two tokens and parentheses only around an operand that
binds less than its place asks for. Every tree that is read from a text is read back from what is
written for it, if keys that stood alone stand alone again. Written out, such a key is followed by
its name as a variable; so a tree is read back too if all its names are those of variables, but a
constant that stood alone as a key comes back as its value.
-/

namespace Pressroom.Expr

open Lexer

/-! ### How trees are written -/

/-- How trees are written: the figures of numbers, the quotes around texts, and whether a key whose
value is the variable of its name stands alone. -/
structure Manner where
  figures : Numeral → List Char
  quote : Quote
  alone : Bool

/-- A literal as it is written. -/
def Manner.literal (m : Manner) : Value → List Char
  | .null => Word.null.chars
  | .bool b => (Word.ofBool b).chars
  | .num n => m.figures n
  | .str s => (Lexeme.quoted m.quote s).spelling
  | .arr _ | .obj _ => []

namespace Term

def precedence : Term → Precedence
  | conditional .. => .expression
  | logical _ op _ => op.precedence.1
  | binary _ op _ => op.precedence.1
  | unary .. => .unary
  | member .. | index .. | call .. => .access
  | literal _ | name _ | array _ | object _ => .primary

/-- Whether a tree is the variable of a name. -/
def isName (k : String) : Term → Bool
  | name n => n == k
  | _ => false

/-- The pieces of an expression of one level in a place for another level: in parentheses if it
binds less than the place asks for. -/
def fit (place level : Precedence) (pieces : List (List Char)) : List (List Char) :=
  if place.rank ≤ level.rank then pieces
  else Symbol.openParen.spelling :: (pieces ++ [Symbol.closeParen.spelling])

def commaed (parts : List (List (List Char))) : List (List Char) :=
  (parts.intersperse [Symbol.comma.spelling]).flatten

mutual

/-- The pieces of text that are written for a tree. -/
def pieces (m : Manner) : Term → List (List Char)
  | literal v => [m.literal v]
  | name n => [n.toList]
  | member target property lenient =>
    fit .access target.precedence (target.pieces m) ++
      [(point lenient).spelling, property.toList]
  | index target key lenient =>
    fit .access target.precedence (target.pieces m) ++
      ((cornerLexemes lenient).map Lexeme.spelling ++
        (key.pieces m ++ [Symbol.closeBracket.spelling]))
  | call target method args lenient =>
    fit .access target.precedence (target.pieces m) ++
      (point lenient).spelling :: method.toList :: Symbol.openParen.spelling ::
        (commaed (itemPieces m args) ++ [Symbol.closeParen.spelling])
  | unary op operand =>
    op.symbol.spelling :: fit .unary operand.precedence (operand.pieces m)
  | binary left op right =>
    fit op.precedence.1 left.precedence (left.pieces m) ++
      op.symbol.spelling :: fit op.precedence.2 right.precedence (right.pieces m)
  | logical left op right =>
    fit op.precedence.1 left.precedence (left.pieces m) ++
      op.symbol.spelling :: fit op.precedence.2 right.precedence (right.pieces m)
  | conditional test consequent alternate =>
    fit .fallback test.precedence (test.pieces m) ++
      Symbol.question.spelling ::
        (consequent.pieces m ++ Symbol.colon.spelling :: alternate.pieces m)
  | array items =>
    Symbol.openBracket.spelling ::
      (commaed (itemPieces m items) ++ [Symbol.closeBracket.spelling])
  | object entries =>
    Symbol.openBrace.spelling ::
      (commaed (entryPieces m entries) ++ [Symbol.closeBrace.spelling])

def itemPieces (m : Manner) : List Term → List (List (List Char))
  | [] => []
  | item :: items => item.pieces m :: itemPieces m items

def entryPieces (m : Manner) : List (String × Term) → List (List (List Char))
  | [] => []
  | (k, value) :: entries =>
    (if m.alone && value.isName k then [(Lexeme.quoted m.quote k).spelling]
      else (Lexeme.quoted m.quote k).spelling :: Symbol.colon.spelling :: value.pieces m) ::
        entryPieces m entries

end

def written (m : Manner) (term : Term) : List Char :=
  Text.join [' '] (term.pieces m)

end Term

/-! ### Pieces that are read as single tokens -/

/-- Pieces that are read as the tokens of a phrase, one token each. -/
def ReadAs (phrase : Phrase) (pieces : List (List Char)) : Prop :=
  ∃ ts, pieces.map tokens = ts.map (fun t => .ok [t]) ∧ Derives phrase ts

lemma ReadAs.single {phrase : Phrase} {piece : List Char} {t : Token} (h : tokens piece = .ok [t])
    (hderives : Derives phrase [t]) : ReadAs phrase [piece] :=
  ⟨[t], congrArg (fun x => [x]) h, hderives⟩

lemma tokens_join {pieces : List (List Char)} {ts : List Token}
    (h : pieces.map tokens = ts.map (fun t => .ok [t])) :
    tokens (Text.join [' '] pieces) = .ok ts := by
  induction pieces generalizing ts with
  | nil =>
    obtain rfl : ts = [] := by simpa using h.symm
    exact tokens_nil
  | cons piece pieces ih =>
    cases ts with
    | nil => cases h
    | cons t ts =>
      obtain ⟨hpiece, hpieces⟩ := List.cons.inj h
      by_cases hlast : pieces = []
      · subst hlast
        obtain rfl : ts = [] := by simpa using hpieces.symm
        rw [Text.join_singleton]
        exact hpiece
      · rw [Text.join_cons hlast, List.append_assoc]
        exact tokens_append (by decide) hpiece ((tokens_blank _).trans (ih hpieces))

lemma ReadAs.ofSource {p : Precedence} {term : Term} {pieces : List (List Char)}
    (h : ReadAs (.term p term) pieces) : Term.ofSource (Text.join [' '] pieces) = .ok term := by
  obtain ⟨ts, hts, hderives⟩ := h
  exact ofSource_eq_ok_iff.2 ⟨ts, tokens_join hts, hderives.loosen p.rank.zero_le⟩

lemma tokens_symbolSpelling (s : Symbol) : tokens s.spelling = .ok [.symbol s] :=
  tokens_spelling (.symbol s)

lemma tokens_cornerLexemes (lenient : Bool) :
    ((cornerLexemes lenient).map Lexeme.spelling).map tokens =
      (corner lenient).map (fun t => .ok [t]) := by
  rw [← Draft.map_token_cornerLexemes, List.map_map, List.map_map]
  exact List.map_congr_left fun l _ => tokens_spelling l

lemma ReadAs.fit {level : Precedence} {t : Term} {pieces : List (List Char)}
    (h : ReadAs (.term level t) pieces) (p : Precedence) :
    ReadAs (.term p t) (Term.fit p level pieces) := by
  obtain ⟨ts, hts, hderives⟩ := h
  unfold Term.fit
  split
  · next hrank => exact ⟨ts, hts, hderives.loosen hrank⟩
  · have hparen := Derives.paren (hderives.loosen (p := .expression) (Nat.zero_le _))
    refine ⟨_, ?_, hparen.loosen p.rank_le_primary⟩
    simp [hts, tokens_symbolSpelling]

/-! ### What is written is read back -/

section Written

variable {m : Manner}

/-- What is legible in the manner in which a tree is written. -/
def Manner.Legible (m : Manner) (o : Option String × Term) : Prop :=
  Expr.Legible (fun n => Figures (m.figures n) n) m.alone o.1 o.2

lemma readAs_literal {v : Value} (h : Value.Literal (fun n => Figures (m.figures n) n) v) :
    ReadAs (.term .primary (.literal v)) [m.literal v] := by
  cases v with
  | null => exact .single (tokens_spelling (.word .null)) (.constant Draft.null_mem_constants)
  | bool b =>
    exact .single (tokens_spelling (.word (.ofBool b))) (.constant (Draft.bool_mem_constants b))
  | num n =>
    obtain ⟨x, hx, hvalue⟩ := h
    exact .single hx (hvalue ▸ .num x)
  | str s => exact .single (tokens_spelling (.quoted m.quote s)) (.str s)
  | arr items => exact absurd h id
  | obj fields => exact absurd h id

lemma isName_iff {k : String} {t : Term} : t.isName k = true ↔ t = .name k := by
  cases t <;> simp [Term.isName]

lemma commaed_cons (part : List (List Char)) {parts : List (List (List Char))} (h : parts ≠ []) :
    Term.commaed (part :: parts) = part ++ Symbol.comma.spelling :: Term.commaed parts := by
  obtain ⟨part', parts, rfl⟩ := List.exists_cons_of_ne_nil h
  simp [Term.commaed]

lemma legible_value {k : String} {t : Term} (h : m.Legible (some k, t))
    (halone : ¬ (m.alone && t.isName k) = true) : m.Legible (none, t) := by
  cases t with
  | name n =>
    obtain h | ⟨hm, hk⟩ := h
    · exact .inl h
    · obtain rfl := Option.some.inj hk
      exact absurd (by simp [hm, Term.isName]) halone
  | _ => exact h

lemma readAs_entry {k : String} {t : Term}
    (h : ¬ (m.alone && t.isName k) = true → ReadAs (.term t.precedence t) (t.pieces m)) :
    ReadAs (.entry k t)
      (if m.alone && t.isName k then [(Lexeme.quoted m.quote k).spelling]
        else (Lexeme.quoted m.quote k).spelling :: Symbol.colon.spelling :: t.pieces m) := by
  have hkey : tokens (Lexeme.quoted m.quote k).spelling = .ok [.str k] :=
    tokens_spelling (.quoted m.quote k)
  split
  · next halone =>
    obtain rfl := isName_iff.1 (Bool.and_eq_true_iff.1 halone).2
    exact .single hkey (.short (.str k))
  · next halone =>
    obtain ⟨ts, hts, hderives⟩ := h halone
    refine ⟨_, ?_, (hderives.loosen (Nat.zero_le _)).keyed (.str k)⟩
    simp [hts, hkey, tokens_symbolSpelling]

-- The induction is on the tree. What is legible among its nodes is handed down to the parts; only
-- the value of an entry changes its place, from under its key to a tree of its own.
mutual

/-- The pieces that are written for a legible tree are read as it, on its level. -/
theorem readAs_pieces : (t : Term) → (∀ o ∈ t.nodes, m.Legible o) →
    ReadAs (.term t.precedence t) (t.pieces m)
  | .literal v, h => by
    have hv : m.Legible (none, .literal v) := h _ List.mem_cons_self
    exact readAs_literal hv
  | .name n, h => by
    obtain ⟨hn, hfree⟩ | ⟨-, hkey⟩ : m.Legible (none, .name n) := h _ List.mem_cons_self
    · exact .single hn (.named hfree)
    · cases hkey
  | .member target property lenient, h => by
    obtain ⟨hproperty, htarget⟩ := List.forall_mem_cons.1 h
    obtain ⟨ts, hts, hderives⟩ := (readAs_pieces target htarget).fit .access
    have hproperty : tokens property.toList = .ok [.name property] := hproperty
    refine ⟨_, ?_, hderives.member property lenient⟩
    simp [Term.pieces, hts, hproperty, tokens_symbolSpelling]
  | .index target key lenient, h => by
    have hboth : ∀ o ∈ target.nodes ++ key.nodes, m.Legible o := (List.forall_mem_cons.1 h).2
    obtain ⟨htarget, hkey⟩ := List.forall_mem_append.1 hboth
    obtain ⟨ts, hts, hderives⟩ := (readAs_pieces target htarget).fit .access
    obtain ⟨us, hus, hderives'⟩ := readAs_pieces key hkey
    refine ⟨_, ?_, hderives.index lenient (hderives'.loosen (Nat.zero_le _))⟩
    simp only [Term.pieces, List.map_append, List.map_cons, List.map_nil, hts, hus,
      tokens_cornerLexemes, tokens_symbolSpelling]
  | .call target method args lenient, h => by
    obtain ⟨hmethod, hboth⟩ := List.forall_mem_cons.1 h
    have hboth : ∀ o ∈ target.nodes ++ Term.innerAll args, m.Legible o := hboth
    obtain ⟨htarget, hargs⟩ := List.forall_mem_append.1 hboth
    obtain ⟨ts, hts, hderives⟩ := (readAs_pieces target htarget).fit .access
    obtain ⟨us, hus, hderives'⟩ := readAs_items args hargs
    have hmethod : tokens method.toList = .ok [.name method] := hmethod
    refine ⟨_, ?_, hderives.call method lenient hderives'⟩
    simp [Term.pieces, hts, hus, hmethod, tokens_symbolSpelling]
  | .unary op operand, h => by
    obtain ⟨ts, hts, hderives⟩ :=
      (readAs_pieces operand (List.forall_mem_cons.1 h).2).fit .unary
    refine ⟨_, ?_, .sign (Draft.sign_unary op) hderives⟩
    simp [Term.pieces, hts, tokens_symbolSpelling]
  | .binary left op right, h => by
    have hboth : ∀ o ∈ left.nodes ++ right.nodes, m.Legible o := (List.forall_mem_cons.1 h).2
    obtain ⟨hleft, hright⟩ := List.forall_mem_append.1 hboth
    obtain ⟨ts, hts, hderives⟩ := (readAs_pieces left hleft).fit op.precedence.1
    obtain ⟨us, hus, hderives'⟩ := (readAs_pieces right hright).fit op.precedence.2
    obtain ⟨hop, hnext⟩ := Draft.operator_binary op
    refine ⟨_, ?_, .operator hop hnext hderives hderives'⟩
    simp [Term.pieces, hts, hus, tokens_symbolSpelling]
  | .logical left op right, h => by
    have hboth : ∀ o ∈ left.nodes ++ right.nodes, m.Legible o := (List.forall_mem_cons.1 h).2
    obtain ⟨hleft, hright⟩ := List.forall_mem_append.1 hboth
    obtain ⟨ts, hts, hderives⟩ := (readAs_pieces left hleft).fit op.precedence.1
    obtain ⟨us, hus, hderives'⟩ := (readAs_pieces right hright).fit op.precedence.2
    obtain ⟨hop, hnext⟩ := Draft.operator_logical op
    refine ⟨_, ?_, .operator hop hnext hderives hderives'⟩
    simp [Term.pieces, hts, hus, tokens_symbolSpelling]
  | .conditional test consequent alternate, h => by
    have hall : ∀ o ∈ test.nodes ++ (consequent.nodes ++ alternate.nodes), m.Legible o :=
      (List.forall_mem_cons.1 h).2
    obtain ⟨htest, hbranches⟩ := List.forall_mem_append.1 hall
    obtain ⟨hconsequent, halternate⟩ := List.forall_mem_append.1 hbranches
    obtain ⟨ts, hts, hderives⟩ := (readAs_pieces test htest).fit .fallback
    obtain ⟨us, hus, hderives'⟩ := readAs_pieces consequent hconsequent
    obtain ⟨vs, hvs, hderives''⟩ := readAs_pieces alternate halternate
    refine ⟨_, ?_, hderives.conditional (hderives'.loosen (Nat.zero_le _))
      (hderives''.loosen (Nat.zero_le _))⟩
    simp [Term.pieces, hts, hus, hvs, tokens_symbolSpelling]
  | .array items, h => by
    obtain ⟨ts, hts, hderives⟩ := readAs_items items (List.forall_mem_cons.1 h).2
    refine ⟨_, ?_, hderives.array⟩
    simp [Term.pieces, hts, tokens_symbolSpelling]
  | .object entries, h => by
    obtain ⟨ts, hts, hderives⟩ := readAs_entries entries (List.forall_mem_cons.1 h).2
    refine ⟨_, ?_, hderives.object⟩
    simp [Term.pieces, hts, tokens_symbolSpelling]

/-- So are the items of a list. -/
theorem readAs_items : (items : List Term) → (∀ o ∈ Term.innerAll items, m.Legible o) →
    ReadAs (.terms items) (Term.commaed (Term.itemPieces m items))
  | [], _ => ⟨[], rfl, .noTerms⟩
  | [t], h => by
    have ht : ∀ o ∈ t.nodes ++ [], m.Legible o := h
    obtain ⟨ts, hts, hderives⟩ := readAs_pieces t (List.forall_mem_append.1 ht).1
    refine ⟨ts, ?_, (hderives.loosen (Nat.zero_le _)).lastTerm⟩
    simpa [Term.itemPieces, Term.commaed] using hts
  | t :: t' :: items, h => by
    have hboth : ∀ o ∈ t.nodes ++ Term.innerAll (t' :: items), m.Legible o := h
    obtain ⟨ht, hmore⟩ := List.forall_mem_append.1 hboth
    obtain ⟨ts, hts, hderives⟩ := readAs_pieces t ht
    obtain ⟨us, hus, hderives'⟩ := readAs_items (t' :: items) hmore
    refine ⟨_, ?_, (hderives.loosen (Nat.zero_le _)).moreTerms hderives'⟩
    have hne : Term.itemPieces m (t' :: items) ≠ [] := by simp [Term.itemPieces]
    rw [Term.itemPieces, commaed_cons _ hne]
    simp [hts, hus, tokens_symbolSpelling]

/-- So are the entries of an object. -/
theorem readAs_entries : (es : List (String × Term)) →
    (∀ o ∈ Term.innerEntries es, m.Legible o) →
    ReadAs (.entries es) (Term.commaed (Term.entryPieces m es))
  | [], _ => ⟨[], rfl, .noEntries⟩
  | [(k, t)], h => by
    have hentry : ∀ o ∈ (some k, t) :: (t.inner ++ []), m.Legible o := h
    obtain ⟨hroot, hrest⟩ := List.forall_mem_cons.1 hentry
    have hinner := (List.forall_mem_append.1 hrest).1
    obtain ⟨ts, hts, hderives⟩ := readAs_entry fun halone =>
      readAs_pieces t (List.forall_mem_cons.2 ⟨legible_value hroot halone, hinner⟩)
    refine ⟨ts, ?_, hderives.lastEntry⟩
    simpa [Term.entryPieces, Term.commaed] using hts
  | (k, t) :: (k', t') :: es, h => by
    have hboth : ∀ o ∈ (some k, t) :: (t.inner ++ Term.innerEntries ((k', t') :: es)),
        m.Legible o := h
    obtain ⟨hroot, hrest⟩ := List.forall_mem_cons.1 hboth
    obtain ⟨hinner, hmore⟩ := List.forall_mem_append.1 hrest
    obtain ⟨ts, hts, hderives⟩ := readAs_entry fun halone =>
      readAs_pieces t (List.forall_mem_cons.2 ⟨legible_value hroot halone, hinner⟩)
    obtain ⟨us, hus, hderives'⟩ := readAs_entries ((k', t') :: es) hmore
    refine ⟨_, ?_, hderives.moreEntries hderives'⟩
    have hne : Term.entryPieces m ((k', t') :: es) ≠ [] := by simp [Term.entryPieces]
    rw [Term.entryPieces, commaed_cons _ hne, List.map_append, hts]
    simp [hus, tokens_symbolSpelling]

end

/-- What is legible as it was read is legible as it is written, if its numbers are, and if keys
stand alone or need not. -/
lemma legible_written {o : Option String × Term}
    (h : Legible (fun n => ∃ cs, Figures cs n) true o.1 o.2)
    (hnumbers : ∀ n, o.2 = .literal (.num n) → Figures (m.figures n) n)
    (hnames : m.alone = true ∨ ∀ n, o.2 = .name n → IsVariable n) : m.Legible o := by
  obtain ⟨key, t⟩ := o
  cases t with
  | literal v =>
    cases v with
    | num n => exact hnumbers n rfl
    | _ => exact h
  | name n =>
    obtain halone | hvariable := hnames
    · obtain h | ⟨-, hkey⟩ := h
      · exact .inl h
      · exact .inr ⟨halone, hkey⟩
    · exact .inl (hvariable n rfl)
  | _ => exact h

end Written

/-- Figures for the numbers of a tree. -/
def SpellsNumbers (figures : Numeral → List Char) (term : Term) : Prop :=
  ∀ key n, (key, .literal (.num n)) ∈ term.nodes → Figures (figures n) n

/-- **The names in a tree.** Every name in a tree that is read from a text is that of a variable, or
it stands for the key that it is the value of. So all names are those of variables just when those
of such keys are. The numbers of the tree can be written, and however they are, the tree is read
back from its text if keys stand alone in it or if all names are those of variables. -/
theorem names_of_ofSource {source : List Char} {term : Term}
    (hterm : Term.ofSource source = .ok term) :
    (∀ key n, (key, .name n) ∈ term.nodes → IsVariable n ∨ key = some n) ∧
      ((∀ key n, (key, .name n) ∈ term.nodes → IsVariable n) ↔
        ∀ n, (some n, .name n) ∈ term.nodes → IsVariable n) ∧
      (∃ figures, SpellsNumbers figures term) ∧
      ∀ m : Manner, SpellsNumbers m.figures term →
        (m.alone = true ∨ ∀ key n, (key, .name n) ∈ term.nodes → IsVariable n) →
        Term.ofSource (term.written m) = .ok term := by
  have hlegible := legible_of_ofSource hterm
  have hname (key : Option String) (n : String) (hn : (key, .name n) ∈ term.nodes) :
      IsVariable n ∨ key = some n := by
    obtain h | ⟨-, h⟩ := hlegible _ hn
    · exact .inl h
    · exact .inr h
  refine ⟨hname, ⟨fun h n => h (some n) n, fun h key n hn => ?_⟩, ?_, fun m hnumbers hnames => ?_⟩
  · obtain hvariable | rfl := hname key n hn
    · exact hvariable
    · exact h n hn
  · -- a number is written as the text that it was read from
    have hfigures (n : Numeral) : ∃ cs, (∃ cs', Figures cs' n) → Figures cs n := by
      by_cases h : ∃ cs', Figures cs' n
      · exact ⟨h.choose, fun _ => h.choose_spec⟩
      · exact ⟨[], fun h' => absurd h' h⟩
    choose figures hfigures using hfigures
    exact ⟨figures, fun key n hn => hfigures n (hlegible _ hn)⟩
  · refine (readAs_pieces term fun o ho => legible_written (hlegible o ho) ?_ ?_).ofSource
    · rintro n hn
      exact hnumbers o.1 n (hn ▸ ho)
    · refine hnames.imp_right fun h n hn => h o.1 n ?_
      exact hn ▸ ho

/-- A key that stands alone and is no name, and an entry with a number. -/
def loneKey : Term :=
  .object [("a b", .name "a b"), ("total", .literal (.num (.int 0)))]

/-- Standing alone again, the key is read back. -/
theorem names_of_ofSource_loneKey :
    Term.ofSource "\x7b 'a b' , 'total' : 0 \x7d".toList = .ok loneKey ∧
      Term.ofSource (loneKey.written ⟨fun _ => zero.chars, .double, true⟩) = .ok loneKey := by
  have hderives : Derives (.term .primary loneKey)
      [.symbol .openBrace, .str "a b", .symbol .comma, .str "total", .symbol .colon,
        .num zero.value, .symbol .closeBrace] := by
    have hzero : Derives (.term .expression (.literal (.num (.int 0)))) [.num zero.value] :=
      ofFloat_zero ▸ (Derives.num zero.value).loosen (by decide)
    exact ((Derives.short (.str "a b")).moreEntries
      (hzero.keyed (.str "total")).lastEntry).object
  have hread : Term.ofSource "\x7b 'a b' , 'total' : 0 \x7d".toList = .ok loneKey :=
    show Term.ofSource (Lexeme.spaced [.symbol .openBrace, .quoted .single "a b", .symbol .comma,
      .quoted .single "total", .symbol .colon, .digits zero, .symbol .closeBrace]) = _ from
    ofSource_spaced hderives
  refine ⟨hread, (names_of_ofSource hread).2.2.2 _ ?_ (.inl rfl)⟩
  intro key n hn
  simp only [loneKey, Term.nodes, Term.inner, Term.innerEntries, List.mem_cons, List.append_nil,
    List.nil_append, Prod.mk.injEq, reduceCtorEq, and_false, false_or, List.not_mem_nil, or_false,
    Term.literal.injEq, Value.num.injEq] at hn
  obtain ⟨-, rfl⟩ := hn
  exact ⟨zero.value, tokens_spelling (.digits zero), ofFloat_zero⟩

/-- A constant as a key that stands alone is the name of a variable that cannot be written out: as
the value of that key it is read as the constant. -/
theorem names_of_ofSource_constant :
    Term.ofSource "\x7btrue\x7d".toList = .ok (.object [("true", .name "true")]) ∧
      (some "true", .name "true") ∈ (Term.object [("true", .name "true")]).nodes ∧
      ¬ IsVariable "true" ∧
      ∀ m : Manner, m.alone = false →
        Term.ofSource ((Term.object [("true", .name "true")]).written m) =
          .ok (.object [("true", .literal (.bool true))]) := by
  refine ⟨?_, List.mem_cons_of_mem _ List.mem_cons_self, fun h => h.2 (by simp [constants]),
    fun m halone => ?_⟩
  · have htrue : tokens "true".toList = .ok [.name "true"] :=
      tokens_spelling (.word (.ofBool true))
    have hclose : tokens ['}'] = .ok [.symbol .closeBrace] :=
      tokens_spelling (.symbol .closeBrace)
    have htokens := tokens_symbol (s := .openBrace) (c := '{') rfl rfl (.inl (by decide))
      (tokens_append (by decide) htrue hclose)
    have hderives := (Derives.short (.name "true")).lastEntry.object
    exact ofSource_eq_ok_iff.2 ⟨_, htokens, hderives.loosen (by decide)⟩
  · obtain ⟨figures, q, alone⟩ := m
    obtain rfl : alone = false := halone
    exact ofSource_spaced (Draft.derives_lexemes q (.object [("true", .bool true)]))

end Pressroom.Expr
