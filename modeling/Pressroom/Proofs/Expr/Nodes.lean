import Pressroom.Proofs.Expr.Enclosed

/-!
The nodes of the tree of an expression text. What the nodes hold comes out of single tokens: numbers
are those of number tokens, and names are those of name tokens. The one exception is a key that
stands for the variable of its name, which may be any text.
-/

namespace Pressroom.Expr

open Lexer

/-! ### Nodes -/

namespace Term

mutual

/-- The nodes below the root of a tree, each with the key that it is the value of, if it is the
value of an entry. -/
def inner : Term → List (Option String × Term)
  | .literal _ | .name _ => []
  | .member target _ _ => (none, target) :: target.inner
  | .index target key _ => (none, target) :: (target.inner ++ (none, key) :: key.inner)
  | .call target _ args _ => (none, target) :: (target.inner ++ innerAll args)
  | .unary _ operand => (none, operand) :: operand.inner
  | .binary left _ right | .logical left _ right =>
    (none, left) :: (left.inner ++ (none, right) :: right.inner)
  | .conditional test consequent alternate =>
    (none, test) :: (test.inner ++ (none, consequent) :: (consequent.inner ++
      (none, alternate) :: alternate.inner))
  | .array items => innerAll items
  | .object entries => innerEntries entries

def innerAll : List Term → List (Option String × Term)
  | [] => []
  | item :: items => (none, item) :: (item.inner ++ innerAll items)

def innerEntries : List (String × Term) → List (Option String × Term)
  | [] => []
  | (key, value) :: entries => (some key, value) :: (value.inner ++ innerEntries entries)

end

/-- The nodes of a tree, each with the key that it is the value of, if it is the value of an
entry. -/
def nodes (term : Term) : List (Option String × Term) :=
  (none, term) :: term.inner

end Term

def Phrase.nodes : Phrase → List (Option String × Term)
  | .term _ t => t.nodes
  | .terms ts => Term.innerAll ts
  | .entry key value => (some key, value) :: value.inner
  | .entries es => Term.innerEntries es

/-! ### What nodes hold -/

/-- A text that is read as one name. -/
def IsName (n : String) : Prop :=
  tokens n.toList = .ok [.name n]

/-- A name that stands for a variable. -/
def IsVariable (n : String) : Prop :=
  IsName n ∧ n ∉ constants.map (·.1)

/-- A text that is read as one number. -/
def Figures (cs : List Char) (n : Numeral) : Prop :=
  ∃ x, tokens cs = .ok [.num x] ∧ Value.ofFloat x = .num n

/-- A value that a literal can have if its numbers are among those that `spelled` says. -/
def Value.Literal (spelled : Numeral → Prop) : Value → Prop
  | .null | .bool _ | .str _ => True
  | .num n => spelled n
  | .arr _ | .obj _ => False

/-- A node whose names are names and whose numbers are among those that `spelled` says, under the
key that it is the value of. If keys may stand alone, the variable of the name of a key may have any
name. -/
def Legible (spelled : Numeral → Prop) (alone : Bool) (key : Option String) : Term → Prop
  | .literal v => Value.Literal spelled v
  | .name n => IsVariable n ∨ alone = true ∧ key = some n
  | .member _ property _ => IsName property
  | .call _ method _ _ => IsName method
  | .index .. | .unary .. | .binary .. | .logical .. | .conditional .. | .array _ | .object _ =>
    True

variable {spelled : Numeral → Prop} {alone : Bool}

/-- Only a name can be legible as the value of an entry and not by itself. -/
lemma legible_keyed {t : Term} (h : Legible spelled alone none t) (key : Option String) :
    Legible spelled alone key t := by
  cases t with
  | name n =>
    obtain h | ⟨-, h⟩ := h
    · exact .inl h
    · cases h
  | _ => exact h

/-! ### Tokens by themselves -/

lemma exists_token_of_mem {cs : List Char} {ts : List Token} (h : tokens cs = .ok ts) {t : Token}
    (ht : t ∈ ts) :
    ∃ c rest left, Text.isBlank c = false ∧ token c rest = .ok (t, left) := by
  fun_induction tokens cs generalizing ts with
  | case1 =>
    cases h
    cases ht
  | case2 c cs hblank ih => exact ih h ht
  | case3 | case4 => cases h
  | case5 c cs hblank t' left htoken _ ts' hleft ih =>
    obtain rfl : t' :: ts' = ts := Except.ok.inj h
    rcases List.mem_cons.1 ht with rfl | ht
    · exact ⟨c, cs, left, Bool.not_eq_true _ ▸ hblank, htoken⟩
    · exact ih hleft ht

lemma token_cases {c : Char} {rest left : List Char} {t : Token} (h : token c rest = .ok (t, left)) :
    (c.isDigit || c == '.' && startsWithDigit rest) = true ∧ number (c :: rest) = .ok (t, left) ∨
      (∃ s, t = .str s) ∨
      (∃ w : Word, t = .name w.name) ∨
      ∃ s, t = .symbol s := by
  unfold token at h
  split at h
  · next hnumber => exact .inl ⟨hnumber, h⟩
  split at h
  · split at h
    · cases h
      exact .inr (.inl ⟨_, rfl⟩)
    · cases h
  split at h
  · next hname =>
    cases h
    have hothers : ∀ d ∈ rest.takeWhile isNamePart, isNamePart d = true := fun d hd =>
      List.mem_takeWhile_imp hd
    exact .inr (.inr (.inl ⟨⟨c, _, hname, hothers⟩, rfl⟩))
  · split at h
    · cases h
      exact .inr (.inr (.inr ⟨_, rfl⟩))
    · cases h

lemma startsWithDigit_takeWhile {p : Char → Bool} (hp : ∀ c, c.isDigit = true → p c = true)
    {cs : List Char} (h : startsWithDigit cs = true) (more : List Char) :
    startsWithDigit (cs.takeWhile p ++ more) = true := by
  cases cs with
  | nil => cases h
  | cons c cs =>
    rw [List.takeWhile_cons_of_pos (hp c h)]
    exact h

lemma exponent_again (cs : List Char) :
    exponent (exponent cs).1 = ((exponent cs).1, []) ∧
      ∀ c ∈ (exponent cs).1.head?, isNumberPart c = false := by
  match cs with
  | [] => exact ⟨rfl, by simp [exponent]⟩
  | [c] => exact ⟨rfl, by simp [exponent]⟩
  | mark :: c :: rest =>
    have hmark (he : (mark == 'e' || mark == 'E') = true) : isNumberPart mark = false := by
      simp only [Bool.or_eq_true, beq_iff_eq] at he
      rcases he with rfl | rfl <;> decide
    obtain ⟨htake, hdrop⟩ := Text.span_takeWhile Char.isDigit rest
    rw [exponent]
    split
    · next he =>
      split
      · next hc =>
        refine ⟨?_, by simpa using hmark he⟩
        rw [List.takeWhile_cons_of_pos hc, exponent, if_pos he, if_pos hc,
          List.takeWhile_cons_of_pos hc, List.dropWhile_cons_of_pos hc, htake, hdrop]
      · next hc =>
        split
        · next hsign =>
          refine ⟨?_, by simpa using hmark he⟩
          obtain ⟨hplus, hdigit⟩ := Bool.and_eq_true_iff.1 hsign
          have hdigit' := startsWithDigit_takeWhile (p := Char.isDigit) (fun _ => id) hdigit []
          rw [List.append_nil] at hdigit'
          rw [exponent, if_pos he, if_neg hc, if_pos (by rw [hplus, hdigit']; rfl), htake, hdrop]
        · exact ⟨rfl, by simp⟩
    · exact ⟨rfl, by simp⟩

lemma exists_figures {c : Char} {rest left : List Char} {t : Token} (hblank : Text.isBlank c = false)
    (hstart : (c.isDigit || c == '.' && startsWithDigit rest) = true)
    (h : number (c :: rest) = .ok (t, left)) :
    ∃ cs x, t = .num x ∧ tokens cs = .ok [.num x] := by
  have hdigit : ∀ d : Char, d.isDigit = true → isNumberPart d = true := fun d hd => by
    rw [isNumberPart, hd, Bool.true_or]
  have hpart : isNumberPart c = true := by
    rcases Bool.or_eq_true_iff.1 hstart with hc | hc
    · exact hdigit c hc
    · rw [isNumberPart, (Bool.and_eq_true_iff.1 hc).1, Bool.or_true]
  obtain ⟨hagain, hhead⟩ := exponent_again (rest.dropWhile isNumberPart)
  unfold number at h
  rw [List.takeWhile_cons_of_pos hpart, List.dropWhile_cons_of_pos hpart] at h
  dsimp only at h
  generalize (exponent (rest.dropWhile isNumberPart)).1 = mark at *
  split at h
  · next x hread =>
    cases h
    obtain ⟨htake, hdrop⟩ := Text.span_append (p := isNumberPart)
      (fun d (hd : d ∈ rest.takeWhile isNumberPart) => List.mem_takeWhile_imp hd) hhead
    have hnumber : number (c :: (rest.takeWhile isNumberPart ++ mark)) = .ok (.num x, []) := by
      unfold number
      rw [List.takeWhile_cons_of_pos hpart, List.dropWhile_cons_of_pos hpart, htake, hdrop, hagain]
      dsimp only
      rw [hread]
    have hstart' : (c.isDigit || c == '.' &&
        startsWithDigit (rest.takeWhile isNumberPart ++ mark)) = true := by
      rcases Bool.or_eq_true_iff.1 hstart with hc | hc
      · rw [hc, Bool.true_or]
      · obtain ⟨hpoint, hrest⟩ := Bool.and_eq_true_iff.1 hc
        rw [hpoint, startsWithDigit_takeWhile hdigit hrest, Bool.and_true, Bool.or_true]
    have htoken : token c (rest.takeWhile isNumberPart ++ mark) = .ok (.num x, []) := by
      rw [token, if_pos hstart', hnumber]
    exact ⟨_, x, rfl, Lexeme.tokens_cons hblank htoken tokens_nil⟩
  · cases h

/-- A token that some text is read as; a name is read from itself. -/
def Token.Readable : Token → Prop
  | .num x => ∃ cs, tokens cs = .ok [.num x]
  | .name n => IsName n
  | .str _ | .symbol _ => True

lemma tokens_spelling (l : Lexeme) : tokens l.spelling = .ok [l.token] :=
  Lexeme.tokens_spaced [l] ▸ by simp [Lexeme.spaced, Text.join]

lemma isName_word (w : Word) : IsName w.name := by
  have hspelling := tokens_spelling (.word w)
  rw [IsName, Word.name, String.toList_ofList]
  exact hspelling

/-- **The tokens of a text are readable by themselves.** -/
theorem readable_of_tokens {cs : List Char} {ts : List Token} (h : tokens cs = .ok ts) :
    ∀ t ∈ ts, t.Readable := by
  intro t ht
  obtain ⟨c, rest, left, hblank, htoken⟩ := exists_token_of_mem h ht
  rcases token_cases htoken with ⟨hstart, hnumber⟩ | ⟨s, rfl⟩ | ⟨w, rfl⟩ | ⟨s, rfl⟩
  · obtain ⟨cs, x, rfl, hcs⟩ := exists_figures hblank hstart hnumber
    exact ⟨cs, hcs⟩
  · trivial
  · exact isName_word w
  · trivial

/-! ### Nodes of derived phrases -/

lemma literal_ofFloat {x : Float} (h : (Token.num x).Readable) :
    Value.Literal (fun n => ∃ cs, Figures cs n) (Value.ofFloat x) := by
  obtain ⟨cs, hcs⟩ := h
  cases hvalue : Value.ofFloat x with
  | null => trivial
  | num n => exact ⟨cs, x, hcs, hvalue⟩
  | _ =>
    unfold Value.ofFloat at hvalue
    split at hvalue
    · cases hvalue
    · split at hvalue <;> cases hvalue

lemma literal_constant {n : String} {v : Value} (h : (n, v) ∈ constants) :
    Value.Literal spelled v := by
  simp only [constants, List.mem_cons, Prod.mk.injEq, List.not_mem_nil, or_false] at h
  rcases h with ⟨-, rfl⟩ | ⟨-, rfl⟩ | ⟨-, rfl⟩ | ⟨-, rfl⟩ <;> trivial

lemma nodes_operator {p : Precedence} {s : Symbol} {make : Term → Term → Term}
    (h : (s, make) ∈ p.operators) (a b : Term) :
    Legible spelled alone none (make a b) ∧ (make a b).inner = a.nodes ++ b.nodes := by
  have hall : ∀ o ∈ p.operators,
      Legible spelled alone none (o.2 a b) ∧ (o.2 a b).inner = a.nodes ++ b.nodes := by
    cases p <;> simp [Precedence.operators, Legible, Term.inner, Term.nodes]
  exact hall _ h

/-- **What the nodes of a derived phrase hold comes out of its tokens.** Only a key that stands
alone is the name of a variable without being one. -/
theorem legible_of_derives {phrase : Phrase} {ts : List Token} (h : Derives phrase ts)
    (hts : ∀ t ∈ ts, t.Readable) :
    ∀ o ∈ phrase.nodes, Legible (fun n => ∃ cs, Figures cs n) true o.1 o.2 := by
  induction h with
  | next hq h ih => exact ih hts
  | conditional htest hconsequent halternate ih1 ih2 ih3 =>
    obtain ⟨htest, hrest⟩ := List.forall_mem_append.1 hts
    obtain ⟨hconsequent, hrest⟩ := List.forall_mem_append.1 (List.forall_mem_cons.1 hrest).2
    have halternate := (List.forall_mem_cons.1 hrest).2
    have hbranches := List.forall_mem_append.2 ⟨ih2 hconsequent, ih3 halternate⟩
    exact List.forall_mem_cons.2 ⟨trivial, List.forall_mem_append.2 ⟨ih1 htest, hbranches⟩⟩
  | operator hs hq ha hb ih1 ih2 =>
    obtain ⟨hleft, hright⟩ := List.forall_mem_append.1 hts
    obtain ⟨hroot, hinner⟩ := nodes_operator hs _ _
    rw [Phrase.nodes, Term.nodes, hinner]
    exact List.forall_mem_cons.2 ⟨hroot, List.forall_mem_append.2
      ⟨ih1 hleft, ih2 (List.forall_mem_cons.1 hright).2⟩⟩
  | sign hs h ih => exact List.forall_mem_cons.2 ⟨trivial, ih (List.forall_mem_cons.1 hts).2⟩
  | member n lenient ho ih =>
    obtain ⟨ho, hproperty⟩ := List.forall_mem_append.1 hts
    exact List.forall_mem_cons.2 ⟨hproperty (.name n) (by simp), ih ho⟩
  | call n lenient ho hargs ih1 ih2 =>
    obtain ⟨ho, hcall⟩ := List.forall_mem_append.1 hts
    have hargs := ih2 fun t ht => hcall t (by simp [ht])
    exact List.forall_mem_cons.2
      ⟨hcall (.name n) (by simp), List.forall_mem_append.2 ⟨ih1 ho, hargs⟩⟩
  | index lenient ho hkey ih1 ih2 =>
    obtain ⟨ho, hcorner⟩ := List.forall_mem_append.1 hts
    have hkey := ih2 fun t ht => hcorner t (by simp [ht])
    exact List.forall_mem_cons.2 ⟨trivial, List.forall_mem_append.2 ⟨ih1 ho, hkey⟩⟩
  | num x => exact List.forall_mem_cons.2 ⟨literal_ofFloat (hts _ (by simp)), List.forall_mem_nil _⟩
  | str s => exact List.forall_mem_cons.2 ⟨trivial, List.forall_mem_nil _⟩
  | constant h => exact List.forall_mem_cons.2 ⟨literal_constant h, List.forall_mem_nil _⟩
  | named h =>
    exact List.forall_mem_cons.2 ⟨.inl ⟨hts (.name _) (by simp), h⟩, List.forall_mem_nil _⟩
  | paren h ih => exact ih fun t ht => hts t (by simp [ht])
  | array h ih => exact List.forall_mem_cons.2 ⟨trivial, ih fun t ht => hts t (by simp [ht])⟩
  | object h ih => exact List.forall_mem_cons.2 ⟨trivial, ih fun t ht => hts t (by simp [ht])⟩
  | noTerms => exact List.forall_mem_nil _
  | lastTerm h ih =>
    have hlast := List.forall_mem_append.2 ⟨ih hts, List.forall_mem_nil _⟩
    exact hlast
  | moreTerms h hothers ih1 ih2 =>
    obtain ⟨hfirst, hrest⟩ := List.forall_mem_append.1 hts
    have hmore := List.forall_mem_append.2 ⟨ih1 hfirst, ih2 (List.forall_mem_cons.1 hrest).2⟩
    exact hmore
  | keyed hkey h ih =>
    obtain ⟨hroot, hinner⟩ := List.forall_mem_cons.1 (ih fun t ht => hts t (by simp [ht]))
    exact List.forall_mem_cons.2 ⟨legible_keyed hroot _, hinner⟩
  | short hkey => exact List.forall_mem_cons.2 ⟨.inr ⟨rfl, rfl⟩, List.forall_mem_nil _⟩
  | noEntries => exact List.forall_mem_nil _
  | lastEntry h ih =>
    have hlast := List.forall_mem_append.2 ⟨ih hts, List.forall_mem_nil _⟩
    exact hlast
  | moreEntries h hothers ih1 ih2 =>
    obtain ⟨hfirst, hrest⟩ := List.forall_mem_append.1 hts
    have hmore := List.forall_mem_append.2 ⟨ih1 hfirst, ih2 (List.forall_mem_cons.1 hrest).2⟩
    exact hmore

/-- The nodes of a tree that is read from a text are legible. -/
theorem legible_of_ofSource {source : List Char} {term : Term}
    (h : Term.ofSource source = .ok term) :
    ∀ o ∈ term.nodes, Legible (fun n => ∃ cs, Figures cs n) true o.1 o.2 := by
  obtain ⟨ts, hts, hderives⟩ := ofSource_eq_ok_iff.1 h
  exact legible_of_derives hderives (readable_of_tokens hts)

end Pressroom.Expr
