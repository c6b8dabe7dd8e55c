import Pressroom.Proofs.Markup.Written

/-!
What sound drafts are made of. Their tokens are tame, so that markers are found in them at markers
only, and each marker among them belongs to a loop or a conditional of the draft, so that a
directive whose id is not used again inside it has its markers to itself.
-/

namespace Pressroom.Markup

/-! ### Tokens are tame -/

lemma not_mem_of_isName {name : List Char} (h : IsName name) {x : Char}
    (hstart : isVariableStart x = false) (hpart : isVariablePart x = false) : x ∉ name := by
  obtain ⟨c, tail, -, hc, rfl, -⟩ := loopVariable?_eq_some_iff.1 h
  intro hx
  rcases List.mem_cons.1 hx with rfl | hx
  · simp [hc] at hstart
  · simp [List.mem_takeWhile_imp hx] at hpart

lemma IsName.inert {name : List Char} (h : IsName name) : Inert name :=
  inert_of_not_mem (not_mem_of_isName h rfl rfl)
    (not_mem_of_isName h rfl rfl)

lemma inert_carry {d : Dialect} {close : Marker} {e : List Char} (h : Embedded close e)
    {name : String} (hname : Inert name.toList) : Inert (d.carry name e) := by
  have hstart : Inert (d.carryStart name) := by
    cases d with
    | bracket => exact inert_of_all (p := ['{']) rfl
    | tag =>
      have hblank : Inert [' '] := inert_of_all rfl
      have hquote : Inert ['=', '"'] := inert_of_all rfl
      exact hblank.append (hname.append hquote)
  rw [Dialect.carry_eq]
  exact hstart.append (h.inert (by cases d <;> rfl))

lemma inert_condition : Inert "condition".toList :=
  inert_of_all rfl

lemma inert_array : Inert "array".toList :=
  inert_of_all rfl

lemma inert_carryNames {element : List Char} {index : Option (List Char)} (he : IsName element)
    (hi : ∀ name ∈ index, IsName name) : Inert (carryNames element index) := by
  have hopen : Inert ['['] := inert_of_all rfl
  have hclose : Inert [']'] := inert_of_all rfl
  have hcomma : Inert [','] := inert_of_all rfl
  cases index with
  | none => exact (hopen.append he.inert).append hclose
  | some index =>
    have heq : carryNames element (some index) =
        ['['] ++ element ++ ([','] ++ index ++ [']']) := by
      simp [carryNames]
    rw [heq]
    exact (hopen.append he.inert).append ((hcomma.append (hi index rfl).inert).append hclose)

lemma inert_carryParams {close : Marker} {selector : Option (List Char)}
    (h : ∀ s ∈ selector, Embedded close s) (spread : Bool) :
    Inert (carryParams selector spread) := by
  have hopen : Inert ['['] := inert_of_all rfl
  have hflag (spread : Bool) : Inert ((if spread then "true" else "false").toList ++ [']']) := by
    cases spread <;> exact inert_of_all rfl
  cases selector with
  | none =>
    cases spread <;> exact inert_of_all rfl
  | some s =>
    have heq : carryParams (some s) spread =
        ['['] ++ ((s ++ [',']) ++ ((if spread then "true" else "false").toList ++ [']'])) := by
      simp [carryParams, params]
    rw [heq]
    exact hopen.append (((h s rfl).inert rfl).append (hflag spread))

lemma tame_marker {d : Dialect} {part : Part} {id carried : List Char} (hid : IsId id)
    (h : Inert carried) (hhead : carried.head?.any isIdLike = false) :
    (Token.marker d part id carried).Tame := by
  refine ⟨hid, h, ?_⟩
  cases carried with
  | nil => cases d <;> cases part <;> decide
  | cons c carried =>
    rintro x ⟨⟩
    exact hhead

lemma inert_nil : Inert [] :=
  inert_of_all rfl

mutual

lemma Draft.tame {x : Draft} (h : x.Sound) : ∀ t ∈ x.tokens, t.Tame := by
  cases x with
  | text t => exact List.forall_mem_singleton.2 h
  | expression e => exact List.forall_mem_singleton.2 (h.1.inert rfl)
  | style d selector spread =>
    refine List.forall_mem_singleton.2 (tame_marker isId_nil ?_ ?_)
    · exact inert_carryParams (fun s hs => (h s hs).1) spread
    · cases selector <;> cases spread <;> rfl
  | inclusion d source =>
    refine List.forall_mem_singleton.2 (tame_marker isId_nil ?_ rfl)
    exact (inert_of_all (p := ['[']) rfl).append (h.1.inert rfl)
  | loop d id element index array body =>
    obtain ⟨hid, helement, hindex, harray, -, hbody⟩ := h
    refine List.forall_mem_cons.2 ⟨tame_marker hid ?_ ?_, List.forall_mem_append.2
      ⟨tame_of_sound hbody, List.forall_mem_singleton.2 (tame_marker hid inert_nil rfl)⟩⟩
    · exact (inert_carryNames helement hindex).append (inert_carry harray inert_array)
    · cases index <;> rfl
  | conditional d id condition body chain =>
    obtain ⟨hid, hcondition, -, hbody, hchain⟩ := h
    refine List.forall_mem_cons.2 ⟨tame_marker hid (inert_carry hcondition inert_condition) ?_,
      List.forall_mem_append.2 ⟨List.forall_mem_append.2
        ⟨tame_of_sound hbody, chain.tame hid hchain⟩,
        List.forall_mem_singleton.2 (tame_marker hid inert_nil rfl)⟩⟩
    cases d <;> rfl

lemma Chain.tame {d : Dialect} {id : List Char} (hid : IsId id) {chain : Chain}
    (h : chain.Sound d) : ∀ t ∈ chain.tokens d id, t.Tame := by
  cases chain with
  | done => exact fun t ht => absurd ht List.not_mem_nil
  | otherwise body =>
    exact List.forall_mem_cons.2 ⟨tame_marker hid inert_nil rfl, tame_of_sound h⟩
  | elseIf condition body chain =>
    obtain ⟨hcondition, hbody, hchain⟩ := h
    refine List.forall_mem_cons.2 ⟨tame_marker hid (inert_carry hcondition inert_condition) ?_,
      List.forall_mem_append.2 ⟨tame_of_sound hbody, chain.tame hid hchain⟩⟩
    cases d <;> rfl

lemma tame_of_sound {xs : List Draft} (h : Sound xs) : ∀ t ∈ tokens xs, t.Tame := by
  cases xs with
  | nil => simp [tokens]
  | cons x xs => exact List.forall_mem_append.2 ⟨x.tame h.1, tame_of_sound h.2⟩

end

/-! ### Markers belong to loops and conditionals -/

/-- The directives that a marker belongs to, if they have bodies. -/
def Part.kind? : Part → Option Kind
  | loop | loopEnd => some .loop
  | conditional | elseIf | otherwise | conditionalEnd => some .conditional
  | style | inclusion => none

section

variable {part : Part} {kind : Kind} {d : Dialect} {id carried : List Char}

mutual

lemma Draft.mem_blocks (hk : part.kind? = some kind) {x : Draft}
    (h : .marker d part id carried ∈ x.tokens) : (kind, d, id) ∈ x.blocks := by
  cases x with
  | text t => simp [Draft.tokens] at h
  | expression e => simp [Draft.tokens] at h
  | style d' selector spread =>
    simp only [Draft.tokens, List.mem_singleton, Token.marker.injEq] at h
    obtain ⟨-, rfl, -⟩ := h
    simp [Part.kind?] at hk
  | inclusion d' source =>
    simp only [Draft.tokens, List.mem_singleton, Token.marker.injEq] at h
    obtain ⟨-, rfl, -⟩ := h
    simp [Part.kind?] at hk
  | loop d' id' element index array body =>
    simp only [Draft.tokens, List.mem_cons, List.mem_append, Token.marker.injEq,
      List.not_mem_nil, or_false] at h
    rw [Draft.blocks, List.mem_cons]
    rcases h with ⟨rfl, rfl, rfl, -⟩ | h | ⟨rfl, rfl, rfl, -⟩
    · exact .inl (by rw [← Option.some.inj hk])
    · exact .inr (mem_blocks_of_mem_tokens hk h)
    · exact .inl (by rw [← Option.some.inj hk])
  | conditional d' id' condition body chain =>
    simp only [Draft.tokens, List.mem_cons, List.mem_append, Token.marker.injEq,
      List.not_mem_nil, or_false] at h
    rw [Draft.blocks, List.mem_cons, List.mem_append]
    rcases h with ⟨rfl, rfl, rfl, -⟩ | (h | h) | ⟨rfl, rfl, rfl, -⟩
    · exact .inl (by rw [← Option.some.inj hk])
    · exact .inr (.inl (mem_blocks_of_mem_tokens hk h))
    · exact (chain.mem_blocks hk h).imp_right .inr
    · exact .inl (by rw [← Option.some.inj hk])

lemma Chain.mem_blocks (hk : part.kind? = some kind) {chain : Chain} {d' : Dialect}
    {id' : List Char} (h : .marker d part id carried ∈ chain.tokens d' id') :
    (kind, d, id) = (.conditional, d', id') ∨ (kind, d, id) ∈ chain.blocks := by
  cases chain with
  | done => simp [Chain.tokens] at h
  | otherwise body =>
    simp only [Chain.tokens, List.mem_cons, Token.marker.injEq] at h
    rcases h with ⟨rfl, rfl, rfl, -⟩ | h
    · exact .inl (by rw [← Option.some.inj hk])
    · exact .inr (mem_blocks_of_mem_tokens hk h)
  | elseIf condition body chain =>
    simp only [Chain.tokens, List.mem_cons, List.mem_append, Token.marker.injEq] at h
    rw [Chain.blocks, List.mem_append]
    rcases h with ⟨rfl, rfl, rfl, -⟩ | h | h
    · exact .inl (by rw [← Option.some.inj hk])
    · exact .inr (.inl (mem_blocks_of_mem_tokens hk h))
    · exact (chain.mem_blocks hk h).imp_right .inr

lemma mem_blocks_of_mem_tokens (hk : part.kind? = some kind) {xs : List Draft}
    (h : .marker d part id carried ∈ tokens xs) : (kind, d, id) ∈ blocks xs := by
  cases xs with
  | nil => simp [tokens] at h
  | cons x xs =>
    rw [tokens, List.mem_append] at h
    rw [blocks, List.mem_append]
    rcases h with h | h
    · exact .inl (x.mem_blocks hk h)
    · exact .inr (mem_blocks_of_mem_tokens hk h)

end

lemma Chain.mem_blocks_of_end {chain : Chain} {d' : Dialect} {id' : List Char}
    (h : .marker d .conditionalEnd id carried ∈ chain.tokens d' id') :
    (.conditional, d, id) ∈ chain.blocks := by
  match chain with
  | .done => simp [Chain.tokens] at h
  | .otherwise body =>
    simp only [Chain.tokens, List.mem_cons, Token.marker.injEq, reduceCtorEq, false_and, and_false,
      false_or] at h
    exact mem_blocks_of_mem_tokens rfl h
  | .elseIf condition body chain =>
    simp only [Chain.tokens, List.mem_cons, List.mem_append, Token.marker.injEq, reduceCtorEq,
      false_and, and_false, false_or] at h
    rw [Chain.blocks, List.mem_append]
    exact h.imp (mem_blocks_of_mem_tokens rfl) chain.mem_blocks_of_end

end

end Pressroom.Markup
