import Pressroom.Markup.Node
import Pressroom.Proofs.Markup.Heads
import Pressroom.Proofs.Markup.Spans

/-!
Reading a written template back. A directive that is written down is read as that directive with its
written bodies, which end at their own markers because markers are found at markers. The bodies are
read in the same way, so that the tree of a written template is the tree that was written.
-/

namespace Pressroom.Markup

open Text

/-! ### Loops and conditionals -/

/-- The branches of a chain, as they are read. -/
def Chain.branches : Chain → List Branch
  | .elseIf condition body chain => ⟨condition, write body⟩ :: chain.branches
  | _ => []

/-- The last body of a chain, if no condition guards it. -/
def Chain.last? : Chain → Option (List Char)
  | .done => none
  | .otherwise body => some (write body)
  | .elseIf _ _ chain => chain.last?

section

variable {d : Dialect} {id : List Char}

lemma strip?_marker {part : Part}
    (hpart : part = .loopEnd ∨ part = .conditionalEnd ∨ part = .otherwise) (rest : List Char) :
    (d.seek part id).strip? ((Token.marker d part id []).spelling ++ rest) = some rest := by
  rw [Token.spelling, List.append_nil, List.append_assoc, Dialect.seek, Marker.strip?_text,
    stripFolded?_self, Option.bind_some]
  rcases hpart with rfl | rfl | rfl <;> cases d <;> rfl

lemma cut?_end {part : Part} (hpart : part = .loopEnd ∨ part = .conditionalEnd) (hid : IsId id)
    {ts : List Token} (htame : ∀ x ∈ ts, x.Tame)
    (hapart : Apart (ts ++ [.marker d part id []]))
    (hne : ∀ carried, .marker d part id carried ∉ ts)
    (hstray : ¬ Stray d part id (ts ++ [.marker d part id []])) :
    (d.seek part id).cut? (spell (ts ++ [.marker d part id []])) = some (spell ts, []) := by
  have hmarker : (Token.marker d part id []).Tame := tame_marker hid inert_nil rfl
  have hsilent : (d.seek part id).Silent (spell ts) (spell [.marker d part id []]) := by
    refine silent_tokens ?_ hid ?_ hapart ?_ hne hstray
    · rcases hpart with rfl | rfl <;> simp
    · exact List.forall_mem_append.2 ⟨htame, List.forall_mem_singleton.2 hmarker⟩
    · rintro x ⟨⟩
      exact ⟨_, _, _, _, rfl⟩
  have hstrip : (d.seek part id).strip? (spell [.marker d part id []]) = some [] :=
    strip?_marker (hpart.imp_right .inl) []
  refine Marker.cut?_eq_some_iff.2 ⟨spell [.marker d part id []], spell_append _ _, ?_, ?_, hsilent⟩
  · cases d <;> rcases hpart with rfl | rfl <;> exact List.cons_ne_nil _ _
  · exact hstrip

lemma marked_chain (chain : Chain) : Marked (chain.tokens d id) := by
  cases chain with
  | done => exact nofun
  | otherwise body =>
    rintro x ⟨⟩
    exact ⟨_, _, _, _, rfl⟩
  | elseIf condition body chain =>
    rintro x ⟨⟩
    exact ⟨_, _, _, _, rfl⟩

lemma quiet_tokens (hid : IsId id) {ts rest : List Token} (htame : ∀ x ∈ ts ++ rest, x.Tame)
    (hapart : Apart (ts ++ rest)) (hrest : Marked rest)
    (hne : ∀ part carried, part.kind? = some .conditional → .marker d part id carried ∉ ts)
    (hguarded : Guarded d id ts rest) : Quiet d id (spell ts) (spell rest) := by
  refine ⟨misses_elseIf hid htame hapart hrest (fun carried => hne _ carried rfl) hguarded.2, ?_⟩
  rw [elseMarker_eq]
  exact silent_tokens (by simp) hid htame hapart hrest (fun carried => hne _ carried rfl) hguarded.1

/-- **Branches are read back.** The chain of a conditional is read as the branches it was written
from. -/
theorem branches_readback (hid : IsId id) {chain : Chain} {body : List Draft}
    (condition : List Char) (hbody : Sound body) (hchain : chain.Sound d)
    (hapart : Apart (tokens body ++ chain.tokens d id))
    (hblocks : (.conditional, d, id) ∉ blocks body ++ chain.blocks)
    (hguarded : Guarded d id (tokens body) (chain.tokens d id)) (hclear : chain.Clear d id) :
    branches d id condition [] (spell (tokens body ++ chain.tokens d id)) =
      (⟨condition, write body⟩ :: chain.branches, chain.last?) := by
  rw [List.mem_append, not_or] at hblocks
  have hquiet : Quiet d id (spell (tokens body)) (spell (chain.tokens d id)) :=
    quiet_tokens hid (List.forall_mem_append.2 ⟨tame_of_sound hbody, chain.tame hid hchain⟩) hapart
      (marked_chain chain)
      (fun part carried hk hmem => hblocks.1 (mem_blocks_of_mem_tokens hk hmem))
      hguarded
  rw [spell_append, branches_append hquiet, List.append_nil]
  match chain with
  | .done =>
    rw [Chain.tokens, spell_nil, branches, List.reverse_reverse]
    rfl
  | .otherwise last =>
    have hstrip : (d.elseMarker id).strip?
        (spell ((Chain.otherwise last).tokens d id)) = some (write last) := by
      rw [elseMarker_eq, Chain.tokens, spell_cons]
      exact strip?_marker (.inr (.inr rfl)) _
    have hnone : elseIf? d id (spell ((Chain.otherwise last).tokens d id)) = none := by
      rw [elseIf?, elseIfOpen_of_else hid hstrip]
      rfl
    rw [branches_of_else hnone hstrip, List.reverse_reverse]
    rfl
  | .elseIf next last chain =>
    obtain ⟨hnext, hlast, hchain⟩ := hchain
    obtain ⟨hguarded, -, hclear⟩ := hclear
    have hinner : Apart (tokens last ++ chain.tokens d id) :=
      hapart.right_of_append.of_cons
    have hread := elseIf?_opener id hnext (spell (tokens last ++ chain.tokens d id))
    have hrest := branches_readback hid next hlast hchain hinner hblocks.2 hguarded
      hclear
    rw [Chain.tokens, spell_cons, branches_of_elseIf? hread, hrest, List.reverse_reverse]
    rfl

lemma loop?_readback {element array : List Char} {index : Option (List Char)} {body : List Draft}
    (hsound : (Draft.loop d id element index array body).Sound)
    (hclear : (Draft.loop d id element index array body).Clear)
    (hapart : Apart (Draft.loop d id element index array body).tokens) :
    loop? d (spell (Draft.loop d id element index array body).tokens) =
      some (.loop (String.ofList element) (index.map String.ofList) array (write body), []) := by
  obtain ⟨hid, helement, hindex, harray, hblocks, hbody⟩ := hsound
  have hend : (d.loopEnd id).cut? (spell (tokens body ++ [.marker d .loopEnd id []])) =
      some (write body, []) := by
    rw [loopEnd_eq]
    exact cut?_end (.inl rfl) hid (tame_of_sound hbody) hapart.of_cons
      (fun carried hmem => hblocks (mem_blocks_of_mem_tokens rfl hmem)) hclear.1
  obtain ⟨r, hhead, harray⟩ := loopHead?_opener hid helement hindex harray
    (spell (tokens body ++ [.marker d .loopEnd id []]))
  rw [Draft.tokens, spell_cons, loop?, hhead]
  simp only [Option.bind_eq_bind, Option.bind_some, harray, hend]
  rfl

lemma conditional?_readback {condition : List Char} {body : List Draft} {chain : Chain}
    (hsound : (Draft.conditional d id condition body chain).Sound)
    (hclear : (Draft.conditional d id condition body chain).Clear)
    (hapart : Apart (Draft.conditional d id condition body chain).tokens) :
    conditional? d (spell (Draft.conditional d id condition body chain).tokens) =
      some (.conditional (⟨condition, write body⟩ :: chain.branches) chain.last?, []) := by
  obtain ⟨hid, hcondition, hblocks, hbody, hchain⟩ := hsound
  obtain ⟨hstray, hguarded, -, hclear⟩ := hclear
  have hne (carried : List Char) :
      .marker d .conditionalEnd id carried ∉ tokens body ++ chain.tokens d id := by
    intro hmem
    rw [List.mem_append, not_or] at hblocks
    rcases List.mem_append.1 hmem with hmem | hmem
    · exact hblocks.1 (mem_blocks_of_mem_tokens rfl hmem)
    · exact hblocks.2 (chain.mem_blocks_of_end hmem)
  have hend : (d.ifEnd id).cut?
      (spell (tokens body ++ chain.tokens d id ++ [.marker d .conditionalEnd id []])) =
        some (spell (tokens body ++ chain.tokens d id), []) := by
    rw [ifEnd_eq]
    exact cut?_end (.inr rfl) hid
      (List.forall_mem_append.2 ⟨tame_of_sound hbody, chain.tame hid hchain⟩) hapart.of_cons hne
      hstray
  have hbranches := branches_readback hid condition hbody hchain
    hapart.of_cons.left_of_append hblocks hguarded hclear
  obtain ⟨r, hhead, hcondition⟩ := ifHead?_opener hid hcondition
    (spell (tokens body ++ chain.tokens d id ++ [.marker d .conditionalEnd id []]))
  rw [Draft.tokens, spell_cons, conditional?, hhead]
  simp only [Option.bind_eq_bind, Option.bind_some, hcondition, hend, hbranches]
  rfl

end

/-! ### Templates -/

/-- A draft as it is read. Empty text is not there. -/
def Draft.directives : Draft → List Directive
  | .text t => if t = [] then [] else [.text t]
  | .expression e => [.expression e]
  | .style _ selector spread => [.style selector spread]
  | .inclusion _ e => [.inclusion e]
  | .loop _ _ element index array body =>
    [.loop (String.ofList element) (index.map String.ofList) array (write body)]
  | .conditional _ _ condition body chain =>
    [.conditional (⟨condition, write body⟩ :: chain.branches) chain.last?]

lemma directive?_of_read (d : Dialect) (kind : Kind) {cs : List Char} {directive : Directive}
    (h : kind.read d cs = some (directive, [])) : directive? cs = some (directive, []) :=
  directive?_eq_some_iff.2 (.inl ⟨d, dialect?_eq_some_iff.2 ⟨kind, h⟩⟩)

/-- **A directive that is written down is read as that directive**, whatever stands behind it. -/
theorem directive?_readback {x : Draft} (hsound : x.Sound) (hclear : x.Clear)
    (hapart : Apart x.tokens) (hx : ∀ t, x ≠ .text t) (rest : List Char) :
    ∃ directive, x.directives = [directive] ∧
      directive? (spell x.tokens ++ rest) = some (directive, rest) := by
  obtain ⟨directive, hdirective, hread⟩ : ∃ directive, x.directives = [directive] ∧
      directive? (spell x.tokens) = some (directive, []) := by
    cases x with
    | text t => exact absurd rfl (hx t)
    | expression e =>
      refine ⟨_, rfl, ?_⟩
      rw [Draft.tokens, spell_cons, spell_nil, List.append_nil]
      exact expression_readback hsound.1 hsound.2
    | style d selector spread =>
      refine ⟨_, rfl, directive?_of_read d .style ?_⟩
      rw [Draft.tokens, spell_cons, spell_nil, List.append_nil]
      exact style?_readback hsound spread
    | inclusion d e =>
      refine ⟨_, rfl, directive?_of_read d .inclusion ?_⟩
      rw [Draft.tokens, spell_cons, spell_nil, List.append_nil]
      exact inclusion?_readback hsound.1 hsound.2
    | loop d id element index array body =>
      exact ⟨_, rfl, directive?_of_read d .loop (loop?_readback hsound hclear hapart)⟩
    | conditional d id condition body chain =>
      exact ⟨_, rfl, directive?_of_read d .conditional
        (conditional?_readback hsound hclear hapart)⟩
  exact ⟨directive, hdirective, (local_directive?.append_iff (.inl rfl)).2 hread⟩

lemma Literal.misses_directive {t : List Char} (ht : Literal t) {rest : List Char}
    (hrest : ∀ z ∈ rest.head?, isHead z = true) : Misses directive? t rest := by
  intro s hs hne
  have hopener := (ht.misses_opener hrest).1 s hs hne
  obtain ⟨c, s, rfl⟩ := List.exists_cons_of_ne_nil hne
  have hc : c ∈ t := hs.subset (by simp)
  cases h : directive? (c :: s ++ rest) with
  | none => rfl
  | some x =>
    exfalso
    rcases directive?_eq_some_iff.1 h with ⟨d, hd⟩ | ⟨tail, source, hcs, -⟩
    · cases d with
      | bracket =>
        obtain ⟨tail, hcs⟩ := starts_of_dialect? hd
        exact ht.percent ((List.cons.inj hcs).1 ▸ hc)
      | tag =>
        obtain ⟨a, tail, hcs, ha⟩ := starts_of_dialect? hd
        rw [hcs] at hopener
        rcases ha with rfl | rfl <;> exact absurd hopener nofun
    · exact ht.brace ((List.cons.inj hcs).1 ▸ hc)

lemma directives_append {t rest : List Char} (h : Misses directive? t rest) :
    directives (t ++ rest) = t.foldr prepend (directives rest) := by
  induction t with
  | nil => rfl
  | cons c t ih =>
    obtain ⟨hnone, h⟩ := misses_cons.1 h
    rw [List.cons_append] at hnone ⊢
    rw [directives_of_none hnone, ih h]
    rfl

lemma ne_text_of_apart {t : List Char} {xs : List Draft} (hapart : Apart (.text t :: tokens xs)) :
    ∀ directive ∈ (xs.flatMap Draft.directives).head?, ∀ s, directive ≠ .text s := by
  cases xs with
  | nil => simp
  | cons x xs =>
    cases x with
    | text s => exact absurd ⟨trivial, trivial⟩ (List.isChain_cons_cons.1 hapart).1
    | _ => simp [Draft.directives]

/-- **The directives of a written template are those that were written.** -/
theorem directives_write {xs : List Draft} (hsound : Sound xs) (hclear : Clear xs)
    (hapart : Apart (tokens xs)) : directives (write xs) = xs.flatMap Draft.directives := by
  induction xs with
  | nil => rw [write, tokens, spell_nil, directives]; rfl
  | cons x xs ih =>
    have hwrite : write (x :: xs) = spell x.tokens ++ write xs := by
      rw [write, tokens, spell_append]
      rfl
    have ih := ih hsound.2 hclear.2 hapart.right_of_append
    rw [hwrite, List.flatMap_cons]
    by_cases hx : ∃ t, x = .text t
    · obtain ⟨t, rfl⟩ := hx
      have hapart : Apart (.text t :: tokens xs) := hapart
      have hmisses := hsound.1.misses_directive (isHead_of_apart hapart)
      rw [Draft.tokens, spell_cons, spell_nil, List.append_nil, Token.spelling, write,
        directives_append hmisses]
      have ih : directives (spell (tokens xs)) = xs.flatMap Draft.directives := ih
      by_cases ht : t = []
      · subst ht
        simpa [Draft.directives] using ih
      · rw [ih, foldr_prepend ht (ne_text_of_apart hapart), Draft.directives, if_neg ht]
        rfl
    · obtain ⟨directive, hdirective, hread⟩ := directive?_readback hsound.1 hclear.1
        hapart.left_of_append (not_exists.1 hx) (write xs)
      rw [directives_of_directive? hread, ih, hdirective]
      rfl

/-! ### Trees -/

mutual

def Draft.trees : Draft → List Node
  | .text t => if t = [] then [] else [.text t]
  | .expression e => [.expression e]
  | .style _ selector spread => [.style selector spread]
  | .inclusion _ e => [.inclusion e]
  | .loop _ _ element index array body =>
    [.loop (String.ofList element) (index.map String.ofList) array (trees body)]
  | .conditional _ _ condition body chain =>
    [.conditional ((condition, trees body) :: chain.branchTrees) chain.lastTree?]

def Chain.branchTrees : Chain → List (List Char × List Node)
  | .elseIf condition body chain => (condition, trees body) :: chain.branchTrees
  | _ => []

/-- The tree of the last body of a chain, if no condition guards it. -/
def Chain.lastTree? : Chain → Option (List Node)
  | .done => none
  | .otherwise body => some (trees body)
  | .elseIf _ _ chain => chain.lastTree?

def trees : List Draft → List Node
  | [] => []
  | x :: xs => x.trees ++ trees xs

end

lemma ofMarkup_of_map {xs : List Draft} (hsound : Sound xs) (hclear : Clear xs)
    (hapart : Apart (tokens xs))
    (h : (xs.flatMap Draft.directives).map Node.ofDirective = trees xs) :
    Node.ofMarkup (write xs) = trees xs := by
  rw [Node.ofMarkup_eq, directives_write hsound hclear hapart, h]

mutual

lemma Draft.map_ofDirective {x : Draft} (hsound : x.Sound) (hclear : x.Clear)
    (hapart : Apart x.tokens) : x.directives.map Node.ofDirective = x.trees := by
  cases x with
  | text t =>
    by_cases ht : t = []
    · simp [Draft.directives, Draft.trees, ht]
    · simp [Draft.directives, Draft.trees, ht, Node.ofDirective]
  | expression e => rfl
  | style d selector spread => rfl
  | inclusion d e => rfl
  | loop d id element index array body =>
    obtain ⟨-, -, -, -, -, hsound⟩ := hsound
    have hapart : Apart (tokens body) := hapart.of_cons.left_of_append
    have hbody := ofMarkup_of_map hsound hclear.2 hapart (map_ofDirective hsound hclear.2 hapart)
    simp only [Draft.directives, Draft.trees, List.map_cons, List.map_nil, Node.ofDirective, hbody]
  | conditional d id condition body chain =>
    obtain ⟨-, -, -, hsound, hchain⟩ := hsound
    obtain ⟨-, -, hclear, hchainClear⟩ := hclear
    have hinner : Apart (tokens body ++ chain.tokens d id) :=
      hapart.of_cons.left_of_append
    have hapart : Apart (tokens body) := hinner.left_of_append
    have hbody := ofMarkup_of_map hsound hclear hapart (map_ofDirective hsound hclear hapart)
    obtain ⟨hbranches, hlast⟩ := chain.map_ofMarkup hchain hchainClear
      hinner.right_of_append
    simp only [Draft.directives, Draft.trees, List.map_cons, List.map_nil, Node.ofDirective, hbody,
      hbranches, hlast]

lemma Chain.map_ofMarkup {d : Dialect} {id : List Char} {chain : Chain} (hsound : chain.Sound d)
    (hclear : chain.Clear d id) (hapart : Apart (chain.tokens d id)) :
    chain.branches.map (fun b => (b.condition, Node.ofMarkup b.body)) = chain.branchTrees ∧
      chain.last?.map Node.ofMarkup = chain.lastTree? := by
  cases chain with
  | done => exact ⟨rfl, rfl⟩
  | otherwise body =>
    have hbody := ofMarkup_of_map hsound hclear hapart.of_cons
      (map_ofDirective hsound hclear hapart.of_cons)
    exact ⟨rfl, congrArg some hbody⟩
  | elseIf condition body chain =>
    obtain ⟨-, hsound, hchain⟩ := hsound
    obtain ⟨-, hclear, hchainClear⟩ := hclear
    have hinner : Apart (tokens body ++ chain.tokens d id) := hapart.of_cons
    have hapart : Apart (tokens body) := hinner.left_of_append
    have hbody := ofMarkup_of_map hsound hclear hapart (map_ofDirective hsound hclear hapart)
    obtain ⟨hbranches, hlast⟩ := chain.map_ofMarkup hchain hchainClear
      hinner.right_of_append
    refine ⟨?_, hlast⟩
    rw [Chain.branches, List.map_cons, hbody, hbranches]
    rfl

lemma map_ofDirective {xs : List Draft} (hsound : Sound xs) (hclear : Clear xs)
    (hapart : Apart (tokens xs)) :
    (xs.flatMap Draft.directives).map Node.ofDirective = trees xs := by
  cases xs with
  | nil => rfl
  | cons x xs =>
    rw [List.flatMap_cons, List.map_append,
      x.map_ofDirective hsound.1 hclear.1 hapart.left_of_append,
      map_ofDirective hsound.2 hclear.2 hapart.right_of_append]
    rfl

end

/-- **The tree of a written template is the tree that was written.** -/
theorem ofMarkup_write {xs : List Draft} (h : WellFormed xs) (hclear : Clear xs) :
    Node.ofMarkup (write xs) = trees xs :=
  ofMarkup_of_map h.sound hclear h.apart (map_ofDirective h.sound hclear h.apart)

end Pressroom.Markup
