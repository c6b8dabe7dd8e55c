import Pressroom.Proofs.Markup.Spans

/-!
What directives take over from their source. The texts that a directive keeps stand in its source
one after the other, in the order in which they are named, and do not overlap.
-/

namespace Pressroom.Markup

open Text

/-- The texts stand in a text in their order and without overlap. -/
def Threaded : List (List Char) → List Char → Prop
  | [], _ => True
  | p :: ps, cs => ∃ gap rest, cs = gap ++ p ++ rest ∧ Threaded ps rest

@[simp] lemma threaded_nil (cs : List Char) : Threaded [] cs := trivial

lemma Threaded.gap {ps : List (List Char)} {cs : List Char} (h : Threaded ps cs)
    (gap : List Char) : Threaded ps (gap ++ cs) := by
  cases ps with
  | nil => trivial
  | cons p ps =>
    obtain ⟨g, rest, rfl, h⟩ := h
    exact ⟨gap ++ g, rest, by simp, h⟩

lemma Threaded.cons {ps : List (List Char)} {rest : List Char} (h : Threaded ps rest)
    (p : List Char) : Threaded (p :: ps) (p ++ rest) :=
  ⟨[], rest, rfl, h⟩

lemma Threaded.append {ps qs : List (List Char)} {a b : List Char} (hp : Threaded ps a)
    (hq : Threaded qs b) : Threaded (ps ++ qs) (a ++ b) := by
  induction ps generalizing a with
  | nil => exact hq.gap a
  | cons p ps ih =>
    obtain ⟨g, rest, rfl, h⟩ := hp
    exact ⟨g, rest ++ b, by simp, ih h⟩

lemma Threaded.extend {ps : List (List Char)} {a : List Char} (h : Threaded ps a) (b : List Char) :
    Threaded ps (a ++ b) := by
  simpa using h.append (threaded_nil b)

/-- The texts that a directive keeps, in the order of its source. -/
def Directive.pieces : Directive → List (List Char)
  | .text t => [t]
  | .expression source => [source]
  | .style selector _ => selector.toList
  | .inclusion source => [source]
  | .loop element index array body =>
    element.toList :: (index.map String.toList).toList ++ [array, body]
  | .conditional branches otherwise =>
    (branches.flatMap fun b => [b.condition, b.body]) ++ otherwise.toList

/-! ### Conditionals -/

lemma Threaded.of_suffix {ps : List (List Char)} {rest cs : List Char} (h : Threaded ps rest)
    (hs : rest <:+ cs) : Threaded ps cs := by
  obtain ⟨gap, rfl⟩ := hs
  exact h.gap gap

lemma Threaded.of_cut? {marker : Marker} {ps : List (List Char)} {cs before rest : List Char}
    (h : Threaded ps rest) (hc : marker.cut? cs = some (before, rest)) :
    Threaded (before :: ps) cs := by
  obtain ⟨tail, rfl, -, ht, -⟩ := Marker.cut?_eq_some_iff.1 hc
  exact (h.of_suffix (Marker.strip?_suffix ht)).cons before

lemma Threaded.of_elseIf? {d : Dialect} {id cs condition rest : List Char} {ps : List (List Char)}
    (h : Threaded ps rest) (he : elseIf? d id cs = some (condition, rest)) :
    Threaded (condition :: ps) cs := by
  obtain ⟨r, hr, hc⟩ := Option.bind_eq_some_iff.1 he
  exact (h.of_cut? hc).of_suffix (Marker.strip?_suffix hr)

lemma branches_threaded (d : Dialect) (id condition body cs : List Char) :
    ∃ first others otherwise, branches d id condition body cs =
        (⟨condition, first⟩ :: others, otherwise) ∧
      Threaded (first :: (Directive.conditional others otherwise).pieces) (body.reverse ++ cs) := by
  fun_induction branches d id condition body cs with
  | case1 condition body =>
    exact ⟨body.reverse, [], none, rfl, (threaded_nil []).cons _⟩
  | case2 condition body c cs next rest he _ others otherwise hb ih =>
    obtain ⟨first, more, last, hfirst, ht⟩ := ih
    rw [hfirst] at hb
    obtain ⟨rfl, rfl⟩ := Prod.mk.inj hb
    refine ⟨body.reverse, _, _, rfl, ?_⟩
    have hpieces : (Directive.conditional (⟨next, first⟩ :: more) last).pieces =
        next :: first :: (Directive.conditional more last).pieces := by
      simp [Directive.pieces]
    rw [hpieces]
    exact (Threaded.of_elseIf? ht he).cons body.reverse
  | case3 condition body c cs he rest hs =>
    have hrest : Threaded [rest] rest := by simpa using (threaded_nil []).cons rest
    exact ⟨body.reverse, [], some rest, rfl,
      (hrest.of_suffix (Marker.strip?_suffix hs)).cons body.reverse⟩
  | case4 condition body c cs he hs ih =>
    obtain ⟨first, others, otherwise, hfirst, ht⟩ := ih
    exact ⟨first, others, otherwise, hfirst, by simpa using ht⟩

lemma conditional?_threaded {d : Dialect} {cs rest : List Char} {directive : Directive}
    (h : conditional? d cs = some (directive, rest)) : Threaded directive.pieces cs := by
  simp only [conditional?, Option.bind_eq_bind, Option.bind_eq_some_iff, Prod.exists,
    Option.pure_def, Option.some.injEq, Prod.mk.injEq] at h
  obtain ⟨id, r1, h1, condition, r2, h2, chain, r3, h3, rfl, rfl⟩ := h
  obtain ⟨first, others, otherwise, hb, ht⟩ := branches_threaded d id condition [] chain
  obtain ⟨tail, rfl, -⟩ := Marker.cut?_eq_some_iff.1 h3
  rw [hb]
  have hpieces : (Directive.conditional (⟨condition, first⟩ :: others) otherwise).pieces =
      condition :: first :: (Directive.conditional others otherwise).pieces := by
    simp [Directive.pieces]
  rw [hpieces]
  exact ((ht.extend tail).of_cut? h2).of_suffix ((local_ifHead? d).suffix h1)

/-! ### Other directives -/

lemma Threaded.of_loopVariable? {ps : List (List Char)} {cs name rest : List Char}
    (h : Threaded ps rest) (hv : loopVariable? cs = some (name, rest)) :
    Threaded (name :: ps) cs := by
  obtain ⟨c, tail, h1, -, rfl, rfl⟩ := loopVariable?_eq_some_iff.1 hv
  have hs : c :: tail <:+ cs := h1 ▸ skipBlanks_suffix cs
  refine Threaded.of_suffix ?_ hs
  simpa using h.cons (c :: tail.takeWhile isVariablePart)

lemma Threaded.of_variables? {ps : List (List Char)} {cs element rest : List Char}
    {index : Option (List Char)} (h : Threaded ps rest)
    (hv : variables? cs = some (element, index, rest)) :
    Threaded (element :: (index.toList ++ ps)) cs := by
  have hsuffix {c : Char} {a b : List Char} (hc : afterChar? c a = some b) : b <:+ a :=
    (local_afterChar? c).suffix (a := ()) (by simp [Reader.skip, hc])
  simp only [variables?, Option.bind_eq_bind, Option.bind_eq_some_iff, Prod.exists,
    Option.pure_def] at hv
  obtain ⟨r1, h1, e, r2, h2, hv⟩ := hv
  split at hv
  · next r3 h3 =>
    simp only [Option.bind_eq_some_iff, Prod.exists, Option.some.injEq, Prod.mk.injEq] at hv
    obtain ⟨i, r4, h4, r5, h5, rfl, rfl, rfl⟩ := hv
    have hi := (h.of_suffix (hsuffix h5)).of_loopVariable? h4
    exact ((hi.of_suffix (hsuffix h3)).of_loopVariable? h2).of_suffix (hsuffix h1)
  · simp only [Option.bind_eq_some_iff, Option.some.injEq, Prod.mk.injEq] at hv
    obtain ⟨r5, h5, rfl, rfl, rfl⟩ := hv
    exact ((h.of_suffix (hsuffix h5)).of_loopVariable? h2).of_suffix (hsuffix h1)

lemma variables?_of_loopHead? {d : Dialect} {cs id element rest : List Char}
    {index : Option (List Char)} (h : d.loopHead? cs = some (id, element, index, rest)) :
    ∃ a b, a <:+ cs ∧ rest <:+ b ∧ variables? a = some (element, index, b) := by
  have hid (r : List Char) : (takeId r).2 <:+ r := local_takeId.suffix (a := (takeId r).1) rfl
  cases d <;>
    simp only [Dialect.loopHead?, Option.bind_eq_bind, Option.bind_eq_some_iff, Option.pure_def,
      Option.some.injEq, Prod.mk.injEq, Prod.exists] at h <;>
    obtain ⟨a, ha, e, i, b, hv, r, hr, -, rfl, rfl, rfl⟩ := h <;>
    refine ⟨(takeId a).2, b, (hid a).trans (stripFolded?_suffix ha), ?_, hv⟩
  · exact (local_afterChar? '{').suffix (a := ()) (by simp [Reader.skip, hr])
  · have hattribute : Local true (Reader.skip (afterAttribute? "array")) :=
      local_afterAttribute? rfl
    exact hattribute.suffix (a := ()) (by simp [Reader.skip, hr])

lemma loop?_threaded {d : Dialect} {cs rest : List Char} {directive : Directive}
    (h : loop? d cs = some (directive, rest)) : Threaded directive.pieces cs := by
  simp only [loop?, Option.bind_eq_bind, Option.bind_eq_some_iff, Prod.exists,
    Option.pure_def, Option.some.injEq, Prod.mk.injEq] at h
  obtain ⟨id, element, index, r1, h1, array, r2, h2, body, r3, h3, rfl, rfl⟩ := h
  have hbody : Threaded [array, body] r1 := ((threaded_nil r3).of_cut? h3).of_cut? h2
  have hpieces : (Directive.loop (String.ofList element) (index.map String.ofList) array
      body).pieces = element :: (index.toList ++ [array, body]) := by
    cases index <;> simp [Directive.pieces]
  rw [hpieces]
  obtain ⟨r4, r5, hr4, hr5, hv⟩ := variables?_of_loopHead? h1
  exact ((hbody.of_suffix hr5).of_variables? hv).of_suffix hr4

lemma inclusion?_threaded {d : Dialect} {cs rest : List Char} {directive : Directive}
    (h : inclusion? d cs = some (directive, rest)) : Threaded directive.pieces cs := by
  simp only [inclusion?, Option.bind_eq_bind, Option.bind_eq_some_iff, Prod.exists,
    Option.pure_def] at h
  obtain ⟨r1, h1, source, r2, h2, h⟩ := h
  have hs : r1 <:+ cs := (local_inclusionHead? d).suffix (a := ()) (by simp [Reader.skip, h1])
  split at h
  · simp at h
  · simp only [Option.some.injEq, Prod.mk.injEq] at h
    obtain ⟨rfl, rfl⟩ := h
    exact ((threaded_nil r2).of_cut? h2).of_suffix hs

lemma append_of_splitLastComma? {cs before after : List Char}
    (h : splitLastComma? cs = some (before, after)) : cs = before ++ ',' :: after := by
  unfold splitLastComma? at h
  split at h
  · next c r hr =>
    obtain ⟨rfl, rfl⟩ := Prod.mk.inj (Option.some.inj h)
    have hc : c = ',' := by
      have := List.head_dropWhile_not (· != ',') (l := cs.reverse) (by simp [hr])
      simpa [hr] using this
    have hcs := List.takeWhile_append_dropWhile (p := (· != ',')) (l := cs.reverse)
    rw [hr, hc] at hcs
    have := congrArg List.reverse hcs
    simpa using this.symm
  · simp at h

lemma styleParams_isPrefix (cs : List Char) : (styleParams cs).1 <+: cs := by
  unfold styleParams
  split
  · next selector flag h =>
    split
    · exact ⟨_, (append_of_splitLastComma? h).symm⟩
    · exact List.prefix_rfl
  · exact List.prefix_rfl

lemma trim_isInfix (cs : List Char) : trim cs <:+: cs := by
  have h (cs : List Char) : trimEnd cs <+: cs := by
    rw [trimEnd, ← List.reverse_suffix, List.reverse_reverse]
    exact List.dropWhile_suffix _
  exact (h _).isInfix.trans (skipBlanks_suffix cs).isInfix

lemma style?_threaded {d : Dialect} {cs rest : List Char} {directive : Directive}
    (h : style? d cs = some (directive, rest)) : Threaded directive.pieces cs := by
  simp only [style?, Option.bind_eq_bind, Option.bind_eq_some_iff] at h
  obtain ⟨r1, h1, h⟩ := h
  have hs : r1 <:+ cs := (local_styleHead? d).suffix (a := ()) (by simp [Reader.skip, h1])
  split at h
  · obtain ⟨rfl, rfl⟩ := Prod.mk.inj (Option.some.inj h)
    exact threaded_nil cs
  · next r2 _ _ =>
    simp only [Option.bind_eq_some_iff, Prod.exists, Option.pure_def, Option.some.injEq,
      Prod.mk.injEq] at h
    obtain ⟨params, r3, h3, rfl, rfl⟩ := h
    show Threaded (selector? (styleParams params).1).toList cs
    unfold selector?
    split
    · exact threaded_nil cs
    · next c more hc =>
      obtain ⟨a, b, hab⟩ := (trim_isInfix _).trans (styleParams_isPrefix params).isInfix
      obtain ⟨tail, rfl, -⟩ := Marker.cut?_eq_some_iff.1 h3
      obtain ⟨u, rfl⟩ := hs
      exact ⟨u ++ '[' :: a, b ++ tail, by rw [← hab, hc]; simp, trivial⟩
  · simp at h

/-- **A directive keeps stretches of its source**: its texts stand in it in their order. -/
theorem directive?_threaded {cs rest : List Char} {directive : Directive}
    (h : directive? cs = some (directive, rest)) : Threaded directive.pieces (upTo cs rest) := by
  rcases directive?_eq_some_iff.1 (directive?_upTo h) with ⟨d, h⟩ | ⟨tail, source, htail, hc, rfl⟩
  · obtain ⟨k, h⟩ := dialect?_eq_some_iff.1 h
    cases k with
    | conditional => exact conditional?_threaded h
    | loop => exact loop?_threaded h
    | inclusion => exact inclusion?_threaded h
    | style => exact style?_threaded h
  · rw [htail]
    exact ((threaded_nil []).of_cut? hc).of_suffix ⟨['{', '{'], rfl⟩

end Pressroom.Markup
