import Mathlib.Data.List.Chain
import Pressroom.Proofs.Markup.Local

/-!
The directives of a markup together with the text that each of them stands in. The spans of a markup
put together are the markup, and reading any run of consecutive spans by itself gives those spans
back: a cut between two directives changes neither what stands before it nor what stands behind it.
-/

namespace Pressroom.Markup

open Text

/-- A directive with its source. -/
structure Span where
  source : List Char
  directive : Directive

def prependSpan (c : Char) : List Span → List Span
  | ⟨source, .text t⟩ :: rest => ⟨c :: source, .text (c :: t)⟩ :: rest
  | rest => ⟨[c], .text [c]⟩ :: rest

def spans : List Char → List Span
  | [] => []
  | c :: cs =>
    match h : directive? (c :: cs) with
    | some (directive, rest) =>
      have := (directive?_shrinks h).1
      ⟨upTo (c :: cs) rest, directive⟩ :: spans rest
    | none => prependSpan c (spans cs)
termination_by cs => cs.length
decreasing_by
  · exact this
  · exact Nat.lt_succ_self _

def sources (ss : List Span) : List Char :=
  ss.flatMap Span.source

@[simp] lemma sources_nil : sources [] = [] := rfl

@[simp] lemma sources_cons (s : Span) (ss : List Span) :
    sources (s :: ss) = s.source ++ sources ss := rfl

@[simp] lemma sources_append (ss ts : List Span) : sources (ss ++ ts) = sources ss ++ sources ts :=
  List.flatMap_append

@[simp] lemma spans_nil : spans [] = [] := by
  rw [spans]

lemma spans_of_directive? {cs rest : List Char} {directive : Directive}
    (h : directive? cs = some (directive, rest)) :
    spans cs = ⟨upTo cs rest, directive⟩ :: spans rest := by
  cases cs with
  | nil => simp [directive?_nil] at h
  | cons c cs =>
    rw [spans]
    split
    · next h' =>
      obtain ⟨rfl, rfl⟩ := Prod.mk.inj (Option.some.inj (h.symm.trans h'))
      rfl
    · next h' => simp [h] at h'

lemma spans_of_none {c : Char} {cs : List Char} (h : directive? (c :: cs) = none) :
    spans (c :: cs) = prependSpan c (spans cs) := by
  rw [spans]
  split
  · next h' => simp [h] at h'
  · rfl

lemma directives_of_directive? {cs rest : List Char} {directive : Directive}
    (h : directive? cs = some (directive, rest)) :
    directives cs = directive :: directives rest := by
  cases cs with
  | nil => simp [directive?_nil] at h
  | cons c cs =>
    rw [directives]
    split
    · next h' =>
      obtain ⟨rfl, rfl⟩ := Prod.mk.inj (Option.some.inj (h.symm.trans h'))
      rfl
    · next h' => simp [h] at h'

lemma directives_of_none {c : Char} {cs : List Char} (h : directive? (c :: cs) = none) :
    directives (c :: cs) = prepend c (directives cs) := by
  rw [directives]
  split
  · next h' => simp [h] at h'
  · rfl

lemma foldr_prepend {t : List Char} {ds : List Directive} (ht : t ≠ [])
    (hd : ∀ d ∈ ds.head?, ∀ t, d ≠ .text t) : t.foldr prepend ds = .text t :: ds := by
  induction t with
  | nil => exact absurd rfl ht
  | cons c t ih =>
    rw [List.foldr_cons]
    by_cases hnil : t = []
    · subst hnil
      match ds, hd with
      | [], _ => rfl
      | d :: ds, hd =>
        cases d with
        | text t => exact absurd rfl (hd _ rfl t)
        | _ => rfl
    · rw [ih hnil]
      rfl

/-- Going through a markup from the left: there is a directive, or a character of text. -/
theorem scan_induction {P : List Char → Prop} (nil : P [])
    (found : ∀ cs directive rest, directive? cs = some (directive, rest) → P rest → P cs)
    (passed : ∀ c cs, directive? (c :: cs) = none → P cs → P (c :: cs)) (cs : List Char) :
    P cs := by
  induction hn : cs.length using Nat.strongRecOn generalizing cs with
  | ind n ih =>
    subst hn
    cases cs with
    | nil => exact nil
    | cons c cs =>
      cases h : directive? (c :: cs) with
      | some x => exact found _ _ _ h (ih _ (directive?_shrinks h).1 _ rfl)
      | none => exact passed _ _ h (ih _ (Nat.lt_succ_self _) _ rfl)

lemma ne_text_of_directive? {cs rest : List Char} {directive : Directive}
    (h : directive? cs = some (directive, rest)) (t : List Char) : directive ≠ .text t := by
  rcases directive?_eq_some_iff.1 h with ⟨d, hd⟩ | ⟨tail, source, -, -, rfl⟩
  · obtain ⟨k, hk⟩ := dialect?_eq_some_iff.1 hd
    cases k <;>
      simp only [Kind.read, conditional?, loop?, inclusion?, style?, Option.bind_eq_bind,
        Option.bind_eq_some_iff, Prod.exists, Option.pure_def, Option.some.injEq,
        Prod.mk.injEq] at hk
    · obtain ⟨-, -, -, -, -, -, -, -, -, rfl, -⟩ := hk
      simp
    · obtain ⟨-, -, -, -, -, -, -, -, -, -, -, rfl, -⟩ := hk
      simp
    · obtain ⟨_, _, _, _, _, hs⟩ := hk
      split at hs
      · simp at hs
      · simp only [Option.some.injEq, Prod.mk.injEq] at hs
        rw [← hs.1]
        simp
    · obtain ⟨_, _, hs⟩ := hk
      split at hs
      · simp only [Option.some.injEq, Prod.mk.injEq] at hs
        rw [← hs.1]
        simp
      · simp only [Option.bind_eq_some_iff, Prod.exists, Option.some.injEq, Prod.mk.injEq] at hs
        obtain ⟨_, _, _, rfl, -⟩ := hs
        simp
      · simp at hs
  · simp

def Span.IsText (s : Span) : Prop :=
  ∃ t, s.directive = .text t

lemma prependSpan_of_not_text (c : Char) {ss : List Span} (h : ∀ s ∈ ss.head?, ¬ s.IsText) :
    prependSpan c ss = ⟨[c], .text [c]⟩ :: ss := by
  match ss, h with
  | [], _ => rfl
  | ⟨source, directive⟩ :: rest, h =>
    cases directive with
    | text t => exact absurd ⟨t, rfl⟩ (h _ rfl)
    | _ => rfl

lemma prependSpan_cases (c : Char) (ss : List Span) :
    (∃ source t rest, ss = ⟨source, .text t⟩ :: rest ∧
      prependSpan c ss = ⟨c :: source, .text (c :: t)⟩ :: rest) ∨
    ((∀ s ∈ ss.head?, ¬ s.IsText) ∧ prependSpan c ss = ⟨[c], .text [c]⟩ :: ss) := by
  by_cases h : ∀ s ∈ ss.head?, ¬ s.IsText
  · exact .inr ⟨h, prependSpan_of_not_text c h⟩
  · simp only [not_forall, not_not, Option.mem_def] at h
    obtain ⟨⟨source, directive⟩, hs, t, rfl⟩ := h
    obtain ⟨rest, rfl⟩ := List.head?_eq_some_iff.1 hs
    exact .inl ⟨source, t, rest, rfl, rfl⟩

@[simp] lemma sources_prependSpan (c : Char) (ss : List Span) :
    sources (prependSpan c ss) = c :: sources ss := by
  rcases prependSpan_cases c ss with ⟨source, t, rest, rfl, hp⟩ | ⟨-, hp⟩
  · rw [hp, sources_cons, sources_cons, List.cons_append]
  · rw [hp, sources_cons, List.singleton_append]

lemma exists_of_prependSpan {c : Char} {us ss ts : List Span} {s : Span}
    (h : prependSpan c us = s :: ss ++ ts) :
    ∃ front, us = front ++ ts ∧ prependSpan c front = s :: ss := by
  rcases prependSpan_cases c us with ⟨source, t, rest, rfl, hp⟩ | ⟨hhead, hp⟩
  · rw [hp, List.cons_append, List.cons.injEq] at h
    obtain ⟨rfl, rfl⟩ := h
    exact ⟨⟨source, .text t⟩ :: ss, rfl, rfl⟩
  · rw [hp, List.cons_append, List.cons.injEq] at h
    obtain ⟨rfl, rfl⟩ := h
    refine ⟨ss, rfl, prependSpan_of_not_text c fun s hs => hhead s ?_⟩
    obtain ⟨more, rfl⟩ := List.head?_eq_some_iff.1 hs
    rfl

/-- **The spans are the directives.** -/
theorem map_directive_spans (cs : List Char) : (spans cs).map Span.directive = directives cs := by
  induction cs using scan_induction with
  | nil => rw [spans_nil, directives]; rfl
  | found cs directive rest h ih =>
    rw [spans_of_directive? h, directives_of_directive? h, List.map_cons, ih]
  | passed c cs h ih =>
    rw [spans_of_none h, directives_of_none h, ← ih]
    cases spans cs with
    | nil => rfl
    | cons span rest =>
      obtain ⟨source, directive⟩ := span
      cases directive <;> rfl

/-- **The spans are the markup.** -/
theorem sources_spans (cs : List Char) : sources (spans cs) = cs := by
  induction cs using scan_induction with
  | nil => rw [spans_nil, sources_nil]
  | found cs directive rest h ih =>
    rw [spans_of_directive? h, sources_cons, ih, upTo_append (local_directive?.suffix h)]
  | passed c cs h ih => rw [spans_of_none h, sources_prependSpan, ih]

lemma directive?_none_of_append {cs : List Char} (more : List Char)
    (h : directive? (cs ++ more) = none) :
    directive? cs = none := by
  cases hs : directive? cs with
  | none => rfl
  | some x =>
    have hx : directive? (cs ++ more) = some (x.1, x.2 ++ more) :=
      (local_directive?.append_iff (.inl rfl)).2 hs
    simp [h] at hx

lemma spans_found {cs rest : List Char} {directive : Directive} {ss ts : List Span}
    (hd : directive? cs = some (directive, rest)) (h : spans rest = ss ++ ts) :
    spans (upTo cs rest ++ sources ss) = ⟨upTo cs rest, directive⟩ :: spans (sources ss) := by
  have hrest : rest = sources ss ++ sources ts := by
    rw [← sources_spans rest, h, sources_append]
  have hcs : upTo cs rest ++ sources ss ++ sources ts = cs := by
    rw [List.append_assoc, ← hrest, upTo_append (local_directive?.suffix hd)]
  have hlong : directive? (upTo cs rest ++ sources ss ++ sources ts) =
      some (directive, sources ss ++ sources ts) := by
    rw [hcs, ← hrest, hd]
  have hd' : directive? (upTo cs rest ++ sources ss) = some (directive, sources ss) :=
    (local_directive?.append_iff (.inl rfl)).1 hlong
  rw [spans_of_directive? hd']
  simp [upTo]

lemma spans_passed {c : Char} {cs : List Char} {ss ts : List Span}
    (hd : directive? (c :: cs) = none) (h : spans cs = ss ++ ts) :
    spans (c :: sources ss) = prependSpan c (spans (sources ss)) := by
  refine spans_of_none (directive?_none_of_append (sources ts) ?_)
  rwa [List.cons_append, ← sources_append, ← h, sources_spans]

lemma spans_cut_in_front {cs : List Char} {ts : List Span} (h : spans cs = ts) :
    spans (sources []) = [] ∧ spans (sources ts) = ts := by
  rw [sources_nil, spans_nil, ← h, sources_spans]
  exact ⟨rfl, rfl⟩

/-- **Reading is local.** The spans before a cut between spans are those of the markup before it,
and the spans behind it are those of the markup behind it. -/
theorem spans_of_append {cs : List Char} {ss ts : List Span} (h : spans cs = ss ++ ts) :
    spans (sources ss) = ss ∧ spans (sources ts) = ts := by
  induction cs using scan_induction generalizing ss with
  | nil =>
    rw [spans_nil] at h
    obtain ⟨rfl, rfl⟩ := List.append_eq_nil_iff.1 h.symm
    exact spans_cut_in_front spans_nil
  | found cs directive rest hd ih =>
    cases ss with
    | nil => exact spans_cut_in_front h
    | cons s ss =>
      rw [spans_of_directive? hd, List.cons_append, List.cons.injEq] at h
      obtain ⟨rfl, h⟩ := h
      obtain ⟨hss, hts⟩ := ih h
      exact ⟨by rw [sources_cons, spans_found hd h, hss], hts⟩
  | passed c cs hd ih =>
    cases ss with
    | nil => exact spans_cut_in_front h
    | cons s ss =>
      rw [spans_of_none hd] at h
      obtain ⟨front, hfront, hs⟩ := exists_of_prependSpan h
      obtain ⟨hss, hts⟩ := ih hfront
      exact ⟨by rw [← hs, sources_prependSpan, spans_passed hd hfront, hss], hts⟩

end Pressroom.Markup
