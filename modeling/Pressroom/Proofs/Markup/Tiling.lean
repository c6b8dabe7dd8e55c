import Pressroom.Proofs.Markup.Offsets
import Pressroom.Proofs.Markup.Pieces

/-!
Nothing of a markup is lost: its spans tile it, text is kept as it is, and a directive keeps
stretches of its own span. What is text could not be anything else, since no directive starts in
it. The same holds of the reading by offsets, which takes no slice that is out of bounds.
-/

namespace Pressroom.Markup

open Text

/-- How the text of a directive starts. -/
def Opening (cs : List Char) : Prop :=
  (∃ d : Dialect, d.Starts cs) ∨ ∃ rest, cs = '{' :: '{' :: rest

/-- What a span has to do with its directive. -/
structure Span.Faithful (s : Span) : Prop where
  nonempty : s.source ≠ []
  verbatim : ∀ t, s.directive = .text t → s.source = t
  opening : ¬ s.IsText → Opening s.source
  pieces : Threaded s.directive.pieces s.source

lemma faithful_of_text {t : List Char} (h : t ≠ []) : Span.Faithful ⟨t, .text t⟩ where
  nonempty := h
  verbatim := by
    rintro u hu
    exact Directive.text.inj hu
  opening hn := absurd ⟨t, rfl⟩ hn
  pieces := by simpa [Directive.pieces] using (threaded_nil []).cons t

lemma faithful_of_directive? {cs rest : List Char} {directive : Directive}
    (h : directive? cs = some (directive, rest)) : Span.Faithful ⟨upTo cs rest, directive⟩ where
  nonempty := upTo_ne_nil (local_directive?.suffix h) (directive?_shrinks h).1
  verbatim t ht := absurd ht (ne_text_of_directive? h t)
  opening _ := by
    rcases directive?_eq_some_iff.1 (directive?_upTo h) with ⟨d, hd⟩ | ⟨tail, source, htail, -, -⟩
    · exact .inl ⟨d, starts_of_dialect? hd⟩
    · exact .inr ⟨tail, htail⟩
  pieces := directive?_threaded h

/-- Every span is what its directive says. -/
theorem faithful_of_mem_spans {cs : List Char} {s : Span} (hs : s ∈ spans cs) : s.Faithful := by
  induction cs using scan_induction generalizing s with
  | nil => simp at hs
  | found cs directive rest h ih =>
    rw [spans_of_directive? h, List.mem_cons] at hs
    rcases hs with rfl | hs
    · exact faithful_of_directive? h
    · exact ih hs
  | passed c cs h ih =>
    rw [spans_of_none h] at hs
    rcases prependSpan_cases c (spans cs) with ⟨source, t, rest, hspans, hp⟩ | ⟨-, hp⟩
    · rw [hp, List.mem_cons] at hs
      rcases hs with rfl | hs
      · have hsource : source = t :=
          (ih (s := ⟨source, .text t⟩) (by rw [hspans]; simp)).verbatim t rfl
        subst hsource
        exact faithful_of_text (by simp)
      · exact ih (by rw [hspans]; simp [hs])
    · rw [hp, List.mem_cons] at hs
      rcases hs with rfl | hs
      · exact faithful_of_text (by simp)
      · exact ih hs

/-- Text does not stand next to text. -/
theorem spans_isChain (cs : List Char) :
    (spans cs).IsChain fun s t => ¬ (s.IsText ∧ t.IsText) := by
  induction cs using scan_induction with
  | nil => rw [spans_nil]; exact .nil
  | found cs directive rest h ih =>
    rw [spans_of_directive? h]
    refine List.isChain_cons.2 ⟨fun t _ ht => ?_, ih⟩
    obtain ⟨u, hu⟩ := ht.1
    exact ne_text_of_directive? h u hu
  | passed c cs h ih =>
    rw [spans_of_none h]
    rcases prependSpan_cases c (spans cs) with ⟨source, t, rest, hspans, hp⟩ | ⟨hhead, hp⟩
    · rw [hspans, List.isChain_cons] at ih
      rw [hp, List.isChain_cons]
      exact ⟨fun s hs hboth => ih.1 s hs ⟨⟨t, rfl⟩, hboth.2⟩, ih.2⟩
    · rw [hp, List.isChain_cons]
      exact ⟨fun s hs hboth => hhead s hs hboth.2, ih⟩

/-- No directive starts inside text. -/
theorem directive?_eq_none_of_text {cs : List Char} {ss ts : List Span} {s : Span}
    (h : spans cs = ss ++ s :: ts) (hs : s.IsText) {t : List Char} (ht : t <:+ s.source)
    (hne : t ≠ []) : directive? (t ++ sources ts) = none := by
  induction cs using scan_induction generalizing ss s t with
  | nil => simp at h
  | found cs directive rest hd ih =>
    rw [spans_of_directive? hd] at h
    cases ss with
    | nil =>
      obtain ⟨rfl, -⟩ := List.cons.inj h
      obtain ⟨u, hu⟩ := hs
      exact absurd hu (ne_text_of_directive? hd u)
    | cons x ss => exact ih (List.cons.inj h).2 hs ht hne
  | passed c cs hd ih =>
    rw [spans_of_none hd] at h
    have hall := sources_spans cs
    rcases prependSpan_cases c (spans cs) with ⟨source, u, rest, hspans, hp⟩ | ⟨-, hp⟩
    · rw [hp] at h
      cases ss with
      | nil =>
        obtain ⟨rfl, rfl⟩ := List.cons.inj h
        rcases List.suffix_cons_iff.1 ht with rfl | ht
        · rw [hspans, sources_cons] at hall
          rw [List.cons_append, hall]
          exact hd
        · exact @ih [] ⟨source, .text u⟩ hspans ⟨u, rfl⟩ t ht hne
      | cons x ss =>
        refine @ih (⟨source, .text u⟩ :: ss) s ?_ hs t ht hne
        rw [hspans, (List.cons.inj h).2]
        rfl
    · rw [hp] at h
      cases ss with
      | nil =>
        obtain ⟨rfl, rfl⟩ := List.cons.inj h
        rcases List.suffix_cons_iff.1 ht with rfl | ht
        · rw [List.cons_append, List.nil_append, hall]
          exact hd
        · exact absurd (List.suffix_nil.1 ht) hne
      | cons x ss => exact ih (List.cons.inj h).2 hs ht hne

/-- **Reading markup loses nothing.** The directives stand in consecutive spans that tile the
markup. Text is kept as it is, is not empty, does not stand next to text, and no directive starts
in it; a directive opens its span and keeps stretches of it, in their order and without overlap.
Read by offsets, with a check of every slice, the directives are the same ones. -/
theorem directives_tile (markup : List Char) :
    (spans markup).map Span.directive = directives markup ∧
      sources (spans markup) = markup ∧
      (∀ s ∈ spans markup, s.Faithful) ∧
      ((spans markup).IsChain fun s t => ¬ (s.IsText ∧ t.IsText)) ∧
      (∀ ss s ts, spans markup = ss ++ s :: ts → s.IsText →
        ∀ t, t <:+ s.source → t ≠ [] → directive? (t ++ sources ts) = none) ∧
      scan markup = Scan.found (some (directives markup)) :=
  ⟨map_directive_spans markup, sources_spans markup, fun _ => faithful_of_mem_spans,
    spans_isChain markup, fun _ _ _ h hs _ => directive?_eq_none_of_text h hs, scan_eq markup⟩

end Pressroom.Markup
