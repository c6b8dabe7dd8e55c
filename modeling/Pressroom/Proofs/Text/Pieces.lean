import Mathlib.Data.List.Infix
import Pressroom.Proofs.Text.Join

/-!
Texts taken apart at a text in them. The cut is at the first occurrence, and there is one if the
text occurs at all. The pieces between the occurrences of a separator, joined by it, are the text;
if it is a single character, the pieces are the parts without it, so that joined parts are found
again and a text in two halves has the pieces of both.
-/

namespace Pressroom.Text

/-! ### The first occurrence -/

lemma strip?_append (pattern rest : List Char) : strip? pattern (pattern ++ rest) = some rest :=
  strip?_eq_some_iff.2 rfl

lemma exists_tail_occurrence {pattern cs a b : List Char} {c : Char}
    (h : c :: cs = a ++ pattern ++ b) (hhere : strip? pattern (c :: cs) = none) :
    ∃ a', a = c :: a' ∧ cs = a' ++ pattern ++ b := by
  cases a with
  | nil =>
    rw [h, List.nil_append, strip?_append] at hhere
    cases hhere
  | cons d a =>
    obtain ⟨rfl, htail⟩ := List.cons.inj h
    exact ⟨a, rfl, htail⟩

/-- **The cut is at the first occurrence.** -/
theorem cut?_eq_some_iff {pattern cs before rest : List Char} :
    cut? pattern cs = some (before, rest) ↔
      cs = before ++ pattern ++ rest ∧
        ∀ a b, cs = a ++ pattern ++ b → before.length ≤ a.length := by
  constructor
  · intro h
    refine ⟨append_of_cut? h, ?_⟩
    induction cs generalizing before with
    | nil =>
      intro a b hab
      have hbefore := append_of_cut? h
      simp only [List.nil_eq, List.append_eq_nil_iff] at hbefore
      simp [hbefore.1.1]
    | cons c cs ih =>
      intro a b hab
      rw [cut?] at h
      split at h
      · obtain ⟨rfl, -⟩ := Prod.mk.inj (Option.some.inj h)
        simp
      · next hhere =>
        obtain ⟨⟨before', rest'⟩, hcut, heq⟩ := Option.map_eq_some_iff.1 h
        obtain ⟨rfl, rfl⟩ := Prod.mk.inj heq
        obtain ⟨a', rfl, htail⟩ := exists_tail_occurrence hab hhere
        have := ih hcut a' b htail
        simpa using this
  · rintro ⟨rfl, hfirst⟩
    induction before with
    | nil =>
      rw [List.nil_append]
      generalize hcs : pattern ++ rest = cs
      have hhere : strip? pattern cs = some rest := hcs ▸ strip?_append pattern rest
      cases cs with
      | nil => simp [cut?, hhere]
      | cons c cs => simp [cut?, hhere]
    | cons c before ih =>
      have hhere : strip? pattern (c :: (before ++ pattern ++ rest)) = none := by
        by_contra hsome
        obtain ⟨b, hb⟩ := Option.ne_none_iff_exists'.1 hsome
        have := hfirst [] b (strip?_eq_some_iff.1 hb)
        simp at this
      have hcut : cut? pattern (before ++ pattern ++ rest) = some (before, rest) := by
        refine ih fun a b hab => ?_
        have := hfirst (c :: a) b (congrArg (c :: ·) hab)
        simpa using this
      simp only [List.cons_append, cut?, hhere, hcut, Option.map_some]

lemma cut?_eq_none_iff {pattern cs : List Char} : cut? pattern cs = none ↔ ¬ pattern <:+: cs := by
  induction cs with
  | nil =>
    rw [cut?, Option.map_eq_none_iff, List.infix_nil]
    cases pattern <;> simp [strip?]
  | cons c cs ih =>
    rw [List.infix_cons_iff, not_or, ← ih, cut?]
    cases hhere : strip? pattern (c :: cs) with
    | some rest => simp [strip?_eq_some_iff.1 hhere]
    | none =>
      have hstart : ¬ pattern <+: c :: cs := by
        rintro ⟨rest, hrest⟩
        rw [← hrest, strip?_append] at hhere
        cases hhere
      simp [hstart]

lemma exists_cut?_of_infix {pattern cs : List Char} (h : pattern <:+: cs) :
    ∃ before rest, cut? pattern cs = some (before, rest) := by
  cases hcut : cut? pattern cs with
  | none => exact absurd h (cut?_eq_none_iff.1 hcut)
  | some found => exact ⟨found.1, found.2, rfl⟩

lemma occursIn_iff {pattern cs : List Char} : occursIn pattern cs = true ↔ pattern <:+: cs := by
  rw [occursIn, Option.isSome_iff_ne_none, Ne, cut?_eq_none_iff, not_not]

/-! ### The pieces of a text -/

lemma pieces_of_none {separator text : List Char} (h : cut? separator text = none) :
    pieces separator text = [text] := by
  rw [pieces, h]

lemma pieces_of_some {separator text before rest : List Char} (hsep : separator ≠ [])
    (h : cut? separator text = some (before, rest)) :
    pieces separator text = before :: pieces separator rest := by
  have hlength : rest.length < text.length := by
    have := List.length_pos_of_ne_nil hsep
    rw [append_of_cut? h]
    simp
    omega
  rw [pieces, h]
  simp [hlength]

/-- Going through a text from separator to separator. -/
theorem pieces_induction {separator : List Char} (hsep : separator ≠ []) {P : List Char → Prop}
    (last : ∀ text, cut? separator text = none → P text)
    (next : ∀ text before rest, cut? separator text = some (before, rest) → P rest → P text)
    (text : List Char) : P text := by
  induction hn : text.length using Nat.strongRecOn generalizing text with
  | ind n ih =>
    cases hcut : cut? separator text with
    | none => exact last text hcut
    | some found =>
      refine next text found.1 found.2 hcut (ih found.2.length ?_ found.2 rfl)
      have := List.length_pos_of_ne_nil hsep
      have hlength := congrArg List.length (append_of_cut? hcut)
      simp only [List.length_append] at hlength
      omega

lemma pieces_ne_nil (separator text : List Char) : pieces separator text ≠ [] := by
  rw [pieces]
  split
  · simp
  · split <;> simp

/-- **The pieces of a text, joined again, are the text.** -/
theorem join_pieces {separator : List Char} (hsep : separator ≠ []) (text : List Char) :
    join separator (pieces separator text) = text := by
  induction text using pieces_induction hsep with
  | last text h => rw [pieces_of_none h, join_singleton]
  | next text before rest h ih =>
    rw [pieces_of_some hsep h, join_cons (pieces_ne_nil _ _), ih, append_of_cut? h]

/-- **No piece holds the separator.** -/
theorem not_infix_of_mem_pieces {separator : List Char} (hsep : separator ≠ [])
    {text piece : List Char} (h : piece ∈ pieces separator text) : ¬ separator <:+: piece := by
  induction text using pieces_induction hsep with
  | last text hcut =>
    rw [pieces_of_none hcut, List.mem_singleton] at h
    exact h ▸ cut?_eq_none_iff.1 hcut
  | next text before rest hcut ih =>
    rw [pieces_of_some hsep hcut, List.mem_cons] at h
    rcases h with rfl | h
    · -- an occurrence inside the first piece would have been cut at
      rintro ⟨a, b, hab⟩
      have htext : text = a ++ separator ++ (b ++ separator ++ rest) := by
        rw [append_of_cut? hcut, ← hab]
        simp
      have hle := (cut?_eq_some_iff.1 hcut).2 a _ htext
      have hlength := congrArg List.length hab
      have := List.length_pos_of_ne_nil hsep
      simp only [List.length_append] at hlength
      omega
    · exact ih h

section Single

variable {c : Char}

lemma cut?_single_eq_none_iff {text : List Char} : cut? [c] text = none ↔ c ∉ text := by
  rw [cut?_eq_none_iff, List.singleton_infix_iff]

lemma pieces_of_not_mem {text : List Char} (h : c ∉ text) : pieces [c] text = [text] :=
  pieces_of_none (cut?_single_eq_none_iff.2 h)

lemma pieces_first {before : List Char} (h : c ∉ before) (rest : List Char) :
    pieces [c] (before ++ c :: rest) = before :: pieces [c] rest := by
  refine pieces_of_some (by simp) (cut?_eq_some_iff.2 ⟨by simp, fun a b hab => ?_⟩)
  by_contra hlt
  rw [not_le] at hlt
  rw [List.append_assoc, List.append_eq_append_iff] at hab
  rcases hab with ⟨t, rfl, -⟩ | ⟨t, rfl, ht⟩
  · rw [List.length_append] at hlt
    omega
  · cases t with
    | nil => simp at hlt
    | cons d t =>
      obtain ⟨rfl, -⟩ := List.cons.inj ht
      exact h (by simp)

lemma pieces_append (a b : List Char) :
    pieces [c] (a ++ c :: b) = pieces [c] a ++ pieces [c] b := by
  induction hn : a.length using Nat.strongRecOn generalizing a with
  | ind n ih =>
    by_cases hc : c ∈ a
    · obtain ⟨before, rest, rfl, hbefore⟩ := List.eq_append_cons_of_mem hc
      rw [List.append_assoc, List.cons_append, pieces_first hbefore, pieces_first hbefore,
        ih rest.length (by simp at hn; omega) rest rfl, List.cons_append]
    · rw [pieces_first hc, pieces_of_not_mem hc, List.singleton_append]

lemma not_mem_of_mem_pieces {text piece : List Char} (h : piece ∈ pieces [c] text) : c ∉ piece := by
  rw [← List.singleton_infix_iff]
  exact not_infix_of_mem_pieces (List.cons_ne_nil c []) h

/-- **Joined parts are the pieces**, if none of them holds the separator. -/
theorem pieces_join {parts : List (List Char)} (hne : parts ≠ []) (h : ∀ part ∈ parts, c ∉ part) :
    pieces [c] (join [c] parts) = parts := by
  induction parts with
  | nil => exact absurd rfl hne
  | cons part parts ih =>
    obtain ⟨hpart, hparts⟩ := List.forall_mem_cons.1 h
    by_cases hlast : parts = []
    · rw [hlast, join_singleton, pieces_of_not_mem hpart]
    · rw [join_cons hlast, List.append_assoc, List.singleton_append, pieces_first hpart,
        ih hlast hparts]

end Single

end Pressroom.Text
