import Pressroom.Proofs.Markup.Parts

/-!
The branches of a conditional. A stretch in which no marker of the conditional starts belongs to the
body of a branch; an `else-if` ends that body and starts the next one, an `else` ends the branches.
-/

namespace Pressroom.Markup

open Text

/-- In the first of two consecutive texts no marker of a conditional starts. -/
def Quiet (d : Dialect) (id p q : List Char) : Prop :=
  Misses (elseIf? d id) p q ∧ (d.elseMarker id).Silent p q

lemma branches_append {d : Dialect} {id condition body p q : List Char} (h : Quiet d id p q) :
    branches d id condition body (p ++ q) = branches d id condition (p.reverse ++ body) q := by
  induction p generalizing body with
  | nil => rfl
  | cons c p ih =>
    obtain ⟨⟨h1, hmiss⟩, h2, hsilent⟩ := h.imp misses_cons.1 misses_cons.1
    rw [List.cons_append] at h1 h2 ⊢
    rw [branches]
    split
    · next he => simp [h1] at he
    · rw [h2]
      simp only
      rw [ih ⟨hmiss, hsilent⟩]
      simp

lemma elseIf?_of_append_eq_none {d : Dialect} {id cs : List Char} (more : List Char)
    (h : (d.elseIfOpen id).strip? (cs ++ more) = none) : elseIf? d id cs = none := by
  have hmem : d.elseIfOpen id ∈ d.markers id := by simp [Dialect.markers]
  have hclosed := Dialect.closed_of_mem_markers hmem
  rw [elseIf?, Marker.strip?_of_append_eq_none hclosed h]
  rfl

lemma quiet_of_silent {d : Dialect} {id p q : List Char} (more : List Char)
    (ho : (d.elseIfOpen id).Silent p (q ++ more)) (he : (d.elseMarker id).Silent p q) :
    Quiet d id p q := by
  refine ⟨fun t ht hne => elseIf?_of_append_eq_none more ?_, he⟩
  rw [List.append_assoc]
  exact ho t ht hne

lemma branches_of_elseIf? {d : Dialect} {id condition body cs next rest : List Char}
    (h : elseIf? d id cs = some (next, rest)) :
    branches d id condition body cs =
      (⟨condition, body.reverse⟩ :: (branches d id next [] rest).1,
        (branches d id next [] rest).2) := by
  cases cs with
  | nil => cases d <;> simp [elseIf?, Dialect.elseIfOpen, Marker.strip?, stripFolded?] at h
  | cons c cs =>
    rw [branches]
    split
    · next he =>
      obtain ⟨rfl, rfl⟩ := Prod.mk.inj (Option.some.inj (h.symm.trans he))
      rfl
    · next he => simp [h] at he

lemma branches_of_else {d : Dialect} {id condition body cs rest : List Char}
    (h : elseIf? d id cs = none) (he : (d.elseMarker id).strip? cs = some rest) :
    branches d id condition body cs = ([⟨condition, body.reverse⟩], some rest) := by
  cases cs with
  | nil => cases d <;> simp [Dialect.elseMarker, Marker.strip?, stripFolded?] at he
  | cons c cs =>
    rw [branches]
    split
    · next h' => simp [h] at h'
    · rw [he]

lemma elseIfOpen_of_else {d : Dialect} {id cs rest : List Char} (hid : IsId id)
    (h : (d.elseMarker id).strip? cs = some rest) : (d.elseIfOpen id).strip? cs = none := by
  rw [elseMarker_eq, strip?_seek] at h
  obtain ⟨r, hr, hends⟩ := Option.bind_eq_some_iff.1 h
  obtain ⟨u, hu, hr⟩ := Option.bind_eq_some_iff.1 hr
  rw [elseIfOpen_eq, strip?_seek, start_elseIf, stripFolded?_append, hu, Option.bind_some]
  cases hs : stripFolded? foldAscii "-if".toList u with
  | none => rfl
  | some s =>
    -- behind the word there is a dash, but an `else` goes on with its id or its end
    obtain ⟨tail, rfl⟩ := List.head?_eq_some_iff.1 (head_of_strip_dash hs)
    exact absurd (not_isIdLike_of_ends hends '-' (head_of_strip_id hid hr)) (by decide)

end Pressroom.Markup
