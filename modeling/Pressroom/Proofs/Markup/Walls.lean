import Pressroom.Proofs.Markup.Marker

/-!
Walls. A marker never takes certain characters, and such a character in front of which a match has
to end is a wall: what matches in front of a wall matches without it. A text without a match
therefore gets none from what stands behind the wall, and that is how an expression keeps the
marker that closes it from being found too early.
-/

namespace Pressroom

namespace Text

lemma skipBlanks_wall {z : Char} (hz : isBlank z = false) (cs rest : List Char) :
    skipBlanks (cs ++ z :: rest) = skipBlanks cs ++ z :: rest := by
  induction cs with
  | nil => simp [skipBlanks, hz]
  | cons c cs ih =>
    by_cases hc : isBlank c = true
    · simpa [skipBlanks, hc] using ih
    · simp [skipBlanks, hc]

lemma stripFolded?_wall {fold : Char → Char} {z : Char} {t : List Char}
    (hz : ∀ c ∈ t, fold z ≠ fold c) {cs rest r : List Char}
    (h : stripFolded? fold t (cs ++ z :: rest) = some r) :
    ∃ s, stripFolded? fold t cs = some s ∧ r = s ++ z :: rest := by
  obtain ⟨word, hword, hfold⟩ := stripFolded?_eq_some_iff.1 h
  have hnot : z ∉ word := by
    intro hmem
    have hmap : fold z ∈ t.map fold := hfold ▸ List.mem_map_of_mem hmem
    obtain ⟨c, hc, he⟩ := List.mem_map.1 hmap
    exact hz c hc he.symm
  rcases List.append_eq_append_iff.1 hword with ⟨u, hu, hr⟩ | ⟨u, rfl, hr⟩
  · -- the word would reach over the wall
    cases u with
    | nil =>
      rw [List.append_nil] at hu
      subst hu
      exact ⟨[], stripFolded?_eq_some_iff.2 ⟨word, by simp, hfold⟩, by simpa using hr.symm⟩
    | cons x u =>
      obtain ⟨rfl, -⟩ := List.cons.inj hr
      exact absurd (by simp [hu]) hnot
  · exact ⟨u, stripFolded?_eq_some_iff.2 ⟨word, rfl, hfold⟩, hr⟩

end Text

namespace Markup

open Text

/-- The piece takes no character that is like this one. -/
def Piece.Refuses (z : Char) : Piece → Prop
  | text t => ∀ c ∈ t, foldAscii z ≠ foldAscii c
  | blanks => isBlank z = false
  | slash => z ≠ '/'
  | quote => isQuote z = false

instance (z : Char) : DecidablePred (Piece.Refuses z)
  | .text t => inferInstanceAs (Decidable (∀ c ∈ t, foldAscii z ≠ foldAscii c))
  | .blanks => inferInstanceAs (Decidable (isBlank z = false))
  | .slash => inferInstanceAs (Decidable (z ≠ '/'))
  | .quote => inferInstanceAs (Decidable (isQuote z = false))

namespace Marker

lemma strip?_append (m n : Marker) (cs : List Char) :
    strip? (m ++ n) cs = (m.strip? cs).bind n.strip? := by
  induction m generalizing cs with
  | nil => rfl
  | cons piece m ih =>
    cases piece with
    | text t =>
      simp only [List.cons_append, strip?_text, Option.bind_assoc]
      exact Option.bind_congr fun r _ => ih r
    | blanks => exact ih _
    | slash => exact ih _
    | quote =>
      simp only [List.cons_append, strip?, Option.bind_assoc]
      exact Option.bind_congr fun r _ => ih r

lemma skipSlash_wall {z : Char} (hz : z ≠ '/') (cs rest : List Char) :
    skipSlash (cs ++ z :: rest) = skipSlash cs ++ z :: rest := by
  cases cs with
  | nil => simp [skipSlash, hz]
  | cons c cs => exact skipSlash_append (List.cons_ne_nil c cs)

lemma afterQuote?_wall {z : Char} (hz : isQuote z = false) {cs rest r : List Char}
    (h : afterQuote? (cs ++ z :: rest) = some r) :
    ∃ s, afterQuote? cs = some s ∧ r = s ++ z :: rest := by
  cases cs with
  | nil => simp [afterQuote?, hz] at h
  | cons c cs =>
    by_cases hc : isQuote c = true
    · simp only [List.cons_append, afterQuote?, hc, if_true, Option.some.injEq] at h
      exact ⟨cs, by simp [afterQuote?, hc], h.symm⟩
    · simp [afterQuote?, hc] at h

lemma strip?_wall {marker : Marker} {z : Char} (hz : ∀ p ∈ marker, p.Refuses z)
    {cs rest r : List Char} (h : marker.strip? (cs ++ z :: rest) = some r) :
    ∃ s, marker.strip? cs = some s ∧ r = s ++ z :: rest := by
  induction marker generalizing cs with
  | nil => exact ⟨cs, rfl, (Option.some.inj h).symm⟩
  | cons piece marker ih =>
    have hpiece := hz piece (by simp)
    have ih {cs : List Char} := @ih (fun p hp => hz p (List.mem_cons_of_mem _ hp)) cs
    cases piece with
    | text t =>
      obtain ⟨r1, hr1, h⟩ := Option.bind_eq_some_iff.1 h
      obtain ⟨s1, hs1, rfl⟩ := stripFolded?_wall hpiece hr1
      obtain ⟨s, hs, rfl⟩ := ih h
      exact ⟨s, Option.bind_eq_some_iff.2 ⟨s1, hs1, hs⟩, rfl⟩
    | blanks =>
      rw [strip?, skipBlanks_wall hpiece] at h
      exact ih h
    | slash =>
      rw [strip?, skipSlash_wall hpiece] at h
      exact ih h
    | quote =>
      obtain ⟨r1, hr1, h⟩ := Option.bind_eq_some_iff.1 h
      obtain ⟨s1, hs1, rfl⟩ := afterQuote?_wall hpiece hr1
      obtain ⟨s, hs, rfl⟩ := ih h
      exact ⟨s, Option.bind_eq_some_iff.2 ⟨s1, hs1, hs⟩, rfl⟩

/-- The marker takes a character of its own and goes on as another one. -/
def Leads (marker next : Marker) : Prop :=
  ∀ c, (∀ cs, marker.strip? (c :: cs) = next.strip? cs) ∨ ∀ cs, marker.strip? (c :: cs) = none

lemma leads_text (x : Char) (t : List Char) (marker : Marker) :
    Leads (.text (x :: t) :: marker) (.text t :: marker) := by
  intro c
  by_cases hc : foldAscii c = foldAscii x
  · exact .inl fun cs => by simp [strip?_text, stripFolded?, hc]
  · exact .inr fun cs => by simp [strip?_text, stripFolded?, hc]

lemma leads_quote (marker : Marker) : Leads (.quote :: marker) marker := by
  intro c
  by_cases hc : isQuote c = true
  · exact .inl fun cs => by simp [strip?, afterQuote?, hc]
  · exact .inr fun cs => by simp [strip?, afterQuote?, hc]

/-- **No match comes over a wall**: where a text has no match, it has none in front of a character
that the marker only takes first, if at all. -/
lemma silent_wall {marker next : Marker} (hlead : marker.Leads next) {z : Char}
    (hz : ∀ p ∈ next, p.Refuses z) {e : List Char} (h : marker.cut? e = none) (rest : List Char) :
    marker.Silent e (z :: rest) := by
  have hsilent := cut?_eq_none_iff.1 h
  intro t ht hne
  obtain ⟨c, t, rfl⟩ := List.exists_cons_of_ne_nil hne
  have hnone := hsilent _ ht hne
  rw [List.append_nil] at hnone
  rcases hlead c with hc | hc
  · rw [List.cons_append, hc]
    rw [hc] at hnone
    cases hs : next.strip? (t ++ z :: rest) with
    | none => rfl
    | some r =>
      obtain ⟨s, hs, -⟩ := strip?_wall hz hs
      simp [hnone] at hs
  · exact hc _

lemma cut?_wall {marker next : Marker} (hlead : marker.Leads next) {z : Char}
    (hz : ∀ p ∈ next, p.Refuses z) {e tail rest : List Char} (h : marker.cut? e = none)
    (hs : marker.strip? (z :: tail) = some rest) : marker.cut? (e ++ z :: tail) = some (e, rest) :=
  cut?_eq_some_iff.2 ⟨z :: tail, rfl, by simp, hs, silent_wall hlead hz h tail⟩

end Marker

end Markup

end Pressroom
