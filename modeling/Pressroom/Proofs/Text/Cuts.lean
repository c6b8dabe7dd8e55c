import Pressroom.Proofs.Watch
import Pressroom.Text.Pattern

/-!
Texts cut at the matches of a pattern. The matches are those that are found from the left, each
behind the one before, and no match starts in the text between two of them. Main statements: the
first match is the one with no match in front of it; and to replace the matches of a text is to
visit them in their order, each in the world that the one before has left, and to keep what is
between them.
-/

namespace Pressroom.Text

/-! ### Texts in which nothing starts -/

/-- Nothing of a kind starts in a text with something behind it. -/
def Free (Starts : List Char → Prop) (text behind : List Char) : Prop :=
  ∀ before after, text = before ++ after → after ≠ [] → ¬ Starts (after ++ behind)

section Free

variable {Starts : List Char → Prop}

lemma free_nil (behind : List Char) : Free Starts [] behind :=
  fun _ _ htext hafter => absurd (List.append_eq_nil_iff.1 htext.symm).2 hafter

lemma free_cons_iff {c : Char} {text behind : List Char} :
    Free Starts (c :: text) behind ↔ ¬ Starts (c :: text ++ behind) ∧ Free Starts text behind := by
  constructor
  · intro h
    exact ⟨h [] (c :: text) rfl (List.cons_ne_nil _ _),
      fun before after htext => h (c :: before) after (congrArg (c :: ·) htext)⟩
  · rintro ⟨hhere, htail⟩ before after htext hafter
    cases before with
    | nil =>
      rw [List.nil_append] at htext
      rwa [← htext]
    | cons d before => exact htail before after (List.cons.inj htext).2 hafter

lemma free_or_exists_first (Starts : List Char → Prop) (text behind : List Char) :
    Free Starts text behind ∨ ∃ before after, text = before ++ after ∧ after ≠ [] ∧
      Free Starts before (after ++ behind) ∧ Starts (after ++ behind) := by
  induction text with
  | nil => exact .inl (free_nil behind)
  | cons c text ih =>
    by_cases hhere : Starts (c :: text ++ behind)
    · exact .inr ⟨[], c :: text, rfl, List.cons_ne_nil _ _, free_nil _, hhere⟩
    · rcases ih with hfree | ⟨before, after, rfl, hafter, hfree, hstarts⟩
      · exact .inl (free_cons_iff.2 ⟨hhere, hfree⟩)
      · refine .inr ⟨c :: before, after, rfl, hafter, free_cons_iff.2 ⟨?_, hfree⟩, hstarts⟩
        simpa using hhere

lemma free_iff_length_le {text behind : List Char} :
    Free Starts text behind ↔
      ∀ a b, text ++ behind = a ++ b → Starts b → text.length ≤ a.length := by
  constructor
  · intro h a b hab hstarts
    rcases List.append_eq_append_iff.1 hab with ⟨t, rfl, -⟩ | ⟨t, rfl, rfl⟩
    · simp
    · by_cases ht : t = []
      · simp [ht]
      · exact absurd hstarts (h a t rfl ht)
  · rintro h before after rfl hafter hstarts
    have hle := h before (after ++ behind) (List.append_assoc _ _ _) hstarts
    have hpos := List.length_pos_iff.2 hafter
    rw [List.length_append] at hle
    omega

end Free

namespace Pattern

variable {α : Type} (pattern : Pattern α)

/-! ### Cuts -/

/-- A match stands at the start of a text. -/
def Starts (text : List Char) : Prop :=
  pattern.match? text ≠ none

/-- A text cut at its matches: each with the text in front of it, and the text behind the last. -/
inductive Cuts : List Char → List (List Char × α) → List Char → Prop where
  | last {text : List Char} (hfree : Free pattern.Starts text []) : Cuts text [] text
  | next {before text rest last : List Char} {a : α} {pieces : List (List Char × α)}
      (hfree : Free pattern.Starts before text) (hmatch : pattern.match? text = some (a, rest))
      (h : Cuts rest pieces last) : Cuts (before ++ text) ((before, a) :: pieces) last

variable {pattern}

lemma free_cons_of_none {c : Char} {text behind : List Char}
    (hmatch : pattern.match? (c :: text ++ behind) = none) (h : Free pattern.Starts text behind) :
    Free pattern.Starts (c :: text) behind :=
  free_cons_iff.2 ⟨fun hstarts => hstarts hmatch, h⟩

section Push

variable {c : Char} {text before last : List Char} {a : α} {pieces : List (List Char × α)}
  (hmatch : pattern.match? (c :: text) = none)

include hmatch

lemma Cuts.push_last (h : pattern.Cuts text [] last) : pattern.Cuts (c :: text) [] (c :: last) := by
  cases h with
  | last hfree => exact .last (free_cons_of_none (by rwa [List.append_nil]) hfree)

lemma Cuts.push_next (h : pattern.Cuts text ((before, a) :: pieces) last) :
    pattern.Cuts (c :: text) ((c :: before, a) :: pieces) last := by
  cases h with
  | next hfree hfound hrest => exact .next (free_cons_of_none hmatch hfree) hfound hrest

end Push

lemma parts_of_match {c : Char} {cs rest : List Char} {a : α}
    (h : pattern.match? (c :: cs) = some (a, rest)) :
    pattern.parts (c :: cs) = .found a :: pattern.parts rest := by
  rw [parts]
  split
  · next hfound =>
    cases h.symm.trans hfound
    rfl
  · next hnone => cases h.symm.trans hnone

lemma parts_of_none {c : Char} {cs : List Char} (h : pattern.match? (c :: cs) = none) :
    pattern.parts (c :: cs) = .char c :: pattern.parts cs := by
  rw [parts]
  split
  · next hfound => cases h.symm.trans hfound
  · rfl

lemma Cuts.eq_append {text last : List Char} {pieces : List (List Char × α)}
    (h : pattern.Cuts text pieces last) :
    text = (pieces.flatMap fun piece => piece.1 ++ pattern.spell piece.2) ++ last := by
  induction h with
  | last => rfl
  | next _ hmatch _ ih =>
    rw [List.flatMap_cons, List.append_assoc, ← ih, List.append_assoc,
      ← pattern.spell_append_of_match? hmatch]

lemma Cuts.match_of_mem {text last : List Char} {pieces : List (List Char × α)}
    (h : pattern.Cuts text pieces last) {piece : List Char × α} (hpiece : piece ∈ pieces) :
    ∃ text rest, pattern.match? text = some (piece.2, rest) := by
  induction h with
  | last => cases hpiece
  | next _ hmatch _ ih =>
    rcases List.mem_cons.1 hpiece with rfl | hpiece
    · exact ⟨_, _, hmatch⟩
    · exact ih hpiece

/-! ### Occurrences -/

section Occurrences

variable {before text rest : List Char} {a : α}

lemma ne_nil_of_match? (h : pattern.match? text = some (a, rest)) : text ≠ [] := by
  rintro rfl
  have htext := pattern.spell_append_of_match? h
  exact pattern.spell_ne_nil_of_match? h (List.append_eq_nil_iff.1 htext.symm).1

lemma occurrences_of_match (h : pattern.match? text = some (a, rest)) :
    pattern.occurrences text = a :: pattern.occurrences rest := by
  obtain ⟨c, cs, rfl⟩ := List.exists_cons_of_ne_nil (ne_nil_of_match? h)
  rw [occurrences, parts_of_match h]
  rfl

lemma match?_eq_none_of_not_starts (h : ¬ pattern.Starts text) : pattern.match? text = none :=
  Classical.not_not.1 h

lemma occurrences_append_of_free (h : Free pattern.Starts before text) :
    pattern.occurrences (before ++ text) = pattern.occurrences text := by
  induction before with
  | nil => rfl
  | cons c before ih =>
    obtain ⟨hhere, hfree⟩ := free_cons_iff.1 h
    rw [List.cons_append] at hhere ⊢
    rw [← ih hfree, occurrences, parts_of_none (match?_eq_none_of_not_starts hhere)]
    rfl

lemma occurrences_of_free (h : Free pattern.Starts text []) : pattern.occurrences text = [] := by
  have htext := occurrences_append_of_free h
  rw [List.append_nil] at htext
  rw [htext, occurrences, parts]
  rfl

end Occurrences

/-! ### The first match -/

section First

variable {cs before text after : List Char} {a : α}

lemma first?_of_free (h : Free pattern.Starts text []) : pattern.first? text = none := by
  induction text with
  | nil => rfl
  | cons c text ih =>
    obtain ⟨hhere, hfree⟩ := free_cons_iff.1 h
    rw [List.append_nil] at hhere
    rw [first?, match?_eq_none_of_not_starts hhere, ih hfree]
    rfl

lemma first?_append_of_free (h : Free pattern.Starts before text)
    (hmatch : pattern.match? text = some (a, after)) :
    pattern.first? (before ++ text) = some (before, a, after) := by
  induction before with
  | nil =>
    obtain ⟨c, cs, rfl⟩ := List.exists_cons_of_ne_nil (ne_nil_of_match? hmatch)
    rw [List.nil_append, first?, hmatch]
  | cons c before ih =>
    obtain ⟨hhere, hfree⟩ := free_cons_iff.1 h
    rw [List.cons_append] at hhere ⊢
    rw [first?, match?_eq_none_of_not_starts hhere, ih hfree]
    rfl

lemma first?_cases (pattern : Pattern α) (cs : List Char) :
    (pattern.first? cs = none ∧ Free pattern.Starts cs []) ∨
      ∃ before text a after, pattern.first? cs = some (before, a, after) ∧ cs = before ++ text ∧
        pattern.match? text = some (a, after) ∧ Free pattern.Starts before text := by
  rcases free_or_exists_first pattern.Starts cs [] with
    hfree | ⟨before, text, rfl, -, hfree, hstarts⟩
  · exact .inl ⟨first?_of_free hfree, hfree⟩
  · rw [List.append_nil] at hfree hstarts
    obtain ⟨⟨a, after⟩, hmatch⟩ := Option.ne_none_iff_exists'.1 hstarts
    exact .inr ⟨before, text, a, after, first?_append_of_free hfree hmatch, rfl, hmatch, hfree⟩

/-- **The first match is the one with no match in front of it.** -/
theorem first?_eq_some_iff :
    pattern.first? cs = some (before, a, after) ↔
      ∃ text, cs = before ++ text ∧ pattern.match? text = some (a, after) ∧
        Free pattern.Starts before text := by
  constructor
  · intro h
    rcases first?_cases pattern cs with ⟨hnone, -⟩ | ⟨before', text, a', after', hfirst, hcut⟩
    · cases h.symm.trans hnone
    · cases h.symm.trans hfirst
      exact ⟨text, hcut⟩
  · rintro ⟨text, rfl, hmatch, hfree⟩
    exact first?_append_of_free hfree hmatch

end First

/-! ### Visits -/

/-- What is done about one match. -/
structure Visit (W α : Type) where
  /-- The text between this match and the one before. -/
  before : List Char
  found : α
  world : W
  /-- What stands in the place of the match. -/
  text : List Char
  records : List Record
  worldAfter : W

def Visit.piece {W : Type} (visit : Visit W α) : List Char × α :=
  (visit.before, visit.found)

section Visits

variable {W ν : Type} (replacement : α → StateM W (Logged (List Char)))

/-- Visits one after the other, each in the world that the one before has left. -/
inductive Visits : W → List (Visit W α) → W → Prop where
  | nil (w : W) : Visits w [] w
  | cons {visit : Visit W α} {visits : List (Visit W α)} {w w' : W} (hworld : visit.world = w)
      (hrun : (replacement visit.found).run visit.world =
        (⟨visit.text, visit.records⟩, visit.worldAfter))
      (h : Visits visit.worldAfter visits w') : Visits w (visit :: visits) w'

variable {replacement} {w w' : W} {visits : List (Visit W α)}

lemma Visits.run_of_mem (h : Visits replacement w visits w') :
    ∀ visit ∈ visits, (replacement visit.found).run visit.world =
      (⟨visit.text, visit.records⟩, visit.worldAfter) := by
  induction h with
  | nil => exact nofun
  | cons _ hrun _ ih => exact List.forall_mem_cons.2 ⟨hrun, ih⟩

/-- What comes of visits: the texts, with what is between them. -/
def outcome (visits : List (Visit W α)) (last : List Char) : Logged (List Char) :=
  ⟨(visits.flatMap fun visit => visit.before ++ visit.text) ++ last, visits.flatMap (·.records)⟩

lemma run_replaceParts_char (c : Char) (parts : List (Part α)) (w : W) :
    (replaceParts replacement (.char c :: parts)).run w =
      let rest := (replaceParts replacement parts).run w
      (⟨c :: rest.1.value, rest.1.records⟩, rest.2) :=
  rfl

lemma run_replaceParts_found {a : α} {here : Logged (List Char)}
    (h : (replacement a).run w = (here, w')) (parts : List (Part α)) :
    (replaceParts replacement (.found a :: parts)).run w =
      let rest := (replaceParts replacement parts).run w'
      (⟨here.value ++ rest.1.value, here.records ++ rest.1.records⟩, rest.2) := by
  rw [replaceParts, StateT.run_bind, h]
  rfl

variable (pattern replacement)

/-- **Matches are replaced one after the other**, and what is between them is kept. -/
theorem exists_visits (text : List Char) (w : W) :
    ∃ visits last w',
      pattern.Cuts text (visits.map Visit.piece) last ∧
      Visits replacement w visits w' ∧
      (pattern.replace replacement text).run w = (outcome visits last, w') ∧
      pattern.occurrences text = visits.map Visit.found := by
  unfold replace occurrences
  induction text using parts.induct pattern generalizing w with
  | case1 =>
    rw [parts]
    exact ⟨[], [], w, .last (free_nil _), .nil w, rfl, rfl⟩
  | case2 c cs a rest hmatch hlt ih =>
    rcases hrun : (replacement a).run w with ⟨here, w₁⟩
    obtain ⟨visits, last, w', hcuts, hvisits, hrest, hfound⟩ := ih w₁
    rw [parts_of_match hmatch, run_replaceParts_found hrun, hrest]
    refine ⟨⟨[], a, w, here.value, here.records, w₁⟩ :: visits, last, w',
      .next (free_nil _) hmatch hcuts, .cons rfl hrun hvisits, ?_, congrArg (a :: ·) hfound⟩
    simp [outcome]
  | case3 c cs hmatch ih =>
    obtain ⟨visits, last, w', hcuts, hvisits, hrest, hfound⟩ := ih w
    rw [parts_of_none hmatch, run_replaceParts_char, hrest]
    cases hvisits with
    | nil => exact ⟨[], c :: last, w, hcuts.push_last hmatch, .nil w, rfl, hfound⟩
    | @cons visit visits _ _ hworld hrun hmore =>
      exact ⟨{ visit with before := c :: visit.before } :: visits, last, w',
        hcuts.push_next hmatch, .cons hworld hrun hmore, rfl, hfound⟩

variable {replacement}

lemma notes_replace {watched : α → Watch W ν (Logged (List Char))} {note : α → List ν}
    (hnotes : ∀ a w, Notes (watched a) (replacement a) w (note a)) (text : List Char) (w : W) :
    Notes (pattern.replace watched text) (pattern.replace replacement text) w
      ((pattern.occurrences text).flatMap note) := by
  unfold replace occurrences
  induction pattern.parts text generalizing w with
  | nil => exact notes_pure _ w
  | cons part parts ih =>
    cases part with
    | char c => exact (ih w).bind_quiet (notes_pure _ _)
    | found a => exact (hnotes a w).bind ((ih _).bind_quiet (notes_pure _ _))

end Visits

end Pattern

end Pressroom.Text
