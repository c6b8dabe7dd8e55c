import Mathlib.Computability.Language
import Pressroom.Proofs.Markup.Definitions
import Pressroom.Proofs.Markup.Finding

/-!
Markers as regular expressions. Each part of a marker stands for a language, and a marker for the
words of its parts one after the other, however the characters are shared out between them. A marker
is read greedily and without going back. Main statement: for every marker that is looked for, this
comes to the same, in a text and in its bytes. A match at a place has one end only, and the first
match in a text is the one that starts first.

The reason is that no part can take what the next one needs, which is checked on the parts alone. In
bytes it also takes that a marker starts with a single byte, which is not found inside a character.
-/

namespace Pressroom.Markup

open Text Scan
open scoped Computability

/-! ### What markers stand for -/

/-- The words that are a single blank. -/
def blankWords : Language Char :=
  {word | ∃ c, isBlank c = true ∧ word = [c]}

/-- The words of a part of a marker. Small and capital letters are the same in a text, the letters
`A` to `Z` only. -/
def Piece.language : Piece → Language Char
  | .text t => {word | word.map Char.toLower = t.map Char.toLower}
  | .blanks => blankWords∗
  | .slash => 1 + {['/']}
  | .quote => {['\'']} + {['"']}

namespace Marker

/-- The words of a marker. -/
def language (marker : Marker) : Language Char :=
  (marker.map Piece.language).prod

/-- The marker, read as an expression, matches a text from one position up to another. -/
structure MatchAt (marker : Marker) (text : List Char) (start stop : ℕ) : Prop where
  start_le : start ≤ stop
  stop_le : stop ≤ text.length
  word_mem : (text.take stop).drop start ∈ marker.language

/-- The markers that are looked for: those of either dialect with any id, the end of an expression,
and the closers of sections of any name. -/
inductive InUse : Marker → Prop where
  | ofDialect {d : Dialect} {id : List Char} {marker : Marker} (h : marker ∈ d.markers id) :
      InUse marker
  | styleClose (d : Dialect) : InUse d.styleClose
  | expressionEnd : InUse [.text ['}', '}']]
  | closer (name : List Char) (d : Dialect) : InUse (d.closerOf name)

/-- What is read of a marker from a position of a text on is what its expression matches there. -/
structure ReadsLanguage (marker : Marker) (text : List Char) (start : ℕ) : Prop where
  strip?_iff : ∀ rest, marker.strip? (text.drop start) = some rest ↔
    ∃ stop, marker.MatchAt text start stop ∧ rest = text.drop stop
  /-- No other end is possible. -/
  stop_unique : ∀ stop stop', marker.MatchAt text start stop → marker.MatchAt text start stop' →
    stop = stop'
  /-- The first match is the one with the smallest start. -/
  cut?_iff : ∀ before rest, marker.cut? (text.drop start) = some (before, rest) ↔
    ∃ place stop, start ≤ place ∧ marker.MatchAt text place stop ∧
      (∀ place' stop', start ≤ place' → marker.MatchAt text place' stop' → place ≤ place') ∧
      before = (text.take place).drop start ∧ rest = text.drop stop
  cut?_none_iff : marker.cut? (text.drop start) = none ↔
    ∀ place stop, start ≤ place → ¬ marker.MatchAt text place stop

/-- The marker, read as an expression, matches a text between two places, which are given by how
many bytes stand before them. -/
def MatchBetween (marker : Marker) (text : List Char) (place after : ℕ) : Prop :=
  ∃ word rest, word ∈ marker.language ∧ At text place (word ++ rest) ∧ after = place + size word

/-- What the scanner finds at a number of bytes, which may be no place, is what the expression of
the marker matches there; and what it finds from there on is the match with the smallest start. -/
structure FindsLanguage (marker : Marker) (text : List Char) (start : ℕ) : Prop where
  matchAt : ∃ answer, matchAt text marker start = found answer ∧
    ∀ after, answer = some after ↔ marker.MatchBetween text start after
  find : ∃ answer, find text marker start = found answer ∧
    (∀ place after, answer = some (place, after) ↔
      start ≤ place ∧ marker.MatchBetween text place after ∧
        ∀ place' after', start ≤ place' → marker.MatchBetween text place' after' →
          place ≤ place') ∧
    (answer = none ↔ ∀ place after, start ≤ place → ¬ marker.MatchBetween text place after)

/-! ### Words of a marker -/

lemma mem_language_nil {word : List Char} : word ∈ language [] ↔ word = [] := by
  rw [language, List.map_nil, List.prod_nil, Language.mem_one]

lemma mem_language_cons {piece : Piece} {marker : Marker} {word : List Char} :
    word ∈ language (piece :: marker) ↔
      ∃ a b, a ∈ piece.language ∧ b ∈ marker.language ∧ word = a ++ b := by
  rw [language, List.map_cons, List.prod_cons, Language.mem_mul]
  constructor
  · rintro ⟨a, ha, b, hb, rfl⟩
    exact ⟨a, b, ha, hb, rfl⟩
  · rintro ⟨a, b, ha, hb, rfl⟩
    exact ⟨a, ha, b, hb, rfl⟩

lemma mem_language_text {t word : List Char} :
    word ∈ (Piece.text t).language ↔ word.map foldAscii = t.map foldAscii := Iff.rfl

lemma mem_language_blanks {word : List Char} :
    word ∈ Piece.blanks.language ↔ ∀ c ∈ word, isBlank c = true := by
  rw [Piece.language, Language.mem_kstar]
  constructor
  · rintro ⟨words, rfl, hwords⟩ c hc
    obtain ⟨one, hone, hc⟩ := List.mem_flatten.1 hc
    obtain ⟨blank, hblank, rfl⟩ := hwords one hone
    rwa [List.mem_singleton.1 hc]
  · intro hall
    refine ⟨word.map ([·]), ?_, fun one hone => ?_⟩
    · rw [← List.flatMap_def, List.flatMap_singleton']
    · obtain ⟨c, hc, rfl⟩ := List.mem_map.1 hone
      exact ⟨c, hall c hc, rfl⟩

lemma mem_language_slash {word : List Char} :
    word ∈ Piece.slash.language ↔ word = [] ∨ word = ['/'] := Iff.rfl

lemma mem_language_quote {word : List Char} :
    word ∈ Piece.quote.language ↔ ∃ q, isQuote q = true ∧ word = [q] := by
  simp only [isQuote, Bool.or_eq_true, beq_iff_eq]
  constructor
  · rintro (rfl | rfl)
    · exact ⟨_, .inl rfl, rfl⟩
    · exact ⟨_, .inr rfl, rfl⟩
  · rintro ⟨q, rfl | rfl, rfl⟩
    · exact .inl rfl
    · exact .inr rfl

/-! ### No part takes what the next one needs -/

/-- Every word of the marker starts with a character that passes a test. -/
def leads (test : Char → Bool) : Marker → Bool
  | .text t :: _ => t.head?.any test
  | .quote :: _ => test '\'' && test '"'
  | .slash :: marker => test '/' && leads test marker
  | _ => false

/-- Behind blanks there is something that starts with none, and behind a slash that may be missing
something that starts with no slash. -/
def orderly : Marker → Bool
  | [] => true
  | .text _ :: marker | .quote :: marker => orderly marker
  | .blanks :: marker => leads (fun c => !isBlank c) marker && orderly marker
  | .slash :: marker => leads counts marker && orderly marker

lemma isBlank_foldAscii (c : Char) : isBlank (foldAscii c) = isBlank c := by
  by_cases hc : c = '/'
  · subst hc
    decide
  · have hfold : foldAscii c ≠ '/' := fun h => hc (eq_of_foldAscii (by decide) h)
    have hcounts := counts_foldAscii c
    rw [counts, counts, bne_iff_ne.2 hc, bne_iff_ne.2 hfold, Bool.and_true, Bool.and_true] at hcounts
    exact Bool.not_inj hcounts

lemma exists_head_of_leads {test : Char → Bool} (htest : ∀ c, test (foldAscii c) = test c)
    {marker : Marker} (h : marker.leads test = true) {word : List Char}
    (hword : word ∈ marker.language) : ∃ c ∈ word.head?, test c = true := by
  induction marker generalizing word with
  | nil => cases h
  | cons piece marker ih =>
    obtain ⟨a, b, ha, hb, rfl⟩ := mem_language_cons.1 hword
    cases piece with
    | text t =>
      obtain ⟨x, hx, htestx⟩ := (Option.any_eq_true _ _).1 h
      obtain ⟨t, rfl⟩ := List.head?_eq_some_iff.1 hx
      have ha := mem_language_text.1 ha
      obtain ⟨c, a, rfl⟩ := List.exists_cons_of_ne_nil
        (show a ≠ [] by rintro rfl; simp at ha)
      refine ⟨c, rfl, ?_⟩
      rw [← htest, (List.cons.inj ha).1, htest, htestx]
    | blanks => cases h
    | slash =>
      obtain ⟨hslash, hmarker⟩ := Bool.and_eq_true_iff.1 h
      rcases mem_language_slash.1 ha with rfl | rfl
      · exact ih hmarker hb
      · exact ⟨'/', rfl, hslash⟩
    | quote =>
      obtain ⟨hsingle, hdouble⟩ := Bool.and_eq_true_iff.1 h
      rcases ha with rfl | rfl
      · exact ⟨'\'', rfl, hsingle⟩
      · exact ⟨'"', rfl, hdouble⟩

end Marker

namespace Takes

variable {p : List Char → Option (List Char)} {P : List Char → Prop}

lemma skipSlash (hp : Takes p P) (hhead : ∀ text, P text → ∃ c ∈ text.head?, c ≠ '/') :
    Takes (fun cs => p (skipSlash cs)) fun text =>
      ∃ slash a, (slash = [] ∨ slash = ['/']) ∧ P a ∧ text = slash ++ a := by
  intro cs rest
  constructor
  · intro h
    obtain ⟨a, ha, hcs⟩ := (hp _ _).1 h
    unfold Markup.skipSlash at hcs
    split at hcs
    · exact ⟨'/' :: a, ⟨['/'], a, .inr rfl, ha, rfl⟩, by rw [hcs]; rfl⟩
    · exact ⟨a, ⟨[], a, .inl rfl, ha, rfl⟩, hcs⟩
  · rintro ⟨_, ⟨slash, a, hslash, ha, rfl⟩, rfl⟩
    obtain ⟨c, hc, hne⟩ := hhead a ha
    obtain ⟨a, rfl⟩ := List.head?_eq_some_iff.1 hc
    refine (hp _ _).2 ⟨c :: a, ha, ?_⟩
    rcases hslash with rfl | rfl
    · simp [Markup.skipSlash, hne]
    · rfl

end Takes

lemma takes_afterQuote? : Takes afterQuote? fun text => ∃ q, isQuote q = true ∧ text = [q] := by
  intro cs rest
  constructor
  · intro h
    obtain ⟨q, hq, rfl⟩ := Marker.eq_cons_of_afterQuote? h
    exact ⟨[q], ⟨q, hq, rfl⟩, rfl⟩
  · rintro ⟨_, ⟨q, hq, rfl⟩, rfl⟩
    simp [afterQuote?, hq]

namespace Marker

/-- **Greedy reading is matching.** By induction on the parts: what a part takes is what it matches,
since the rest of the marker starts with nothing that it could take too. -/
theorem takes_language {marker : Marker} (h : marker.orderly = true) :
    Takes marker.strip? (· ∈ marker.language) := by
  induction marker with
  | nil =>
    intro cs rest
    simp [strip?, mem_language_nil]
  | cons piece marker ih =>
    cases piece with
    | text t =>
      refine ((takes_word foldAscii t).bind (ih h)).congr fun word => ?_
      rw [mem_language_cons]
      rfl
    | blanks =>
      obtain ⟨hleads, h⟩ := Bool.and_eq_true_iff.1 h
      refine ((ih h).skipBlanks fun word hword => ?_).congr fun word => ?_
      · obtain ⟨c, hc, hblank⟩ := exists_head_of_leads
          (fun c => congrArg not (isBlank_foldAscii c)) hleads hword
        exact ⟨c, hc, by simpa using hblank⟩
      · rw [mem_language_cons]
        simp only [mem_language_blanks]
    | slash =>
      obtain ⟨hleads, h⟩ := Bool.and_eq_true_iff.1 h
      refine ((ih h).skipSlash fun word hword => ?_).congr fun word => ?_
      · obtain ⟨c, hc, hcounts⟩ := exists_head_of_leads counts_foldAscii hleads hword
        refine ⟨c, hc, ?_⟩
        rintro rfl
        exact absurd hcounts (by decide)
      · rw [mem_language_cons]
        rfl
    | quote =>
      refine (takes_afterQuote?.bind (ih h)).congr fun word => ?_
      rw [mem_language_cons]
      simp only [mem_language_quote]

/-! ### The markers that are looked for -/

/-- A marker that is looked for starts with no blank, and no part of it takes what the next one
needs. -/
lemma InUse.orderly {marker : Marker} (h : marker.InUse) :
    marker.leads (fun c => !isBlank c) = true ∧ marker.orderly = true := by
  cases h with
  | @ofDialect d id marker h =>
    simp only [Dialect.markers, List.mem_cons, List.not_mem_nil, or_false] at h
    cases d <;> rcases h with rfl | rfl | rfl | rfl | rfl | rfl | rfl | rfl <;>
      exact ⟨rfl, rfl⟩
  | styleClose d => cases d <;> exact ⟨rfl, rfl⟩
  | expressionEnd => exact ⟨rfl, rfl⟩
  | closer name d => cases d <;> exact ⟨rfl, rfl⟩

/-! ### Positions -/

section Positions

variable {marker : Marker} {text before rest : List Char} {start place stop : ℕ}

lemma drop_eq_append (hplace : start ≤ place) (hlength : place ≤ text.length) :
    text.drop start = (text.take place).drop start ++ text.drop place ∧
      ((text.take place).drop start).length = place - start := by
  have htake : (text.take place).length = place := List.length_take_of_le hlength
  refine ⟨?_, by rw [List.length_drop, htake]⟩
  conv_lhs => rw [← List.take_append_drop place text]
  rw [List.drop_append_of_le_length (htake.symm ▸ hplace)]

lemma MatchAt.drop_eq (h : marker.MatchAt text start stop) :
    text.drop start = (text.take stop).drop start ++ text.drop stop :=
  (drop_eq_append h.start_le h.stop_le).1

lemma matchAt_of_append {word : List Char} (hne : word ≠ []) (hword : word ∈ marker.language)
    (h : text.drop start = word ++ rest) :
    marker.MatchAt text start (start + word.length) ∧
      rest = text.drop (start + word.length) := by
  have hlength := congrArg List.length h
  rw [List.length_drop, List.length_append] at hlength
  have hpos := List.length_pos_iff.2 hne
  have htake : (text.take (start + word.length)).drop start = word := by
    rw [List.drop_take, Nat.add_sub_cancel_left, h, List.take_left]
  refine ⟨⟨Nat.le_add_right _ _, by omega, htake.symm ▸ hword⟩, ?_⟩
  rw [← List.drop_drop, h, List.drop_left]

namespace InUse

variable (h : marker.InUse)
include h

lemma takes_language : Takes marker.strip? (· ∈ marker.language) :=
  Marker.takes_language h.orderly.2

lemma nil_not_mem : [] ∉ marker.language := by
  intro hnil
  obtain ⟨c, hc, -⟩ :=
    exists_head_of_leads (fun c => congrArg not (isBlank_foldAscii c)) h.orderly.1 hnil
  cases hc

lemma exists_matchAt {word : List Char} (hword : word ∈ marker.language)
    (htext : text.drop start = word ++ rest) :
    ∃ stop, marker.MatchAt text start stop ∧ rest = text.drop stop :=
  ⟨_, matchAt_of_append (fun hnil => h.nil_not_mem (hnil ▸ hword)) hword htext⟩

lemma strip?_iff (rest : List Char) : marker.strip? (text.drop start) = some rest ↔
    ∃ stop, marker.MatchAt text start stop ∧ rest = text.drop stop := by
  rw [h.takes_language]
  constructor
  · rintro ⟨word, hword, htext⟩
    exact h.exists_matchAt hword htext
  · rintro ⟨stop, hmatch, rfl⟩
    exact ⟨_, hmatch.word_mem, hmatch.drop_eq⟩

lemma stop_unique {stop' : ℕ} (hstop : marker.MatchAt text start stop)
    (hstop' : marker.MatchAt text start stop') : stop = stop' := by
  have hread := (h.strip?_iff _).2 ⟨stop, hstop, rfl⟩
  have hread' := (h.strip?_iff _).2 ⟨stop', hstop', rfl⟩
  have hlength := congrArg List.length (Option.some.inj (hread.symm.trans hread'))
  rw [List.length_drop, List.length_drop] at hlength
  have hle := hstop.stop_le
  have hle' := hstop'.stop_le
  omega

lemma shortest_iff (hplace : start ≤ place) (hlength : place ≤ text.length) :
    Shortest (· ∈ marker.language) ((text.take place).drop start) (text.drop place) ↔
      ∀ place' stop', start ≤ place' → marker.MatchAt text place' stop' → place ≤ place' := by
  obtain ⟨hsplit, hbefore⟩ := drop_eq_append hplace hlength
  constructor
  · intro hshort place' stop' hplace' hmatch
    obtain ⟨hsplit', hbefore'⟩ :=
      drop_eq_append hplace' (hmatch.start_le.trans hmatch.stop_le)
    have hle := hshort _ _ (text.drop stop') hmatch.word_mem
      (by rw [← hsplit, hsplit', hmatch.drop_eq])
    rw [hbefore, hbefore'] at hle
    omega
  · intro hfirst before' word rest hword heq
    rw [← hsplit] at heq
    have htail : text.drop (start + before'.length) = word ++ rest := by
      rw [← List.drop_drop, heq, List.drop_left]
    obtain ⟨stop', hmatch, -⟩ := h.exists_matchAt hword htail
    have hle := hfirst _ stop' (Nat.le_add_right _ _) hmatch
    rw [hbefore]
    omega

lemma cut?_iff : marker.cut? (text.drop start) = some (before, rest) ↔
    ∃ place stop, start ≤ place ∧ marker.MatchAt text place stop ∧
      (∀ place' stop', start ≤ place' → marker.MatchAt text place' stop' → place ≤ place') ∧
      before = (text.take place).drop start ∧ rest = text.drop stop := by
  rw [h.takes_language.cut?_eq_some_iff h.nil_not_mem]
  constructor
  · rintro ⟨word, hword, htext, hshort⟩
    have htail : text.drop (start + before.length) = word ++ rest := by
      rw [← List.drop_drop, htext, List.drop_left]
    obtain ⟨stop, hmatch, hrest⟩ := h.exists_matchAt hword htail
    have hbefore : before = (text.take (start + before.length)).drop start := by
      rw [List.drop_take, Nat.add_sub_cancel_left, htext, List.take_left]
    rw [← htail] at hshort
    refine ⟨_, stop, Nat.le_add_right _ _, hmatch, ?_, hbefore, hrest⟩
    rw [← h.shortest_iff (Nat.le_add_right _ _) (hmatch.start_le.trans hmatch.stop_le), ← hbefore]
    exact hshort
  · rintro ⟨place, stop, hplace, hmatch, hfirst, rfl, rfl⟩
    have hlength := hmatch.start_le.trans hmatch.stop_le
    refine ⟨_, hmatch.word_mem, ?_, ?_⟩
    · rw [← hmatch.drop_eq]
      exact (drop_eq_append hplace hlength).1
    · rw [← hmatch.drop_eq]
      exact (h.shortest_iff hplace hlength).2 hfirst

lemma cut?_none_iff : marker.cut? (text.drop start) = none ↔
    ∀ place stop, start ≤ place → ¬ marker.MatchAt text place stop := by
  constructor
  · intro hnone place stop hplace hmatch
    have hlength := hmatch.start_le.trans hmatch.stop_le
    obtain ⟨cut, hcut⟩ := h.takes_language.exists_cut? h.nil_not_mem hmatch.word_mem
      ((text.take place).drop start) (text.drop stop)
    rw [← hmatch.drop_eq, ← (drop_eq_append hplace hlength).1, hnone] at hcut
    cases hcut
  · intro hsilent
    cases hcut : marker.cut? (text.drop start) with
    | none => rfl
    | some cut =>
      obtain ⟨place, stop, hplace, hmatch, -⟩ := h.cut?_iff.1 hcut
      exact absurd hmatch (hsilent place stop hplace)

end InUse

end Positions

/-! ### Places -/

section Places

variable {marker : Marker} {text : List Char} {pos start place after : ℕ}

lemma place_cases (text : List Char) (pos : ℕ) :
    (∃ cs, At text pos cs) ∨
      (∃ before c cs k, At text before (c :: cs) ∧ pos = before + k ∧ 0 < k ∧ k < c.utf8Size) ∨
        size text < pos := by
  induction text generalizing pos with
  | nil =>
    rcases Nat.eq_zero_or_pos pos with rfl | hpos
    · exact .inl ⟨[], .zero []⟩
    · exact .inr (.inr hpos)
  | cons c text ih =>
    have hbehind {n : ℕ} {cs : List Char} (h : At text n cs) :
        At (c :: text) (c.utf8Size + n) cs := by
      obtain ⟨before, rfl, rfl⟩ := h
      exact ⟨c :: before, rfl, size_cons c before⟩
    by_cases hpos : pos < c.utf8Size
    · rcases Nat.eq_zero_or_pos pos with rfl | hinside
      · exact .inl ⟨_, .zero _⟩
      · exact .inr (.inl ⟨0, c, text, pos, .zero _, (Nat.zero_add pos).symm, hinside, hpos⟩)
    · obtain ⟨n, rfl⟩ := Nat.exists_eq_add_of_le (not_lt.1 hpos)
      rcases ih n with ⟨cs, h⟩ | ⟨before, d, cs, k, h, rfl, hk⟩ | h
      · exact .inl ⟨cs, hbehind h⟩
      · exact .inr (.inl ⟨_, d, cs, k, hbehind h, (Nat.add_assoc _ _ _).symm, hk⟩)
      · refine .inr (.inr ?_)
        rw [size_cons]
        omega

lemma not_couldStart_of_no_place (marker : Marker) (h : ∀ cs, ¬ At text pos cs) :
    (bytes text)[pos]?.any (couldStart marker) = false := by
  rcases place_cases text pos with ⟨cs, hcs⟩ | ⟨before, c, cs, k, hcs, rfl, hk, hlt⟩ | hlong
  · exact absurd hcs (h cs)
  · exact couldStart_inside hcs marker hk hlt
  · rw [List.getElem?_eq_none hlong.le]
    rfl

lemma matchAt_of_not_couldStart (hled : marker.ByteLed)
    (h : (bytes text)[pos]?.any (couldStart marker) = false) :
    matchAt text marker pos = found none := by
  match marker, hled with
  | .text (p :: t) :: marker, hp =>
    have hstarts : startsAt text pos (p :: t) = false := by
      by_contra hstarts
      rw [Bool.not_eq_false, startsAt, Bool.and_eq_true, beq_iff_eq, bytes_cons,
        utf8EncodeChar_of_lt hp, size_cons, utf8Size_of_lt hp, Nat.add_comm 1] at hstarts
      have hhead : ((bytes text).drop pos).head? = (bytes text)[pos]? := List.head?_drop
      cases hdrop : (bytes text).drop pos with
      | nil =>
        rw [hdrop] at hstarts
        cases hstarts.2
      | cons b more =>
        rw [hdrop, List.take_succ_cons, List.map_cons, List.singleton_append, List.map_cons] at hstarts
        rw [hdrop] at hhead
        rw [← hhead, List.head?_cons, Option.any_some, couldStart_text hp, beq_eq_false_iff_ne] at h
        exact h (List.cons.inj hstarts.2).1
    rw [Markup.matchAt, hstarts]
    rfl
  | .quote :: marker, _ =>
    have hquote : (byteAt text pos '\'' || byteAt text pos '"') = false := by
      rw [byteAt, byteAt]
      cases hb : (bytes text)[pos]? with
      | none => rfl
      | some b => simpa [couldStart, hb] using h
    rw [Markup.matchAt, hquote]
    rfl

namespace InUse

variable (h : marker.InUse)
include h

lemma byteLed : marker.ByteLed := by
  cases h with
  | @ofDialect d id marker h =>
    simp only [Dialect.markers, List.mem_cons, List.not_mem_nil, or_false] at h
    cases d <;> rcases h with rfl | rfl | rfl | rfl | rfl | rfl | rfl | rfl <;>
      first
        | exact Nat.le_of_ble_eq_true rfl
        | trivial
  | styleClose d => cases d <;> exact Nat.le_of_ble_eq_true rfl
  | expressionEnd => exact Nat.le_of_ble_eq_true rfl
  | closer name d => cases d <;> exact Nat.le_of_ble_eq_true rfl

lemma matchBetween_iff {cs : List Char} (hplace : At text pos cs) :
    marker.MatchBetween text pos after ↔
      ∃ rest, marker.strip? cs = some rest ∧ At text after rest := by
  simp only [h.takes_language cs, MatchBetween]
  constructor
  · rintro ⟨word, rest, hword, hat, rfl⟩
    have hcs : cs = word ++ rest := Option.some.inj (hplace.from?_eq.symm.trans hat.from?_eq)
    exact ⟨rest, ⟨word, hword, hcs⟩, hat.forward⟩
  · rintro ⟨rest, ⟨word, hword, rfl⟩, hafter⟩
    have hsize := hafter.size_eq
    rw [hplace.forward.size_eq] at hsize
    exact ⟨word, rest, hword, hplace, by omega⟩

lemma matchAt_found (text : List Char) (pos : ℕ) :
    ∃ answer, matchAt text marker pos = found answer ∧
      ∀ after, answer = some after ↔ marker.MatchBetween text pos after := by
  by_cases hplace : ∃ cs, At text pos cs
  · obtain ⟨cs, hcs⟩ := hplace
    have harrives := matchAt_arrives marker hcs
    cases hs : marker.strip? cs with
    | none =>
      rw [hs] at harrives
      refine ⟨none, harrives, fun after => ?_⟩
      rw [h.matchBetween_iff hcs, hs]
      simp
    | some rest =>
      rw [hs] at harrives
      obtain ⟨stop, hstop, hat⟩ := harrives
      refine ⟨some stop, hstop, fun after => ?_⟩
      rw [h.matchBetween_iff hcs, hs]
      constructor
      · rintro ⟨⟩
        exact ⟨rest, rfl, hat⟩
      · rintro ⟨_, ⟨⟩, hafter⟩
        have hsize := hat.size_eq
        rw [hafter.size_eq] at hsize
        exact congrArg some (by omega)
  · have hno : ∀ cs, ¬ At text pos cs := not_exists.1 hplace
    refine ⟨none, matchAt_of_not_couldStart h.byteLed
      (not_couldStart_of_no_place marker hno), fun after => ?_⟩
    exact iff_of_false nofun fun ⟨word, rest, _, hat, _⟩ => hno _ hat

lemma couldStart_of_matchBetween (hmatch : marker.MatchBetween text pos after) :
    (bytes text)[pos]?.any (couldStart marker) = true := by
  by_contra hbyte
  rw [Bool.not_eq_true] at hbyte
  obtain ⟨answer, hanswer, hiff⟩ := h.matchAt_found text pos
  rw [matchAt_of_not_couldStart h.byteLed hbyte] at hanswer
  have hnone : none = answer := Option.some.inj hanswer
  cases hnone.trans ((hiff after).2 hmatch)

lemma matchBetween_lt (hmatch : marker.MatchBetween text pos after) : pos < size text := by
  obtain ⟨word, rest, hword, hat, -⟩ := hmatch
  have hpos := size_pos (fun hnil : word = [] => h.nil_not_mem (hnil ▸ hword))
  have hsize := hat.size_eq
  rw [size_append] at hsize
  omega

lemma findAmong_found (text : List Char) (start count : ℕ) :
    ∃ answer, findAmong text marker (List.range' start count) = found answer ∧
      match answer with
      | none => ∀ place after, start ≤ place → place < start + count →
          ¬ marker.MatchBetween text place after
      | some (place, after) => start ≤ place ∧ marker.MatchBetween text place after ∧
          ∀ place' after', start ≤ place' → marker.MatchBetween text place' after' →
            place ≤ place' := by
  -- by induction on the number of bytes that are tried
  induction count generalizing start with
  | zero => exact ⟨none, rfl, fun place after hle hlt => by omega⟩
  | succ count ih =>
    obtain ⟨answer, hanswer, hrest⟩ := ih (start + 1)
    obtain ⟨here, hhere, hmatch⟩ := h.matchAt_found text start
    rw [List.range'_succ, findAmong, hhere]
    by_cases hstop : ∃ stop, here = some stop
    · obtain ⟨stop, rfl⟩ := hstop
      have hfirst := (hmatch stop).1 rfl
      rw [if_pos (h.couldStart_of_matchBetween hfirst)]
      exact ⟨some (start, stop), rfl, le_rfl, hfirst, fun place' _ hle _ => hle⟩
    · obtain rfl : here = none := by
        cases here with
        | none => rfl
        | some stop => exact absurd ⟨stop, rfl⟩ hstop
      have hnot {place after : ℕ} (hle : start ≤ place)
          (hm : marker.MatchBetween text place after) : start + 1 ≤ place := by
        rcases Nat.eq_or_lt_of_le hle with rfl | hlt
        · cases (hmatch after).2 hm
        · exact hlt
      refine ⟨answer, ?_, ?_⟩
      · rw [attempt_found, found_bind]
        split <;> exact hanswer
      · cases answer with
        | none =>
          intro place after hle hlt hm
          exact hrest place after (hnot hle hm) (by omega) hm
        | some found =>
          obtain ⟨hle, hm, hfirst⟩ := hrest
          exact ⟨Nat.le_of_succ_le hle, hm, fun place' after' hle' hm' =>
            hfirst place' after' (hnot hle' hm') hm'⟩

lemma findsLanguage (text : List Char) (start : ℕ) : marker.FindsLanguage text start := by
  refine ⟨h.matchAt_found text start, ?_⟩
  obtain ⟨answer, hanswer, hfirst⟩ := h.findAmong_found text start (size text - start)
  refine ⟨answer, hanswer, ?_⟩
  cases answer with
  | none =>
    have hnone (place after : ℕ) (hle : start ≤ place) :
        ¬ marker.MatchBetween text place after := fun hm =>
      hfirst place after hle (by have := h.matchBetween_lt hm; omega) hm
    exact ⟨fun place after => iff_of_false nofun fun hm => hnone place after hm.1 hm.2.1,
      iff_of_true rfl hnone⟩
  | some found =>
    obtain ⟨hle, hm, hleast⟩ := hfirst
    refine ⟨fun place after => ⟨?_, ?_⟩, iff_of_false nofun fun hnone => hnone _ _ hle hm⟩
    · rintro ⟨⟩
      exact ⟨hle, hm, hleast⟩
    · rintro ⟨hle', hm', hleast'⟩
      have hplace : found.1 = place :=
        le_antisymm (hleast place after hle' hm') (hleast' _ _ hle hm)
      obtain ⟨here, -, hmatch⟩ := h.matchAt_found text place
      rw [hplace] at hm
      have hafter := ((hmatch _).2 hm).symm.trans ((hmatch after).2 hm')
      rw [← hplace, ← Option.some.inj hafter]

end InUse

end Places

/-- **Markers are their expressions.** What is read of a marker at a position of a text is what its
expression matches there, with no other end; what is found of it from a position on is the match
that starts first, and nothing is found only where there is none. The same holds of the scanner,
which goes by bytes and tries only those that a match could start with, from any byte on. The end of
an expression is looked for as a text, which is the same. -/
theorem inUse_readsLanguage :
    (∀ marker : Marker, marker.InUse → ∀ (text : List Char) (start : ℕ),
      marker.ReadsLanguage text start ∧ marker.FindsLanguage text start) ∧
    ∀ text : List Char, Text.cut? ['}', '}'] text = Marker.cut? [.text ['}', '}']] text := by
  refine ⟨fun marker h text start => ⟨?_, h.findsLanguage text start⟩, cut?_braces⟩
  exact ⟨h.strip?_iff, fun _ _ => h.stop_unique, fun _ _ => h.cut?_iff, h.cut?_none_iff⟩

/-- The closer of a section whose name has a blank, a sign and a letter outside of ASCII in it. -/
def unusualCloser : Marker :=
  Dialect.closerOf "é a]".toList .tag

/-- A text in which that closer stands twice, the first time with the letter in the other case,
which makes it the closer of another name. -/
def unusualText : List Char :=
  "x</a-define-section[É a]]></A-Define-Section\u00a0 [é A]]\n>y".toList

theorem inUse_readsLanguage_unusual :
    unusualCloser.InUse ∧
      (∃ stop, unusualCloser.MatchAt unusualText 26 stop ∧ unusualText.drop stop = ['y'] ∧
        ∀ place' stop', 0 ≤ place' → unusualCloser.MatchAt unusualText place' stop' →
          26 ≤ place') ∧
      unusualCloser.MatchBetween unusualText 27 57 := by
  obtain ⟨hread, hscan⟩ := inUse_readsLanguage.1 unusualCloser (.closer _ .tag) unusualText 0
  have hcut : unusualCloser.cut? (unusualText.drop 0) = some (unusualText.take 26, ['y']) := by
    decide +kernel
  have hfind : (find unusualText unusualCloser 0).run = some (some (27, 57)) := by
    decide +kernel
  obtain ⟨place, stop, -, hmatch, hfirst, hbefore, hrest⟩ := (hread.cut?_iff _ _).1 hcut
  have hplace : place = 26 := by
    have hlength := congrArg List.length hbefore
    have hle := hmatch.start_le.trans hmatch.stop_le
    rw [List.drop_zero, List.length_take_of_le hle] at hlength
    exact hlength.symm.trans (by decide +kernel)
  subst hplace
  obtain ⟨answer, hanswer, hiff, -⟩ := hscan.find
  have hsome : answer = some (27, 57) := Option.some.inj (hanswer.symm.trans hfind)
  exact ⟨.closer _ .tag, ⟨stop, hmatch, hrest.symm, hfirst⟩, ((hiff 27 57).1 hsome).2.1⟩

end Marker

end Pressroom.Markup
