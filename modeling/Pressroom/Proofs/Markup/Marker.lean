import Pressroom.Markup.Directive
import Pressroom.Proofs.Text.Fold

/-!
What markers see. A marker that ends in a text or a quote reads the same whatever stands behind its
match, and the first match in a text stays the first one when the text is cut behind it or goes on.

The second part rests on counting the characters that are neither blanks nor slashes: every match of
a marker holds the same number of them, so no match lies inside another one.
-/

namespace Pressroom

namespace Text

def counts (c : Char) : Bool :=
  !isBlank c && c != '/'

lemma counts_foldAscii (c : Char) : counts (foldAscii c) = counts c := by
  rcases foldAscii_cases c with h | ⟨h1, h2, h3⟩
  · rw [h]
  · have letter {x : Char} (h : 65 ≤ x.toNat ∧ x.toNat ≤ 122) : counts x = true := by
      have hs : x ≠ '/' := by rintro rfl; revert h; decide
      have hb : isBlank x = false := by
        simp only [isBlank, blankRanges, CodeRanges.has, List.any_cons, List.any_nil]
        simp
        omega
      simp [counts, hs, hb]
    rw [letter ⟨by omega, by omega⟩, letter ⟨by omega, by omega⟩]

/-- How many characters of a text are neither blanks nor slashes. -/
def weight (cs : List Char) : Nat :=
  cs.countP counts

@[simp] lemma weight_append (a b : List Char) : weight (a ++ b) = weight a + weight b :=
  List.countP_append

lemma weight_eq_of_map_fold {a b : List Char} (h : a.map foldAscii = b.map foldAscii) :
    weight a = weight b := by
  have key (cs : List Char) : weight cs = weight (cs.map foldAscii) := by
    simp only [weight, List.countP_map]
    exact List.countP_congr fun c _ => by simp [counts_foldAscii]
  rw [key a, key b, h]

lemma weight_le_of_suffix {a b : List Char} (h : a <:+ b) : weight a ≤ weight b :=
  h.sublist.countP_le

lemma weight_skipBlanks (cs : List Char) : weight (skipBlanks cs) = weight cs := by
  conv => rhs; rw [← takeWhile_append_skipBlanks cs, weight_append]
  have : weight (cs.takeWhile isBlank) = 0 := by
    rw [weight, List.countP_eq_zero]
    intro c hc
    simp [counts, List.mem_takeWhile_imp hc]
  omega

end Text

namespace Markup

open Text

/-- A reader finds nothing at any place in the first of two consecutive texts. -/
def Misses {α : Type} (p : List Char → Option α) (a b : List Char) : Prop :=
  ∀ t, t <:+ a → t ≠ [] → p (t ++ b) = none

section Misses

variable {α : Type} {p : List Char → Option α}

@[simp] lemma misses_nil (b : List Char) : Misses p [] b := by
  intro t ht hne
  exact absurd (List.suffix_nil.1 ht) hne

lemma misses_cons {c : Char} {a b : List Char} :
    Misses p (c :: a) b ↔ p (c :: a ++ b) = none ∧ Misses p a b := by
  constructor
  · intro h
    exact ⟨h _ List.suffix_rfl (by simp),
      fun t ht hne => h t (ht.trans (List.suffix_cons c a)) hne⟩
  · rintro ⟨h1, h2⟩ t ht hne
    rcases List.suffix_cons_iff.1 ht with rfl | ht
    · exact h1
    · exact h2 t ht hne

lemma misses_append {a b c : List Char} :
    Misses p (a ++ b) c ↔ Misses p a (b ++ c) ∧ Misses p b c := by
  induction a with
  | nil => simp
  | cons x a ih => simp [misses_cons, ih, and_assoc]

lemma Misses.mono {β : Type} {q : List Char → Option β} {a b : List Char} (h : Misses p a b)
    (hq : ∀ cs, p cs = none → q cs = none) : Misses q a b :=
  fun t ht hne => hq _ (h t ht hne)

end Misses

namespace Marker

/-! ### Matches at one place -/

lemma strip?_text (t : List Char) (marker : Marker) (cs : List Char) :
    strip? (.text t :: marker) cs = (stripFolded? foldAscii t cs).bind (strip? marker) := rfl

lemma skipSlash_suffix (cs : List Char) : skipSlash cs <:+ cs := by
  unfold skipSlash
  split
  · exact List.suffix_cons _ _
  · exact List.suffix_rfl

lemma eq_cons_of_afterQuote? {cs rest : List Char} (h : afterQuote? cs = some rest) :
    ∃ q, isQuote q = true ∧ cs = q :: rest := by
  unfold afterQuote? at h
  split at h
  · split at h
    · next hq => exact ⟨_, hq, by rw [Option.some.inj h]⟩
    · simp at h
  · simp at h

lemma strip?_suffix {marker : Marker} {cs rest : List Char} (h : marker.strip? cs = some rest) :
    rest <:+ cs := by
  induction marker generalizing cs with
  | nil => simp_all [strip?]
  | cons piece marker ih =>
    cases piece with
    | text t =>
      obtain ⟨r, hr, h⟩ := Option.bind_eq_some_iff.1 h
      exact (ih h).trans (stripFolded?_suffix hr)
    | blanks => exact (ih h).trans (skipBlanks_suffix cs)
    | slash => exact (ih h).trans (skipSlash_suffix cs)
    | quote =>
      obtain ⟨r, hr, hs⟩ := Option.bind_eq_some_iff.1 h
      obtain ⟨q, -, rfl⟩ := eq_cons_of_afterQuote? hr
      exact (ih hs).trans (List.suffix_cons q r)

/-- Behind blanks and a possible slash there is more of the marker, so that its matches do not
depend on what follows them. -/
def Closed : Marker → Prop
  | [] => True
  | .text _ :: marker | .quote :: marker => Closed marker
  | .blanks :: marker | .slash :: marker => strip? marker [] = none ∧ Closed marker

lemma eq_append_of_strip? {marker : Marker} {cs more rest : List Char}
    (h : marker.strip? cs = some (rest ++ more)) : ∃ r, cs = r ++ more := by
  obtain ⟨r, hr⟩ := strip?_suffix h
  exact ⟨r ++ rest, by rw [← hr, List.append_assoc]⟩

lemma eq_nil_of_append_suffix {rest more : List Char} (h : rest ++ more <:+ more) : rest = [] := by
  have hlen := h.length_le
  rw [List.length_append] at hlen
  exact List.length_eq_zero_iff.1 (by omega)

lemma skipSlash_append {cs more : List Char} (h : cs ≠ []) :
    skipSlash (cs ++ more) = skipSlash cs ++ more := by
  cases cs with
  | nil => exact absurd rfl h
  | cons c cs =>
    by_cases hc : c = '/'
    · subst hc; rfl
    · simp [skipSlash, hc]

lemma skipSlash_append_iff {cs more rest : List Char} (hne : rest ≠ []) :
    skipSlash (cs ++ more) = rest ++ more ↔ skipSlash cs = rest := by
  cases cs with
  | nil =>
    refine ⟨fun h => absurd ?_ hne, fun h => absurd h.symm hne⟩
    exact eq_nil_of_append_suffix (h ▸ skipSlash_suffix more)
  | cons c cs => rw [skipSlash_append (List.cons_ne_nil c cs), List.append_cancel_right_eq]

lemma afterQuote?_append_iff {cs more rest : List Char} :
    afterQuote? (cs ++ more) = some (rest ++ more) ↔ afterQuote? cs = some rest := by
  cases cs with
  | nil =>
    refine ⟨fun h => ?_, fun h => by simp [afterQuote?] at h⟩
    obtain ⟨q, -, hq⟩ := eq_cons_of_afterQuote? h
    have hlen := congrArg List.length hq
    simp at hlen
    omega
  | cons c cs => by_cases hq : isQuote c = true <;> simp [afterQuote?, hq]

section

variable {marker : Marker} {cs more : List Char}
  (hmarker : ∀ {cs rest}, marker.strip? (cs ++ more) = some (rest ++ more) ↔
    marker.strip? cs = some rest)

include hmarker

lemma strip?_behind_taken {rest : List Char} {take : List Char → Option (List Char)}
    (htake : ∀ r, take (cs ++ more) = some (r ++ more) ↔ take cs = some r) :
    (take (cs ++ more)).bind marker.strip? = some (rest ++ more) ↔
      (take cs).bind marker.strip? = some rest := by
  simp only [Option.bind_eq_some_iff]
  constructor
  · rintro ⟨r, hr, h⟩
    obtain ⟨r, rfl⟩ := eq_append_of_strip? h
    exact ⟨r, (htake r).1 hr, hmarker.1 h⟩
  · rintro ⟨r, hr, h⟩
    exact ⟨r ++ more, (htake r).2 hr, hmarker.2 h⟩

lemma strip?_behind_skipped {rest : List Char} (hnil : marker.strip? [] = none)
    {skip : List Char → List Char}
    (hskip : ∀ r, r ≠ [] → (skip (cs ++ more) = r ++ more ↔ skip cs = r)) :
    marker.strip? (skip (cs ++ more)) = some (rest ++ more) ↔
      marker.strip? (skip cs) = some rest := by
  have hne {r rest : List Char} (h : marker.strip? r = some rest) : r ≠ [] := by
    rintro rfl
    simp [hnil] at h
  constructor
  · intro h
    obtain ⟨r, hr⟩ := eq_append_of_strip? h
    rw [hr] at h
    have hrest : marker.strip? r = some rest := hmarker.1 h
    rwa [(hskip r (hne hrest)).1 hr]
  · intro h
    rw [(hskip (skip cs) (hne h)).2 rfl]
    exact hmarker.2 h

end

/-- A match of a closed marker is a match whatever follows it, and needs none of that. -/
lemma strip?_append_iff {marker : Marker} (hm : marker.Closed) {cs more rest : List Char} :
    marker.strip? (cs ++ more) = some (rest ++ more) ↔ marker.strip? cs = some rest := by
  induction marker generalizing cs rest with
  | nil => simp [strip?]
  | cons piece marker ih =>
    cases piece with
    | text t => exact strip?_behind_taken (ih hm) fun _ => stripFolded?_append_iff
    | blanks => exact strip?_behind_skipped (ih hm.2) hm.1 fun _ => skipBlanks_append_iff
    | slash => exact strip?_behind_skipped (ih hm.2) hm.1 fun _ => skipSlash_append_iff
    | quote => exact strip?_behind_taken (ih hm) fun _ => afterQuote?_append_iff

lemma strip?_of_append_eq_none {marker : Marker} (hm : marker.Closed) {cs more : List Char}
    (h : marker.strip? (cs ++ more) = none) : marker.strip? cs = none := by
  cases hs : marker.strip? cs with
  | none => rfl
  | some rest =>
    have hmore : marker.strip? (cs ++ more) = some (rest ++ more) := (strip?_append_iff hm).2 hs
    simp [h] at hmore

/-! ### Matches do not lie inside each other -/

/-- How many characters of a match are neither blanks nor slashes. -/
def weight : Marker → Nat
  | [] => 0
  | .text t :: marker => Text.weight t + weight marker
  | .blanks :: marker | .slash :: marker => weight marker
  | .quote :: marker => 1 + weight marker

lemma weight_skipSlash (cs : List Char) : Text.weight (skipSlash cs) = Text.weight cs := by
  unfold skipSlash
  split
  · simp [Text.weight, counts]
  · rfl

lemma weight_strip? {marker : Marker} {cs rest : List Char} (h : marker.strip? cs = some rest) :
    Text.weight cs = marker.weight + Text.weight rest := by
  induction marker generalizing cs with
  | nil => simp_all [strip?, weight]
  | cons piece marker ih =>
    cases piece with
    | text t =>
      obtain ⟨r, hr, hs⟩ := Option.bind_eq_some_iff.1 h
      obtain ⟨word, rfl, hw⟩ := stripFolded?_eq_some_iff.1 hr
      rw [weight_append, weight_eq_of_map_fold hw, ih hs, weight, Nat.add_assoc]
    | blanks => rw [← weight_skipBlanks cs]; exact ih h
    | slash => rw [← weight_skipSlash cs]; exact ih h
    | quote =>
      obtain ⟨r, hr, hs⟩ := Option.bind_eq_some_iff.1 h
      obtain ⟨q, hq, rfl⟩ := eq_cons_of_afterQuote? hr
      have hc : counts q = true := by
        simp only [isQuote, Bool.or_eq_true, beq_iff_eq] at hq
        rcases hq with rfl | rfl <;> decide
      have hsplit : Text.weight (q :: r) = 1 + Text.weight r := by
        simp [Text.weight, hc, Nat.add_comm]
      rw [hsplit, ih hs, weight, Nat.add_assoc]

/-- The marker starts with a character that is neither a blank nor a slash. -/
def Led : Marker → Prop
  | .text (c :: _) :: _ => counts c = true
  | .quote :: _ => True
  | _ => False

lemma counts_of_strip? {marker : Marker} (hm : marker.Led) {c : Char} {cs rest : List Char}
    (h : marker.strip? (c :: cs) = some rest) : counts c = true := by
  match marker, hm with
  | .text (p :: t) :: marker, hm =>
    obtain ⟨r, hr, -⟩ := Option.bind_eq_some_iff.1 h
    obtain ⟨word, hword, hw⟩ := stripFolded?_eq_some_iff.1 hr
    cases word with
    | nil => simp at hw
    | cons w word =>
      simp only [List.cons_append, List.cons.injEq, List.map_cons] at hword hw
      rw [hword.1, ← counts_foldAscii, hw.1, counts_foldAscii]
      exact hm
  | .quote :: marker, _ =>
    obtain ⟨r, hr, -⟩ := Option.bind_eq_some_iff.1 h
    obtain ⟨q, hq, he⟩ := eq_cons_of_afterQuote? hr
    simp only [isQuote, Bool.or_eq_true, beq_iff_eq] at hq
    rcases hq with rfl | rfl <;> rw [(List.cons.inj he).1] <;> decide

lemma strip?_nil {marker : Marker} (hm : marker.Led) : marker.strip? [] = none := by
  match marker, hm with
  | .text (p :: t) :: marker, _ => rfl
  | .quote :: marker, _ => rfl

lemma length_le_of_strip? {marker : Marker} (hm : marker.Led) {a b x y : List Char}
    (ha : marker.strip? (a ++ b) = some x) (hb : marker.strip? b = some y) (hne : a ≠ []) :
    y.length ≤ x.length := by
  by_contra hlt
  cases a with
  | nil => exact hne rfl
  | cons c a =>
    have hy : y <:+ c :: a ++ b := (strip?_suffix hb).trans (List.suffix_append _ _)
    have hxy : x <:+ y := List.suffix_of_suffix_length_le (strip?_suffix ha) hy (by omega)
    have h1 := weight_strip? ha
    have h2 := weight_strip? hb
    have h3 := weight_le_of_suffix hxy
    have h4 : Text.weight (c :: a) = 1 + Text.weight a := by
      have ha : marker.strip? (c :: (a ++ b)) = some x := ha
      have := counts_of_strip? hm ha
      simp [Text.weight, this, Nat.add_comm]
    rw [weight_append] at h1
    omega

/-! ### The first match in a text -/

/-- No match starts in the first of two consecutive texts. -/
abbrev Silent (marker : Marker) (a b : List Char) : Prop :=
  Misses marker.strip? a b

lemma cut?_eq_some_iff {marker : Marker} {cs before rest : List Char} :
    marker.cut? cs = some (before, rest) ↔
      ∃ tail, cs = before ++ tail ∧ tail ≠ [] ∧ marker.strip? tail = some rest ∧
        marker.Silent before tail := by
  induction cs generalizing before with
  | nil =>
    simp only [cut?, reduceCtorEq, false_iff, not_exists, not_and]
    intro tail h hne
    exact absurd (List.append_eq_nil_iff.1 h.symm).2 hne
  | cons c cs ih =>
    simp only [cut?]
    split
    · next r hr =>
      simp only [Option.some.injEq, Prod.mk.injEq]
      constructor
      · rintro ⟨rfl, rfl⟩
        exact ⟨c :: cs, rfl, by simp, hr, misses_nil _⟩
      · rintro ⟨tail, htail, -, hs, hsilent⟩
        cases before with
        | nil =>
          rw [List.nil_append] at htail
          rw [← htail, hr] at hs
          exact ⟨rfl, Option.some.inj hs⟩
        | cons b before =>
          have := (misses_cons.1 hsilent).1
          rw [← htail, hr] at this
          simp at this
    · next hn =>
      simp only [Option.map_eq_some_iff, Prod.mk.injEq, Prod.exists]
      constructor
      · rintro ⟨b, r, hb, rfl, rfl⟩
        obtain ⟨tail, rfl, hne, hs, hsilent⟩ := ih.1 hb
        exact ⟨tail, rfl, hne, hs, misses_cons.2 ⟨hn, hsilent⟩⟩
      · rintro ⟨tail, htail, hne, hs, hsilent⟩
        cases before with
        | nil =>
          rw [List.nil_append] at htail
          rw [← htail, hn] at hs
          simp at hs
        | cons b before =>
          simp only [List.cons_append, List.cons.injEq] at htail
          exact ⟨before, rest, ih.2 ⟨tail, htail.2, hne, hs, (misses_cons.1 hsilent).2⟩,
            by rw [htail.1], rfl⟩

lemma cut?_eq_none_iff {marker : Marker} {cs : List Char} :
    marker.cut? cs = none ↔ marker.Silent cs [] := by
  induction cs with
  | nil => simp [cut?]
  | cons c cs ih =>
    have hcons : marker.Silent (c :: cs) [] ↔
        marker.strip? (c :: cs) = none ∧ marker.Silent cs [] := by
      rw [Silent, misses_cons, List.append_nil]
    rw [hcons, cut?, ← ih]
    cases marker.strip? (c :: cs) <;> simp

lemma cut?_suffix {marker : Marker} {cs before rest : List Char}
    (h : marker.cut? cs = some (before, rest)) : rest <:+ cs := by
  obtain ⟨tail, rfl, -, hs, -⟩ := cut?_eq_some_iff.1 h
  exact (strip?_suffix hs).trans (List.suffix_append _ _)

lemma cut?_plain {t : List Char} (ht : ∀ c ∈ t, c.isAlpha = false) (hne : t ≠ [])
    (cs : List Char) : Text.cut? t cs = Marker.cut? [.text t] cs := by
  have hs (cs : List Char) : Marker.strip? [.text t] cs = Text.strip? t cs := by
    rw [strip?_text, stripFolded?_eq_strip? fun p hp c hc => (foldAscii_eq_iff (ht p hp)).1 hc]
    cases Text.strip? t cs <;> rfl
  induction cs with
  | nil =>
    obtain ⟨c, t, rfl⟩ := List.exists_cons_of_ne_nil hne
    rfl
  | cons c cs ih =>
    cases h : Text.strip? t (c :: cs) <;> simp only [Text.cut?, Marker.cut?, hs, ih, h]

lemma cut?_braces (cs : List Char) :
    Text.cut? ['}', '}'] cs = Marker.cut? [.text ['}', '}']] cs :=
  cut?_plain (by decide) (by decide) cs

/-- **The first match does not depend on what stands behind it**: it is the first one in every
longer text, and in every shorter one that still holds it. -/
lemma cut?_append_iff {marker : Marker} (hc : marker.Closed) (hl : marker.Led)
    {cs more before rest : List Char} :
    marker.cut? (cs ++ more) = some (before, rest ++ more) ↔
      marker.cut? cs = some (before, rest) := by
  rw [cut?_eq_some_iff, cut?_eq_some_iff]
  constructor
  · rintro ⟨tail, htail, hne, hs, hsilent⟩
    obtain ⟨tail, rfl⟩ := eq_append_of_strip? hs
    rw [← List.append_assoc] at htail
    have hs := (strip?_append_iff hc).1 hs
    refine ⟨tail, List.append_cancel_right htail, ?_, hs, fun t ht htne => ?_⟩
    · rintro rfl
      simp [strip?_nil hl] at hs
    · cases h : marker.strip? (t ++ tail) with
      | none => rfl
      | some x =>
        have h1 : marker.strip? (t ++ tail ++ more) = some (x ++ more) :=
          (strip?_append_iff hc).2 h
        rw [List.append_assoc, hsilent t ht htne] at h1
        simp at h1
  · rintro ⟨tail, rfl, hne, hs, hsilent⟩
    have hs' : marker.strip? (tail ++ more) = some (rest ++ more) := (strip?_append_iff hc).2 hs
    refine ⟨tail ++ more, by simp, by simp [hne], hs', fun t ht htne => ?_⟩
    cases h : marker.strip? (t ++ (tail ++ more)) with
    | none => rfl
    | some x =>
      -- an earlier match would end inside the text, since it does not reach over the later one
      have hle := length_le_of_strip? hl h hs' htne
      have hmore : more <:+ t ++ (tail ++ more) := ⟨t ++ tail, by simp⟩
      have h1 : more <:+ x := by
        refine List.suffix_of_suffix_length_le hmore (strip?_suffix h) ?_
        simp at hle
        omega
      obtain ⟨x, rfl⟩ := h1
      rw [← List.append_assoc] at h
      have := (strip?_append_iff hc).1 h
      rw [hsilent t ht htne] at this
      simp at this

end Marker

/-! ### The markers of the two dialects -/

namespace Dialect

/-- The markers that are looked for behind a head. -/
def markers (d : Dialect) (id : List Char) : List Marker :=
  [d.expressionClose, d.elseIfOpen id, d.elseIfClose, d.elseMarker id, d.ifEnd id, d.loopEnd id,
    d.inclusionClose, d.styleParamsClose]

lemma closed_of_mem_markers {d : Dialect} {id : List Char} {marker : Marker}
    (h : marker ∈ d.markers id) : marker.Closed := by
  have hq (q : List Char) (rest : Marker) (hq : q ≠ []) :
      Marker.strip? (.text q :: rest) [] = none := by
    cases q with
    | nil => exact absurd rfl hq
    | cons c q => rfl
  simp only [markers, List.mem_cons, List.not_mem_nil, or_false] at h
  cases d <;> rcases h with rfl | rfl | rfl | rfl | rfl | rfl | rfl | rfl <;>
    simp only [expressionClose, elseIfOpen, elseIfClose, elseMarker, ifEnd, loopEnd,
      inclusionClose, styleParamsClose, Marker.Closed, and_true] <;>
    try exact hq _ _ (by simp)
  · exact ⟨hq _ _ (by decide), hq _ _ (by simp), rfl⟩
  all_goals exact ⟨hq _ _ (by simp), hq _ _ (by simp)⟩

lemma led_of_mem_markers {d : Dialect} {id : List Char} {marker : Marker}
    (h : marker ∈ d.markers id) : marker.Led := by
  simp only [markers, List.mem_cons, List.not_mem_nil, or_false] at h
  cases d <;> rcases h with rfl | rfl | rfl | rfl | rfl | rfl | rfl | rfl <;>
    trivial

end Dialect

end Markup

end Pressroom
