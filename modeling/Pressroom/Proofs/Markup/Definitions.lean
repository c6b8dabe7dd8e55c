import Pressroom.Markup.Section
import Pressroom.Proofs.Markup.Local

/-!
Definitions of sections as they stand in a markup. How a definition opens and closes is said here in
terms of the text alone: which characters an opener and a closer consist of, and that neither the
name nor the body could end earlier. Main statement: reading a markup from the left finds all of
them, in their order, with texts between them in which nothing opens that is closed further on.
-/

namespace Pressroom.Markup

open Text

/-! ### What openers and closers consist of -/

/-- What stands in front of the name in an opener. The word of the tag is in any case, and it may be
spelled with a long s. -/
inductive OpenerStart : Dialect → List Char → Prop where
  | bracket : OpenerStart .bracket "$$[".toList
  | tag {word blanks : List Char} (hword : word.map foldSimple = "<a-define-section".toList)
      (hblanks : ∀ c ∈ blanks, isBlank c = true) : OpenerStart .tag (word ++ (blanks ++ ['[']))

/-- What stands behind the name in an opener. -/
inductive OpenerFinish : Dialect → List Char → Prop where
  | bracket : OpenerFinish .bracket "]$$".toList
  | tag {blanks : List Char} (hblanks : ∀ c ∈ blanks, isBlank c = true) :
      OpenerFinish .tag (']' :: (blanks ++ ['>']))

/-- The closers of a name. The letters `A` to `Z` are in either case, those of the name too. -/
inductive CloserOf (name : List Char) : Dialect → List Char → Prop where
  | bracket {text : List Char}
      (htext : text.map foldAscii = ("!![".toList ++ name ++ "]!!".toList).map foldAscii) :
      CloserOf name .bracket text
  | tag {word blanks label blanks' : List Char}
      (hword : word.map foldAscii = "</a-define-section".toList)
      (hblanks : ∀ c ∈ blanks, isBlank c = true)
      (hlabel : label.map foldAscii = ('[' :: name ++ [']']).map foldAscii)
      (hblanks' : ∀ c ∈ blanks', isBlank c = true) :
      CloserOf name .tag (word ++ (blanks ++ (label ++ (blanks' ++ ['>']))))

/-- The text cannot end earlier in front of something of this kind. -/
def Shortest (kind : List Char → Prop) (before tail : List Char) : Prop :=
  ∀ before' text rest, kind text → before ++ tail = before' ++ (text ++ rest) →
    before.length ≤ before'.length

structure Section where
  dialect : Dialect
  name : List Char
  body : List Char
  start : List Char
  finish : List Char
  closer : List Char
  starts : OpenerStart dialect start
  finishes : OpenerFinish dialect finish
  oneLine : '\n' ∉ name
  closes : CloserOf name dialect closer

namespace Section

def text (s : Section) : List Char :=
  s.start ++ (s.name ++ (s.finish ++ (s.body ++ s.closer)))

def definition (s : Section) : Definition :=
  ⟨s.name, s.body⟩

/-- The name is the shortest text up to the end of the opener; `rest` stands behind the closer. -/
def NameShortest (s : Section) (rest : List Char) : Prop :=
  Shortest (OpenerFinish s.dialect) s.name (s.finish ++ (s.body ++ (s.closer ++ rest)))

/-- The closer is the first one behind the opener. -/
def BodyShortest (s : Section) (rest : List Char) : Prop :=
  Shortest (CloserOf s.name s.dialect) s.body (s.closer ++ rest)

end Section

/-- At the start of the text something opens that is closed further on. -/
def SectionOpens (cs : List Char) : Prop :=
  ∃ (s : Section) (rest : List Char), cs = s.text ++ rest ∧ s.NameShortest rest

/-- The definitions of a markup from left to right. -/
inductive Sectioned : List Char → List Section → Prop where
  | done {gap : List Char} (hgap : ∀ t, t <:+ gap → t ≠ [] → ¬ SectionOpens t) : Sectioned gap []
  | more {gap rest : List Char} {s : Section} {ss : List Section}
      (hgap : ∀ t, t <:+ gap → t ≠ [] → ¬ SectionOpens (t ++ (s.text ++ rest)))
      (hname : s.NameShortest rest) (hbody : s.BodyShortest rest) (h : Sectioned rest ss) :
      Sectioned (gap ++ (s.text ++ rest)) (s :: ss)

/-! ### Readers of texts of one kind -/

/-- The reader takes texts of this kind off the start of a text. -/
def Takes (p : List Char → Option (List Char)) (kind : List Char → Prop) : Prop :=
  ∀ cs rest, p cs = some rest ↔ ∃ text, kind text ∧ cs = text ++ rest

namespace Takes

variable {marker : Marker} {kind : List Char → Prop}

lemma silent_iff (h : Takes marker.strip? kind) {before tail : List Char} :
    marker.Silent before tail ↔ Shortest kind before tail := by
  constructor
  · intro hsilent before' text rest htext heq
    by_contra hlt
    rcases List.append_eq_append_iff.1 heq with ⟨t, rfl, -⟩ | ⟨t, rfl, ht⟩
    · simp at hlt
    · have hne : t ≠ [] := by
        rintro rfl
        simp at hlt
      have hread := (h (t ++ tail) rest).2 ⟨text, htext, ht.symm⟩
      rw [hsilent t (List.suffix_append _ _) hne] at hread
      cases hread
  · rintro hshort t ⟨before', rfl⟩ hne
    cases hread : marker.strip? (t ++ tail) with
    | none => rfl
    | some rest =>
      obtain ⟨text, htext, ht⟩ := (h _ _).1 hread
      have hle := hshort before' text rest htext (by rw [List.append_assoc, ht])
      rw [List.length_append] at hle
      exact absurd (List.length_eq_zero_iff.1 (by omega)) hne

lemma cut?_eq_some_iff (h : Takes marker.strip? kind) (hne : ¬ kind [])
    {cs before rest : List Char} :
    marker.cut? cs = some (before, rest) ↔
      ∃ text, kind text ∧ cs = before ++ (text ++ rest) ∧ Shortest kind before (text ++ rest) := by
  rw [Marker.cut?_eq_some_iff]
  constructor
  · rintro ⟨tail, rfl, -, hread, hsilent⟩
    obtain ⟨text, htext, rfl⟩ := (h _ _).1 hread
    exact ⟨text, htext, rfl, h.silent_iff.1 hsilent⟩
  · rintro ⟨text, htext, rfl, hshort⟩
    refine ⟨text ++ rest, rfl, ?_, (h _ _).2 ⟨text, htext, rfl⟩, h.silent_iff.2 hshort⟩
    intro hnil
    exact hne ((List.append_eq_nil_iff.1 hnil).1 ▸ htext)

lemma exists_cut? (h : Takes marker.strip? kind) (hne : ¬ kind []) {text : List Char}
    (htext : kind text) (before rest : List Char) :
    ∃ x, marker.cut? (before ++ (text ++ rest)) = some x := by
  cases hcut : marker.cut? (before ++ (text ++ rest)) with
  | some x => exact ⟨x, rfl⟩
  | none =>
    have hsilent := misses_append.1 (Marker.cut?_eq_none_iff.1 hcut)
    have hread := (h (text ++ rest) rest).2 ⟨text, htext, rfl⟩
    have hnone := hsilent.2 (text ++ rest) List.suffix_rfl fun hnil =>
      hne ((List.append_eq_nil_iff.1 hnil).1 ▸ htext)
    rw [List.append_nil, hread] at hnone
    cases hnone

end Takes

/-! ### The readers of openers and closers -/

namespace Dialect

def openerStart? : Dialect → List Char → Option (List Char)
  | bracket, cs => strip? "$$[".toList cs
  | tag, cs => (afterWord? "<a-define-section" cs).bind (afterChar? '[')

def openerFinish : Dialect → Marker
  | bracket => [.text "]$$".toList]
  | tag => [.text [']'], .blanks, .text ['>']]

def closerOf (name : List Char) : Dialect → Marker
  | bracket => signCloser name
  | tag => tagCloser name

end Dialect

namespace Takes

variable {p q : List Char → Option (List Char)} {P Q : List Char → Prop}

lemma congr (h : Takes p P) (hPQ : ∀ text, P text ↔ Q text) : Takes p Q := by
  intro cs rest
  simp only [h cs rest, hPQ]

lemma bind (hp : Takes p P) (hq : Takes q Q) :
    Takes (fun cs => (p cs).bind q) fun text => ∃ a b, P a ∧ Q b ∧ text = a ++ b := by
  intro cs rest
  simp only [Option.bind_eq_some_iff, hp cs, hq _ rest]
  constructor
  · rintro ⟨_, ⟨a, ha, rfl⟩, b, hb, rfl⟩
    exact ⟨a ++ b, ⟨a, b, ha, hb, rfl⟩, by rw [List.append_assoc]⟩
  · rintro ⟨_, ⟨a, b, ha, hb, rfl⟩, rfl⟩
    exact ⟨b ++ rest, ⟨a, ha, by rw [List.append_assoc]⟩, b, hb, rfl⟩

lemma skipBlanks (hp : Takes p P) (hhead : ∀ text, P text → ∃ c ∈ text.head?, isBlank c = false) :
    Takes (fun cs => p (skipBlanks cs)) fun text =>
      ∃ blanks a, (∀ c ∈ blanks, isBlank c = true) ∧ P a ∧ text = blanks ++ a := by
  intro cs rest
  constructor
  · intro h
    obtain ⟨a, ha, hcs⟩ := (hp _ _).1 h
    refine ⟨cs.takeWhile isBlank ++ a,
      ⟨_, a, fun _ hc => List.mem_takeWhile_imp hc, ha, rfl⟩, ?_⟩
    rw [List.append_assoc, ← hcs, takeWhile_append_skipBlanks]
  · rintro ⟨_, ⟨blanks, a, hblanks, ha, rfl⟩, rfl⟩
    obtain ⟨c, hc, hblank⟩ := hhead a ha
    obtain ⟨a, rfl⟩ := List.head?_eq_some_iff.1 hc
    refine (hp _ _).2 ⟨c :: a, ha, ?_⟩
    rw [Text.skipBlanks, List.append_assoc, List.dropWhile_append_of_pos hblanks]
    exact List.dropWhile_cons_of_neg (by simp [hblank])

end Takes

lemma takes_word (fold : Char → Char) (t : List Char) :
    Takes (stripFolded? fold t) fun word => word.map fold = t.map fold := by
  intro cs rest
  simp only [stripFolded?_eq_some_iff, and_comm]

lemma eq_of_map_foldAscii {t word : List Char} (ht : ∀ c ∈ t, c.isAlpha = false)
    (h : word.map foldAscii = t.map foldAscii) : word = t := by
  induction t generalizing word with
  | nil => simpa using h
  | cons c t ih =>
    obtain ⟨x, word, rfl⟩ := List.exists_cons_of_ne_nil
      (show word ≠ [] by rintro rfl; simp at h)
    obtain ⟨hx, htail⟩ := List.cons.inj h
    rw [(foldAscii_eq_iff (ht c List.mem_cons_self)).1 hx,
      ih (fun y hy => ht y (List.mem_cons_of_mem _ hy)) htail]

lemma takes_plain {t : List Char} (ht : ∀ c ∈ t, c.isAlpha = false) :
    Takes (stripFolded? foldAscii t) (· = t) :=
  (takes_word foldAscii t).congr fun _ => ⟨eq_of_map_foldAscii ht, fun h => h ▸ rfl⟩

lemma takes_last {t : List Char} {P : List Char → Prop} (h : Takes (stripFolded? foldAscii t) P) :
    Takes (Marker.strip? [.text t]) P := by
  intro cs rest
  simp only [← h cs rest, Marker.strip?_text]
  cases stripFolded? foldAscii t cs <;> rfl

lemma takes_afterChar? {c : Char} (hc : isBlank c = false) :
    Takes (afterChar? c) fun text =>
      ∃ blanks a, (∀ x ∈ blanks, isBlank x = true) ∧ a = [c] ∧ text = blanks ++ a := by
  have hchar : Takes (strip? [c]) (· = [c]) := fun cs rest => by
    simp only [strip?_eq_some_iff, exists_eq_left]
  have hblanks := hchar.skipBlanks (by
    rintro _ rfl
    exact ⟨c, rfl, hc⟩)
  refine fun cs rest => Iff.trans ?_ (hblanks cs rest)
  rw [afterChar?_eq_some_iff, strip?_eq_some_iff]
  rfl

lemma takes_openerStart (d : Dialect) : Takes d.openerStart? (OpenerStart d) := by
  cases d with
  | bracket =>
    intro cs rest
    simp only [Dialect.openerStart?, strip?_eq_some_iff]
    constructor
    · rintro rfl
      exact ⟨_, .bracket, rfl⟩
    · rintro ⟨_, ⟨⟩, rfl⟩
      rfl
  | tag =>
    refine ((takes_word foldSimple _).bind (takes_afterChar? (c := '[') (by decide))).congr ?_
    have hself : "<a-define-section".toList.map foldSimple = "<a-define-section".toList := by decide
    refine fun text => ⟨?_, ?_⟩
    · rintro ⟨word, _, hword, ⟨blanks, _, hblanks, rfl, rfl⟩, rfl⟩
      exact .tag (hword.trans hself) hblanks
    · rintro (_ | ⟨hword, hblanks⟩)
      exact ⟨_, _, hword.trans hself.symm, ⟨_, _, hblanks, rfl, rfl⟩, rfl⟩

lemma takes_openerFinish (d : Dialect) : Takes d.openerFinish.strip? (OpenerFinish d) := by
  cases d with
  | bracket =>
    refine (takes_last (takes_plain (t := "]$$".toList) (by decide))).congr fun text => ⟨?_, ?_⟩
    · rintro rfl
      exact .bracket
    · rintro ⟨⟩
      rfl
  | tag =>
    have hangle := takes_last (takes_plain (t := ['>']) (by decide))
    refine ((takes_plain (t := [']']) (by decide)).bind (hangle.skipBlanks ?_)).congr fun text =>
      ⟨?_, ?_⟩
    · rintro _ rfl
      exact ⟨'>', rfl, by decide⟩
    · rintro ⟨_, _, rfl, ⟨blanks, _, hblanks, rfl, rfl⟩, rfl⟩
      exact .tag hblanks
    · rintro (_ | ⟨hblanks⟩)
      exact ⟨[']'], _, rfl, ⟨_, _, hblanks, rfl, rfl⟩, rfl⟩

lemma takes_closerOf (name : List Char) (d : Dialect) :
    Takes (d.closerOf name).strip? (CloserOf name d) := by
  cases d with
  | bracket =>
    refine (takes_last (takes_word foldAscii _)).congr fun text => ⟨.bracket, ?_⟩
    rintro ⟨htext⟩
    exact htext
  | tag =>
    have hangle := takes_last (takes_plain (t := ['>']) (by decide))
    have hlabel := (takes_word foldAscii ('[' :: name ++ [']'])).bind (hangle.skipBlanks (by
      rintro _ rfl
      exact ⟨'>', rfl, by decide⟩))
    refine ((takes_word foldAscii "</a-define-section".toList).bind (hlabel.skipBlanks ?_)).congr
      fun text => ⟨?_, ?_⟩
    · rintro _ ⟨label, _, hlabel, -, rfl⟩
      obtain ⟨x, label, rfl⟩ := List.exists_cons_of_ne_nil
        (show label ≠ [] by rintro rfl; simp at hlabel)
      obtain rfl : x = '[' := (foldAscii_eq_iff rfl).1 (List.cons.inj hlabel).1
      exact ⟨'[', rfl, by decide⟩
    · rintro ⟨word, _, hword, ⟨blanks, _, hblanks, ⟨label, _, hlabel, ⟨blanks', _, hblanks', rfl,
        rfl⟩, rfl⟩, rfl⟩, rfl⟩
      exact .tag hword hblanks hlabel hblanks'
    · rintro (_ | ⟨hword, hblanks, hlabel, hblanks'⟩)
      exact ⟨_, _, hword,
        ⟨_, _, hblanks, ⟨_, _, hlabel, ⟨_, _, hblanks', rfl, rfl⟩, rfl⟩, rfl⟩, rfl⟩

/-! ### Definitions at the start of a text -/

namespace Dialect

/-- The sign that every opener starts with. -/
def openerSign : Dialect → Char
  | bracket => '$'
  | tag => '<'

/-- The opener of a dialect at the start of a text: its name, and what follows it. -/
def opener? : Dialect → List Char → Option (List Char × List Char)
  | bracket => signOpener?
  | tag => tagOpener?

end Dialect

lemma exists_cons_of_openerStart {d : Dialect} {start : List Char} (h : OpenerStart d start) :
    ∃ tail, start = d.openerSign :: tail := by
  cases h with
  | bracket => exact ⟨_, rfl⟩
  | @tag word blanks hword hblanks =>
    obtain ⟨c, word, rfl⟩ := List.exists_cons_of_ne_nil
      (show word ≠ [] by rintro rfl; simp at hword)
    obtain rfl : c = '<' := eq_of_foldSimple (by decide) (List.cons.inj hword).1
    exact ⟨_, rfl⟩

lemma not_openerFinish_nil (d : Dialect) : ¬ OpenerFinish d [] := by
  cases d <;> rintro ⟨⟩

lemma not_closerOf_nil (name : List Char) (d : Dialect) : ¬ CloserOf name d [] := by
  have hread (h : CloserOf name d []) := (takes_closerOf name d [] []).2 ⟨[], h, rfl⟩
  intro h
  cases d <;> cases hread h

lemma opener?_eq (d : Dialect) (cs : List Char) :
    d.opener? cs = (d.openerStart? cs).bind fun r =>
      (d.openerFinish.cut? r).bind fun x => if onOneLine x.1 then some x else none := by
  cases d with
  | bracket =>
    simp only [Dialect.opener?, signOpener?, Marker.cut?_plain (t := "]$$".toList) (by decide)
      (by decide)]
    rfl
  | tag =>
    simp only [Dialect.opener?, tagOpener?, Dialect.openerStart?, Option.bind_assoc]
    rfl

lemma opener?_eq_some_iff {d : Dialect} {cs name rest : List Char} :
    d.opener? cs = some (name, rest) ↔
      ∃ start finish, OpenerStart d start ∧ OpenerFinish d finish ∧ '\n' ∉ name ∧
        cs = start ++ (name ++ (finish ++ rest)) ∧
          Shortest (OpenerFinish d) name (finish ++ rest) := by
  have hline : onOneLine name = true ↔ '\n' ∉ name := by
    simp only [onOneLine, List.all_eq_true, bne_iff_ne]
    exact ⟨fun h hmem => h _ hmem rfl, fun h c hc he => h (he ▸ hc)⟩
  simp only [opener?_eq, Option.bind_eq_some_iff, takes_openerStart d cs, Prod.exists,
    Option.ite_none_right_eq_some, Option.some.injEq, Prod.mk.injEq,
    (takes_openerFinish d).cut?_eq_some_iff (not_openerFinish_nil d)]
  constructor
  · rintro ⟨_, ⟨start, hstart, rfl⟩, _, _, ⟨finish, hfinish, rfl, hshort⟩, hname, rfl, rfl⟩
    exact ⟨start, finish, hstart, hfinish, hline.1 hname, rfl, hshort⟩
  · rintro ⟨start, finish, hstart, hfinish, hname, rfl, hshort⟩
    exact ⟨_, ⟨start, hstart, rfl⟩, name, rest, ⟨finish, hfinish, rfl, hshort⟩, hline.2 hname, rfl,
      rfl⟩

lemma exists_sign_of_opener? {d : Dialect} {cs : List Char} {x : List Char × List Char}
    (h : d.opener? cs = some x) : ∃ tail, cs = d.openerSign :: tail := by
  obtain ⟨start, _, hstart, -, -, rfl, -⟩ := opener?_eq_some_iff.1 h
  obtain ⟨tail, rfl⟩ := exists_cons_of_openerStart hstart
  exact ⟨_, rfl⟩

lemma definition?_of_opener? {d : Dialect} {cs name rest : List Char}
    (h : d.opener? cs = some (name, rest)) :
    definition? cs = ((d.closerOf name).cut? rest).map fun x => (⟨name, x.1⟩, x.2) := by
  cases d with
  | bracket =>
    rw [Dialect.opener?] at h
    simp only [definition?, h]
    rfl
  | tag =>
    have hsign : signOpener? cs = none := by
      cases hsign : Dialect.opener? .bracket cs with
      | none => exact hsign
      | some x =>
        obtain ⟨_, rfl⟩ := exists_sign_of_opener? hsign
        obtain ⟨_, hcs⟩ := exists_sign_of_opener? h
        exact absurd (List.cons.inj hcs).1 (by decide)
    rw [Dialect.opener?] at h
    simp only [definition?, hsign, h]
    rfl

lemma exists_opener_of_definition? {cs : List Char} {x : Definition × List Char}
    (h : definition? cs = some x) : ∃ (d : Dialect) (y : List Char × List Char),
      d.opener? cs = some y := by
  unfold definition? at h
  split at h
  · next hsign => exact ⟨.bracket, _, hsign⟩
  · next htag => exact ⟨.tag, _, htag⟩
  · cases h

lemma definition?_eq_some_iff {cs rest : List Char} {x : Definition} :
    definition? cs = some (x, rest) ↔
      ∃ d r, Dialect.opener? d cs = some (x.name, r) ∧
        (d.closerOf x.name).cut? r = some (x.body, rest) := by
  constructor
  · intro h
    obtain ⟨d, ⟨name, r⟩, hopener⟩ := exists_opener_of_definition? h
    rw [definition?_of_opener? hopener, Option.map_eq_some_iff] at h
    obtain ⟨⟨body, rest⟩, hcut, ⟨⟩⟩ := h
    exact ⟨d, r, hopener, hcut⟩
  · rintro ⟨d, r, hopener, hcut⟩
    rw [definition?_of_opener? hopener, hcut]
    rfl

/-- **What is read at the start of a text is a definition with the shortest name and the shortest
body.** -/
theorem definition?_eq_some_iff_section {cs rest : List Char} {x : Definition} :
    definition? cs = some (x, rest) ↔
      ∃ s : Section, cs = s.text ++ rest ∧ s.definition = x ∧ s.NameShortest rest ∧
        s.BodyShortest rest := by
  simp only [definition?_eq_some_iff, opener?_eq_some_iff]
  constructor
  · rintro ⟨d, _, ⟨start, finish, hstart, hfinish, hline, rfl, hname⟩, hcut⟩
    obtain ⟨closer, hcloses, rfl, hbody⟩ :=
      ((takes_closerOf x.name d).cut?_eq_some_iff (not_closerOf_nil x.name d)).1 hcut
    exact ⟨⟨d, x.name, x.body, start, finish, closer, hstart, hfinish, hline, hcloses⟩,
      by simp [Section.text], rfl, hname, hbody⟩
  · rintro ⟨s, rfl, rfl, hname, hbody⟩
    have hcut := ((takes_closerOf s.name s.dialect).cut?_eq_some_iff
      (not_closerOf_nil s.name s.dialect)).2 ⟨s.closer, s.closes, rfl, hbody⟩
    exact ⟨s.dialect, s.body ++ (s.closer ++ rest),
      ⟨s.start, s.finish, s.starts, s.finishes, s.oneLine,
        by simp [Section.text, Section.definition], hname⟩, hcut⟩

theorem definition?_eq_none_iff {cs : List Char} : definition? cs = none ↔ ¬ SectionOpens cs := by
  constructor
  · rintro hnone ⟨s, rest, rfl, hname⟩
    obtain ⟨⟨body, rest'⟩, hcut⟩ := (takes_closerOf s.name s.dialect).exists_cut?
      (not_closerOf_nil s.name s.dialect) s.closes s.body rest
    have hopener : s.dialect.opener? (s.text ++ rest) =
        some (s.name, s.body ++ (s.closer ++ rest)) :=
      opener?_eq_some_iff.2 ⟨s.start, s.finish, s.starts, s.finishes, s.oneLine,
        by simp [Section.text], hname⟩
    have hsome : definition? (s.text ++ rest) = some (⟨s.name, body⟩, rest') :=
      definition?_eq_some_iff.2 ⟨s.dialect, _, hopener, hcut⟩
    cases hnone.symm.trans hsome
  · intro hopens
    cases h : definition? cs with
    | none => rfl
    | some x =>
      obtain ⟨s, hcs, -, hname, -⟩ := definition?_eq_some_iff_section.1 h
      exact absurd ⟨s, x.2, hcs, hname⟩ hopens

/-! ### All definitions of a markup -/

lemma definitions_of_some {cs rest : List Char} {x : Definition}
    (h : definition? cs = some (x, rest)) : definitions cs = x :: definitions rest := by
  cases cs with
  | nil => cases h
  | cons c cs =>
    rw [definitions]
    split
    · next h' =>
      obtain ⟨rfl, rfl⟩ := Prod.mk.inj (Option.some.inj (h.symm.trans h'))
      rfl
    · next h' => cases h.symm.trans h'

lemma definitions_of_none {c : Char} {cs : List Char} (h : definition? (c :: cs) = none) :
    definitions (c :: cs) = definitions cs := by
  rw [definitions]
  split
  · next h' => cases h.symm.trans h'
  · rfl

lemma definitions_gap {gap rest : List Char}
    (h : ∀ t, t <:+ gap → t ≠ [] → ¬ SectionOpens (t ++ rest)) :
    definitions (gap ++ rest) = definitions rest := by
  induction gap with
  | nil => rfl
  | cons c gap ih =>
    have hhere : definition? (c :: (gap ++ rest)) = none :=
      definition?_eq_none_iff.2 (h (c :: gap) List.suffix_rfl (by simp))
    rw [List.cons_append, definitions_of_none hhere]
    exact ih fun t ht => h t (ht.trans (List.suffix_cons c gap))

theorem definitions_eq {markup : List Char} {ss : List Section} (h : Sectioned markup ss) :
    definitions markup = ss.map Section.definition := by
  induction h with
  | @done gap hgap =>
    have hread : definitions (gap ++ []) = definitions [] := definitions_gap (by simpa using hgap)
    rw [List.append_nil] at hread
    rw [hread, definitions, List.map_nil]
  | @more gap rest s ss hgap hname hbody _ ih =>
    have hread := definition?_eq_some_iff_section.2 ⟨s, rfl, rfl, hname, hbody⟩
    rw [definitions_gap hgap, definitions_of_some hread, ih, List.map_cons]

lemma Sectioned.cons {c : Char} {cs : List Char} {ss : List Section}
    (hc : ¬ SectionOpens (c :: cs)) (h : Sectioned cs ss) : Sectioned (c :: cs) ss := by
  cases h with
  | done hgap =>
    refine .done fun t ht hne => ?_
    rcases List.suffix_cons_iff.1 ht with rfl | ht
    · exact hc
    · exact hgap t ht hne
  | @more gap rest s ss hgap hname hbody h =>
    show Sectioned (c :: gap ++ (s.text ++ rest)) (s :: ss)
    refine .more (fun t ht hne => ?_) hname hbody h
    rcases List.suffix_cons_iff.1 ht with rfl | ht
    · exact hc
    · exact hgap t ht hne

/-- **Every markup consists of definitions and of gaps in which none is left.** -/
theorem exists_sectioned (markup : List Char) : ∃ ss, Sectioned markup ss := by
  fun_induction definitions markup with
  | case1 => exact ⟨[], .done fun t ht hne => absurd (List.suffix_nil.1 ht) hne⟩
  | case2 c cs x rest h _ ih =>
    obtain ⟨ss, hss⟩ := ih
    obtain ⟨s, hcs, -, hname, hbody⟩ := definition?_eq_some_iff_section.1 h
    refine ⟨s :: ss, ?_⟩
    rw [hcs]
    show Sectioned ([] ++ (s.text ++ rest)) (s :: ss)
    exact .more (fun t ht hne => absurd (List.suffix_nil.1 ht) hne) hname hbody hss
  | case3 c cs h ih =>
    obtain ⟨ss, hss⟩ := ih
    exact ⟨ss, hss.cons (definition?_eq_none_iff.1 h)⟩

end Pressroom.Markup
