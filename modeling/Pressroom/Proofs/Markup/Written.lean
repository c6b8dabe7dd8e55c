import Pressroom.Proofs.Markup.Draft
import Pressroom.Proofs.Markup.Walls

/-!
Looking for a marker in written tokens. Every marker that is looked for starts with one of three
leads, and inside a token there is none: not in text, not behind the wall that ends an expression,
not in what a marker carries. What is left is the start of a marker, which has another word or
another id, and the end of a marker in brackets, where the lead is and the word may be the text
that follows.
-/

namespace Pressroom.Markup

open Text

/-! ### Leads -/

/-- What the markers start with. -/
def leads : List (List Char) :=
  [['%', '%'], ['<', 'a', '-'], ['<', '/', 'a', '-']]

lemma forall_leads {P : List Char → Prop} :
    (∀ lead ∈ leads, P lead) ↔ P ['%', '%'] ∧ P ['<', 'a', '-'] ∧ P ['<', '/', 'a', '-'] := by
  simp [leads]

/-- No lead starts in the text, whatever stands behind it. -/
def Inert (p : List Char) : Prop :=
  ∀ lead ∈ leads, ∀ rest, Misses (stripFolded? foldAscii lead) p rest

lemma Inert.append {p q : List Char} (hp : Inert p) (hq : Inert q) : Inert (p ++ q) :=
  fun lead hlead rest => misses_append.2 ⟨hp lead hlead _, hq lead hlead rest⟩

lemma misses_of_not_mem {x : Char} {t p : List Char} (hx : x.isAlpha = false) (h : x ∉ p)
    (rest : List Char) :
    Misses (stripFolded? foldAscii (x :: t)) p rest := by
  intro s hs hne
  obtain ⟨c, s, rfl⟩ := List.exists_cons_of_ne_nil hne
  have hc : c ≠ x := fun he => h (he ▸ hs.subset (by simp))
  have hfold : foldAscii c ≠ foldAscii x := mt (foldAscii_eq_iff hx).1 hc
  simp [stripFolded?, hfold]

lemma inert_of_not_mem {p : List Char} (hpercent : '%' ∉ p) (hangle : '<' ∉ p) : Inert p :=
  forall_leads.2 ⟨misses_of_not_mem rfl hpercent, misses_of_not_mem rfl hangle,
    misses_of_not_mem rfl hangle⟩

lemma inert_of_all {p : List Char} (h : (p.all fun c => c != '%' && c != '<') = true) :
    Inert p := by
  simp only [List.all_eq_true, Bool.and_eq_true, bne_iff_ne] at h
  exact inert_of_not_mem (fun hc => (h _ hc).1 rfl) (fun hc => (h _ hc).2 rfl)

lemma strip_lone_sign {cs : List Char} (h : cs.head? ≠ some '%') :
    ∀ lead ∈ leads, stripFolded? foldAscii lead ('%' :: cs) = none := by
  refine forall_leads.2 ⟨?_, rfl, rfl⟩
  cases cs with
  | nil => rfl
  | cons c cs =>
    have hc : c ≠ '%' := fun he => h (congrArg some he)
    have hfold : foldAscii c ≠ foldAscii '%' := mt (foldAscii_eq_iff rfl).1 hc
    simp [stripFolded?, hfold]

lemma strip?_word (t : List Char) : Marker.strip? [.text t] = stripFolded? foldAscii t := by
  funext cs
  rw [Marker.strip?_text]
  cases stripFolded? foldAscii t cs <;> rfl

/-- What stands behind an expression and is no part of a lead. -/
def isWall (z : Char) : Bool :=
  z == '}' || z == '"' || z == ']' || z == ','

lemma Embedded.inert {close : Marker} {e : List Char} (he : Embedded close e) {z : Char}
    (hz : isWall z = true) : Inert (e ++ [z]) := by
  simp only [isWall, Bool.or_eq_true, beq_iff_eq] at hz
  have hlacks : ∀ lead ∈ leads, Marker.cut? [.text lead] e = none :=
    forall_leads.2 ⟨he.percents, he.opener, he.closer⟩
  have hrefuses : ∀ lead ∈ leads, ∀ p ∈ [Piece.text lead.tail], p.Refuses z := by
    rcases hz with ((rfl | rfl) | rfl) | rfl <;> decide
  intro lead hlead rest
  refine misses_append.2 ⟨?_, ?_⟩
  · have hne : lead ≠ [] := by
      rintro rfl
      exact absurd hlead (by decide)
    obtain ⟨x, t, rfl⟩ := List.exists_cons_of_ne_nil hne
    rw [← strip?_word]
    exact Marker.silent_wall (Marker.leads_text x t []) (hrefuses _ hlead) (hlacks _ hlead) rest
  · have hwall : Inert [z] := by
      rcases hz with ((rfl | rfl) | rfl) | rfl <;> exact inert_of_all rfl
    exact hwall lead hlead rest

/-! ### Markers start with leads -/

lemma exists_lead (d : Dialect) (part : Part) :
    ∃ lead ∈ leads, ∃ word, (d.start part).toList = lead ++ word := by
  cases d with
  | bracket =>
    exact ⟨['%', '%'], by decide, (Dialect.bracket.start part).toList.drop 2, by cases part <;> rfl⟩
  | tag =>
    by_cases h : part = .loopEnd ∨ part = .conditionalEnd
    · exact ⟨['<', '/', 'a', '-'], by decide, (Dialect.tag.start part).toList.drop 4, by
        rcases h with rfl | rfl <;> rfl⟩
    · exact ⟨['<', 'a', '-'], by decide, (Dialect.tag.start part).toList.drop 3, by
        cases part <;> first | rfl | exact absurd (by simp) h⟩

lemma strip?_seek_eq_none {d : Dialect} {part : Part} {cs : List Char}
    (h : ∀ lead ∈ leads, stripFolded? foldAscii lead cs = none) (id : List Char) :
    (d.seek part id).strip? cs = none := by
  obtain ⟨lead, hlead, word, hword⟩ := exists_lead d part
  rw [strip?_seek, hword, stripFolded?_append, h lead hlead]
  rfl

lemma Inert.silent {p : List Char} (hp : Inert p) (d : Dialect) (part : Part)
    (id rest : List Char) :
    (d.seek part id).Silent p rest :=
  fun t ht hne => strip?_seek_eq_none (fun lead hlead => hp lead hlead rest t ht hne) id

/-! ### Tokens -/

@[simp] lemma spell_nil : spell [] = [] := rfl

@[simp] lemma spell_cons (x : Token) (ts : List Token) : spell (x :: ts) = x.spelling ++ spell ts :=
  rfl

@[simp] lemma spell_append (ts us : List Token) : spell (ts ++ us) = spell ts ++ spell us :=
  List.flatMap_append

/-- A token that stands in a sound template. -/
def Token.Tame : Token → Prop
  | text t => Literal t
  | expression source => Inert (source ++ ['}'])
  | marker d part id carried =>
    IsId id ∧ Inert carried ∧ ∀ c ∈ (carried ++ (d.finish part).toList).head?, isIdLike c = false

lemma Token.IsText.exists_eq {x : Token} (h : x.IsText) : ∃ t, x = .text t := by
  cases x with
  | text t => exact ⟨t, rfl⟩
  | expression => exact absurd h id
  | marker => exact absurd h id

/-- What tokens other than text start with. -/
def isHead (z : Char) : Bool :=
  z == '%' || z == '<' || z == '{'

lemma exists_head {x : Token} (hx : ¬ x.IsText) :
    ∃ z r, x.spelling = z :: r ∧ isHead z = true := by
  cases x with
  | text t => exact absurd trivial hx
  | expression source => exact ⟨_, _, rfl, rfl⟩
  | marker d part id carried => cases d <;> cases part <;> exact ⟨_, _, rfl, rfl⟩

lemma isHead_of_apart {t : List Char} {ts : List Token} (hapart : Apart (.text t :: ts)) :
    ∀ z ∈ (spell ts).head?, isHead z = true := by
  cases ts with
  | nil => simp
  | cons y ts =>
    have hy : ¬ y.IsText := fun hy => (List.isChain_cons_cons.1 hapart).1 ⟨trivial, hy⟩
    obtain ⟨z, r, hspell, hz⟩ := exists_head hy
    simp [hspell, hz]

lemma signs_of_spell {ts : List Token} (h : ∀ x ∈ ts, x.Tame) {r : List Char}
    (hr : spell ts = '%' :: r) : ∃ s, r = '%' :: s := by
  induction ts with
  | nil => simp at hr
  | cons x ts ih =>
    rw [spell_cons] at hr
    cases x with
    | text t =>
      cases t with
      | nil => exact ih (fun y hy => h y (List.mem_cons_of_mem _ hy)) hr
      | cons c t =>
        obtain ⟨rfl, -⟩ := List.cons.inj hr
        have ht : Literal ('%' :: t) := h (.text ('%' :: t)) (by simp)
        exact absurd (by simp) ht.percent
    | expression source => exact absurd (List.cons.inj hr).1 (by decide)
    | marker d part id carried =>
      cases d with
      | bracket => cases part <;> exact ⟨_, (List.cons.inj hr).2.symm⟩
      | tag => cases part <;> exact absurd (List.cons.inj hr).1 (by decide)

lemma Literal.misses_opener {t : List Char} (ht : Literal t) {rest : List Char}
    (hrest : ∀ z ∈ rest.head?, isHead z = true) :
    Misses (stripFolded? foldAscii ['<', 'a']) t rest ∧
      Misses (stripFolded? foldAscii ['<', '/', 'a']) t rest := by
  rw [← strip?_word, ← strip?_word]
  cases rest with
  | nil => exact ⟨Marker.cut?_eq_none_iff.1 ht.opener, Marker.cut?_eq_none_iff.1 ht.closer⟩
  | cons z rest =>
    have hz : (z = '%' ∨ z = '<') ∨ z = '{' := by simpa [isHead] using hrest z rfl
    have hopener : ∀ p ∈ [Piece.text ['a']], p.Refuses z := by
      rcases hz with (rfl | rfl) | rfl <;> decide
    have hcloser : ∀ p ∈ [Piece.text ['/', 'a']], p.Refuses z := by
      rcases hz with (rfl | rfl) | rfl <;> decide
    exact ⟨Marker.silent_wall (Marker.leads_text _ _ _) hopener ht.opener rest,
      Marker.silent_wall (Marker.leads_text _ _ _) hcloser ht.closer rest⟩

lemma Literal.misses {t : List Char} (ht : Literal t) {rest : List Char}
    (hrest : ∀ z ∈ rest.head?, isHead z = true) {lead : List Char} (hlead : lead ∈ leads) :
    Misses (stripFolded? foldAscii lead) t rest := by
  obtain ⟨hopener, hcloser⟩ := ht.misses_opener hrest
  have hlonger {word : List Char} (h : Misses (stripFolded? foldAscii word) t rest) :
      Misses (stripFolded? foldAscii (word ++ ['-'])) t rest :=
    h.mono fun cs hcs => by rw [stripFolded?_append, hcs, Option.bind_none]
  simp only [leads, List.mem_cons, List.not_mem_nil, or_false] at hlead
  rcases hlead with rfl | rfl | rfl
  · exact misses_of_not_mem rfl ht.percent rest
  · exact hlonger hopener
  · exact hlonger hcloser

lemma IsId.inert {id : List Char} (hid : IsId id) : Inert id := by
  have hnot (x : Char) (hx : isIdDigit x = false) : x ∉ id := by
    intro hmem
    simp [hid.1 x hmem] at hx
  exact inert_of_not_mem (hnot '%' rfl) (hnot '<' rfl)

lemma exists_start (d : Dialect) (part : Part) :
    ∃ c tail, (d.start part).toList = c :: tail ∧ Inert tail := by
  cases d with
  | bracket =>
    -- the second sign has a letter behind it
    have htail {l : Char} {word : List Char} (hl : l ≠ '%') (hword : '%' ∉ l :: word)
        (hangle : '<' ∉ l :: word) : Inert ('%' :: l :: word) := by
      intro lead hlead rest
      exact misses_cons.2 ⟨strip_lone_sign (by simpa using hl) lead hlead,
        inert_of_not_mem hword hangle lead hlead rest⟩
    cases part <;> exact ⟨_, _, rfl, htail (by decide) (by decide) (by decide)⟩
  | tag => cases part <;> exact ⟨_, _, rfl, inert_of_all rfl⟩

lemma finish_ne_nil (d : Dialect) (part : Part) : (d.finish part).toList ≠ [] := by
  cases d <;> cases part <;> decide

section

variable {α : Type} {p : List Char → Option α} {d : Dialect} {part : Part} {id : List Char}

lemma misses_finish (hp : ∀ cs, (d.seek part id).strip? cs = none → p cs = none) (d' : Dialect)
    (part' : Part) {rest : List Token} (hrest : ∀ y ∈ rest, y.Tame)
    (hsite : d = .bracket → d' = .bracket → p ('%' :: '%' :: spell rest) = none) :
    Misses p (d'.finish part').toList (spell rest) := by
  cases d' with
  | tag =>
    have hinert : Inert (Dialect.tag.finish part').toList := by
      cases part' <;> exact inert_of_all rfl
    exact (hinert.silent d part id _).mono hp
  | bracket =>
    have hsigns : (Dialect.bracket.finish part').toList = ['%', '%'] := by cases part' <;> rfl
    rw [hsigns]
    refine misses_cons.2 ⟨?_, misses_cons.2 ⟨hp _ ?_, misses_nil _⟩⟩
    · cases d with
      | bracket => exact hsite rfl rfl
      | tag => exact hp _ (by cases part <;> rfl)
    · cases d with
      | tag => cases part <;> rfl
      | bracket =>
        by_cases hsign : (spell rest).head? = some '%'
        · -- then there is a third sign, where the marker has a letter
          obtain ⟨r, hspell⟩ := List.head?_eq_some_iff.1 hsign
          obtain ⟨s, rfl⟩ := signs_of_spell hrest hspell
          rw [hspell]
          cases part <;> rfl
        · exact strip?_seek_eq_none (strip_lone_sign hsign) id

/-- What needs a marker at its start does not find one anywhere in a token, unless the token is that
marker or the text behind a marker in brackets reads as one. -/
lemma misses_token (hid : IsId id) (hp : ∀ cs, (d.seek part id).strip? cs = none → p cs = none)
    {x : Token} {rest : List Token} (hx : x.Tame) (hrest : ∀ y ∈ rest, y.Tame)
    (hapart : Apart (x :: rest)) (hne : ∀ carried, x ≠ .marker d part id carried)
    (hsite : d = .bracket → x.IsSigns → p ('%' :: '%' :: spell rest) = none) :
    Misses p x.spelling (spell rest) := by
  have hinert {q : List Char} (hq : Inert q) (more : List Char) : Misses p q more :=
    (hq.silent d part id more).mono hp
  cases x with
  | text t =>
    have hx : Literal t := hx
    exact fun t' ht hne' => hp _ (strip?_seek_eq_none
      (fun lead hlead => hx.misses (isHead_of_apart hapart) hlead t' ht hne') id)
  | expression source =>
    have hbraces : Inert (['{', '{'] ++ (source ++ ['}']) ++ ['}']) :=
      ((inert_of_all rfl).append hx).append (inert_of_all rfl)
    have heq : (Token.expression source).spelling = ['{', '{'] ++ (source ++ ['}']) ++ ['}'] := by
      simp [Token.spelling]
    exact heq ▸ hinert hbraces _
  | marker d' part' id' carried =>
    obtain ⟨hid', hcarried, hfinish⟩ := hx
    rw [Token.spelling, misses_append]
    constructor
    · obtain ⟨c, tail, hstart, htail⟩ := exists_start d' part'
      have hother : ¬ (d = d' ∧ part = part' ∧ id = id') := by
        rintro ⟨rfl, rfl, rfl⟩
        exact hne carried rfl
      have hhead : ∀ c ∈ (carried ++ (d'.finish part').toList ++ spell rest).head?,
          isIdLike c = false := by
        rwa [List.head?_append_of_ne_nil _ (List.append_ne_nil_of_right_ne_nil _
          (finish_ne_nil d' part'))]
      have hfirst := strip?_seek_other hid hid' hhead hother
      rw [hstart, List.cons_append, List.cons_append, misses_cons]
      refine ⟨hp _ ?_, hinert ((htail.append hid'.inert).append hcarried) _⟩
      rw [← hfirst, hstart]
      simp
    · exact misses_finish hp d' part' hrest fun hd hd' => hsite hd (by rw [hd']; trivial)

/-- What needs a marker at its start finds none in a row of tokens, unless the marker is there or
the text behind a marker in brackets reads as one. -/
theorem misses_tokens (hid : IsId id) (hp : ∀ cs, (d.seek part id).strip? cs = none → p cs = none)
    {ts rest : List Token} (htame : ∀ x ∈ ts ++ rest, x.Tame) (hapart : Apart (ts ++ rest))
    (hne : ∀ carried, .marker d part id carried ∉ ts)
    (hsite : d = .bracket → ∀ x us, x :: us <:+ ts → x.IsSigns →
      p ('%' :: '%' :: spell (us ++ rest)) = none) :
    Misses p (spell ts) (spell rest) := by
  induction ts with
  | nil => exact misses_nil _
  | cons x ts ih =>
    rw [spell_cons, misses_append, ← spell_append]
    constructor
    · refine misses_token hid hp (htame x (by simp))
        (fun y hy => htame y (List.mem_cons_of_mem _ hy)) hapart ?_
        (fun hd hx => hsite hd x ts List.suffix_rfl hx)
      rintro carried rfl
      exact hne carried (by simp)
    · refine ih (fun y hy => htame y (List.mem_cons_of_mem _ hy)) hapart.of_cons
        (fun carried hmem => hne carried (List.mem_cons_of_mem _ hmem)) fun hd y us hus => ?_
      exact hsite hd y us (hus.trans (List.suffix_cons x ts))

end

/-! ### Text behind signs -/

/-- What stands behind the word of a marker in brackets. -/
def Part.close : Part → List Char
  | elseIf => ['{']
  | _ => ['%', '%']

lemma strip?_signs (part : Part) (id cs : List Char) :
    (Dialect.bracket.seek part id).strip? ('%' :: '%' :: cs) =
      (Marker.strip? [.text ((Dialect.bracket.start part).toList.drop 2 ++ id), .blanks] cs).bind
        (Marker.strip? [.text part.close]) := by
  rw [← Marker.strip?_append]
  cases part <;> rfl

lemma refuses_word {part : Part} {id : List Char} (hid : IsId id) {z : Char}
    (hz : isHead z = true) :
    ∀ p ∈ [Piece.text ((Dialect.bracket.start part).toList.drop 2 ++ id), .blanks],
      p.Refuses z := by
  have hz : z ∈ ['%', '<', '{'] := by simpa [isHead, or_assoc] using hz
  have hblank : ∀ z ∈ ['%', '<', '{'], isBlank z = false ∧ isIdLike z = false := by decide
  have hword : ∀ z ∈ ['%', '<', '{'], ∀ c ∈ (Dialect.bracket.start part).toList.drop 2,
      foldAscii z ≠ foldAscii c := by
    cases part <;> decide
  simp only [List.forall_mem_cons]
  refine ⟨fun c hc he => ?_, (hblank z hz).1, by simp⟩
  rcases List.mem_append.1 hc with hc | hc
  · exact hword z hz c hc he
  · have hlike : isIdLike c = true := by simp [isIdLike, hid.1 c hc]
    rw [← eq_of_fold_idLike hlike he, (hblank z hz).2] at hlike
    simp at hlike

lemma strip?_text_of_apart {m : Marker} (hm : ∀ z, isHead z = true → ∀ p ∈ m, p.Refuses z)
    {t r : List Char} {us : List Token} (hapart : Apart (.text t :: us))
    (h : m.strip? (t ++ spell us) = some r) : ∃ s, m.strip? t = some s ∧ r = s ++ spell us := by
  have hhead := isHead_of_apart hapart
  cases hspell : spell us with
  | nil => exact ⟨r, by simpa [hspell] using h, by simp⟩
  | cons z q =>
    rw [hspell] at h
    exact Marker.strip?_wall (hm z (hhead z (by rw [hspell]; rfl))) h

lemma Literal.eq_nil_of_close {t s : List Char} (ht : Literal t) (hs : s <:+ t) {part : Part}
    {rest r : List Char} (h : stripFolded? foldAscii part.close (s ++ rest) = some r) : s = [] := by
  cases s with
  | nil => rfl
  | cons c s =>
    have hc : c ∈ t := hs.subset (by simp)
    obtain ⟨x, tail, hclose, hx⟩ : ∃ x tail, part.close = x :: tail ∧ (x = '%' ∨ x = '{') := by
      cases part <;> exact ⟨_, _, rfl, by simp⟩
    have hfold : foldAscii c ≠ foldAscii x := by
      intro he
      rcases hx with rfl | rfl
      · exact ht.percent ((foldAscii_eq_iff rfl).1 he ▸ hc)
      · exact ht.brace ((foldAscii_eq_iff rfl).1 he ▸ hc)
    simp [hclose, stripFolded?, hfold] at h

/-- Where signs that belong to a marker are taken for the start of another one, the word of that one
is the text behind them. -/
lemma text_of_signs {part : Part} {id : List Char} (hid : IsId id) {rest : List Token}
    (htame : ∀ x ∈ rest, x.Tame) (hapart : Apart rest) {r : List Char}
    (h : (Dialect.bracket.seek part id).strip? ('%' :: '%' :: spell rest) = some r) :
    ∃ t us, rest = .text t :: us ∧ Spells part id t ∧
      stripFolded? foldAscii part.close (spell us) = some r := by
  rw [strip?_signs] at h
  obtain ⟨r1, hr1, hr⟩ := Option.bind_eq_some_iff.1 h
  rw [strip?_word] at hr
  obtain ⟨l, word, hword⟩ : ∃ l word, (Dialect.bracket.start part).toList.drop 2 ++ id =
      l :: word := by
    cases part <;> exact ⟨_, _, rfl⟩
  cases rest with
  | nil => simp [hword, Marker.strip?_text, stripFolded?] at hr1
  | cons x us =>
    by_cases hx : x.IsText
    · obtain ⟨t, rfl⟩ := hx.exists_eq
      have ht : Literal t := htame (.text t) (by simp)
      obtain ⟨s, hs, rfl⟩ := strip?_text_of_apart (fun z => refuses_word hid) hapart hr1
      obtain rfl := ht.eq_nil_of_close (Marker.strip?_suffix hs) hr
      exact ⟨t, us, rfl, hs, hr⟩
    · obtain ⟨z, q, hspell, hz⟩ := exists_head hx
      have hl : foldAscii z ≠ foldAscii l := by
        have hrefuses : ∀ c ∈ (Dialect.bracket.start part).toList.drop 2 ++ id,
            foldAscii z ≠ foldAscii c := refuses_word hid hz _ (List.mem_cons_self ..)
        exact hrefuses l (by simp [hword])
      simp [hspell, hword, Marker.strip?_text, stripFolded?, hl] at hr1

lemma signs_of_strip? {t r : List Char} {us : List Token} (hapart : Apart (.text t :: us))
    (h : stripFolded? foldAscii ['%', '%'] (spell us) = some r) :
    ∃ y vs, us = y :: vs ∧ y.IsSigns := by
  cases us with
  | nil => simp [stripFolded?] at h
  | cons y us =>
    refine ⟨y, us, rfl, ?_⟩
    cases y with
    | text s => exact absurd ⟨trivial, trivial⟩ (List.isChain_cons_cons.1 hapart).1
    | expression e => cases h
    | marker d part id carried =>
      cases d with
      | bracket => trivial
      | tag => cases part <;> cases h

lemma expression_of_strip? {t r : List Char} {us : List Token} (hapart : Apart (.text t :: us))
    (h : stripFolded? foldAscii ['{'] (spell us) = some r) :
    ∃ e vs, us = .expression e :: vs ∧ r = '{' :: e ++ ['}', '}'] ++ spell vs := by
  cases us with
  | nil => simp [stripFolded?] at h
  | cons y us =>
    cases y with
    | text s => exact absurd ⟨trivial, trivial⟩ (List.isChain_cons_cons.1 hapart).1
    | expression e => exact ⟨e, us, rfl, by simpa [Token.spelling, stripFolded?] using h.symm⟩
    | marker d part id carried =>
      cases d <;> cases part <;> cases h

/-- The first token behind a row of tokens is a marker, if there is one. -/
def Marked (ts : List Token) : Prop :=
  ∀ x ∈ ts.head?, ∃ d part id carried, x = .marker d part id carried

lemma eq_cons_of_append {x : Token} {us rest vs : List Token} (hrest : Marked rest)
    (hx : ∀ d part id carried, x ≠ .marker d part id carried) (h : us ++ rest = x :: vs) :
    ∃ ws, us = x :: ws ∧ vs = ws ++ rest := by
  cases us with
  | nil =>
    obtain ⟨d, part, id, carried, he⟩ := hrest x (by rw [← List.nil_append rest, h]; rfl)
    exact absurd he (hx d part id carried)
  | cons y us =>
    obtain ⟨rfl, rfl⟩ := List.cons.inj h
    exact ⟨us, rfl, rfl⟩

section

variable {d : Dialect} {id : List Char} {ts rest : List Token}

/-- Where a marker is found at the signs that end a token, the word of the marker is a text behind
that token, and the text is no part of what stands behind the row. -/
lemma text_of_signs_mem {part : Part} (hid : IsId id) (htame : ∀ x ∈ ts ++ rest, x.Tame)
    (hapart : Apart (ts ++ rest)) (hrest : Marked rest) {x : Token} {us : List Token}
    (hus : x :: us <:+ ts) {r : List Char}
    (h : (Dialect.bracket.seek part id).strip? ('%' :: '%' :: spell (us ++ rest)) = some r) :
    ∃ t ws, us = .text t :: ws ∧ Spells part id t ∧ Apart (.text t :: (ws ++ rest)) ∧
      stripFolded? foldAscii part.close (spell (ws ++ rest)) = some r := by
  have hsub : us ++ rest <:+ ts ++ rest := by
    obtain ⟨pre, hpre⟩ := (List.suffix_cons x us).trans hus
    exact ⟨pre, by rw [← List.append_assoc, hpre]⟩
  have hbehind := hapart.suffix hsub
  obtain ⟨t, vs, hvs, hspells, hclose⟩ :=
    text_of_signs hid (fun y hy => htame y (hsub.subset hy)) hbehind h
  obtain ⟨ws, rfl, rfl⟩ := eq_cons_of_append hrest (by simp) hvs
  exact ⟨t, ws, rfl, hspells, hbehind, hclose⟩

/-- **Markers are found at markers.** A marker that is looked for in a row of tokens is not found in
them unless it is one of them or a text there reads as it. -/
theorem silent_tokens {part : Part} (hpart : part ≠ .elseIf) (hid : IsId id)
    (htame : ∀ x ∈ ts ++ rest, x.Tame) (hapart : Apart (ts ++ rest)) (hrest : Marked rest)
    (hne : ∀ carried, .marker d part id carried ∉ ts)
    (hstray : ¬ Stray d part id (ts ++ rest.take 1)) :
    (d.seek part id).Silent (spell ts) (spell rest) := by
  refine misses_tokens hid (fun _ h => h) htame hapart hne fun hd x us hus hx => ?_
  subst hd
  cases hs : (Dialect.bracket.seek part id).strip? ('%' :: '%' :: spell (us ++ rest)) with
  | none => rfl
  | some r =>
    exfalso
    obtain ⟨t, ws, rfl, hspells, hbehind, hclose⟩ :=
      text_of_signs_mem hid htame hapart hrest hus hs
    have hsigns : part.close = ['%', '%'] := by
      cases part <;> first | rfl | exact absurd rfl hpart
    rw [hsigns] at hclose
    obtain ⟨y, zs, hy, hysigns⟩ := signs_of_strip? hbehind hclose
    obtain ⟨vs, hvs⟩ : ∃ vs, ws ++ rest.take 1 = y :: vs := by
      cases ws with
      | nil =>
        rw [List.nil_append] at hy
        exact ⟨[], by simp [hy]⟩
      | cons w ws =>
        obtain ⟨rfl, -⟩ := List.cons.inj hy
        exact ⟨ws ++ rest.take 1, rfl⟩
    obtain ⟨pre, rfl⟩ := hus
    exact hstray ⟨rfl, x :: .text t :: y :: vs, (List.mem_tails _ _).2 ⟨pre, by simp [← hvs]⟩,
      hx, hysigns, hspells⟩

/-- The `else-if` of a conditional is not found in the body of a branch, unless a text there reads
as one that has an end. -/
theorem misses_elseIf (hid : IsId id) (htame : ∀ x ∈ ts ++ rest, x.Tame)
    (hapart : Apart (ts ++ rest)) (hrest : Marked rest)
    (hne : ∀ carried, .marker d .elseIf id carried ∉ ts) (hstray : ¬ StrayElseIf d id ts rest) :
    Misses (elseIf? d id) (spell ts) (spell rest) := by
  have hp (cs : List Char) (h : (d.seek .elseIf id).strip? cs = none) : elseIf? d id cs = none := by
    rw [elseIf?, elseIfOpen_eq, h]
    rfl
  refine misses_tokens hid hp htame hapart hne fun hd x us hus hx => ?_
  subst hd
  cases hs : (Dialect.bracket.seek .elseIf id).strip? ('%' :: '%' :: spell (us ++ rest)) with
  | none => exact hp _ hs
  | some r =>
    obtain ⟨t, ws, rfl, hspells, hbehind, hclose⟩ :=
      text_of_signs_mem hid htame hapart hrest hus hs
    obtain ⟨e, zs, hy, rfl⟩ := expression_of_strip? hbehind hclose
    obtain ⟨ws, rfl, rfl⟩ := eq_cons_of_append hrest (by simp) hy
    rw [elseIf?, elseIfOpen_eq, hs]
    by_contra hcut
    exact hstray ⟨rfl, x :: .text t :: .expression e :: ws, (List.mem_tails _ _).2 hus, hx, hspells,
      hcut⟩

end

end Pressroom.Markup
