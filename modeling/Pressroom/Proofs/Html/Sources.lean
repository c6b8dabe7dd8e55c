import Pressroom.Proofs.Html.Tags

/-!
New sources for the images of a page. A source stands between two quotes of one kind, and a new one
is put between the same quotes. So it ends too early if it holds that quote; and if it holds the
other one, it may close a source further to the front that was left open, and with it end an image
where there was none. Main statement: the images with their new sources are found again, in full and
in their order, just when neither happens.
-/

namespace Pressroom.Html

open Text

/-! ### Opened sources -/

lemma append_cons_cases {a b s t : List Char} {c d : Char} (h : a ++ c :: s = b ++ d :: t) :
    (a = b ∧ c = d ∧ s = t) ∨ (∃ r, b = a ++ c :: r ∧ s = r ++ d :: t) ∨
      ∃ r, a = b ++ d :: r ∧ t = r ++ c :: s := by
  rcases List.append_eq_append_iff.1 h with ⟨r, rfl, hr⟩ | ⟨r, rfl, hr⟩
  · cases r with
    | nil =>
      obtain ⟨rfl, rfl⟩ := List.cons.inj hr
      exact .inl ⟨(List.append_nil a).symm, rfl, rfl⟩
    | cons e r =>
      obtain ⟨rfl, hs⟩ := List.cons.inj hr
      exact .inr (.inl ⟨r, rfl, hs⟩)
  · cases r with
    | nil =>
      obtain ⟨rfl, rfl⟩ := List.cons.inj hr
      exact .inl ⟨List.append_nil b, rfl, rfl⟩
    | cons e r =>
      obtain ⟨rfl, ht⟩ := List.cons.inj hr
      exact .inr (.inr ⟨r, rfl, ht⟩)

def IsQuote (c : Char) : Prop := c = '"' ∨ c = '\''

lemma IsSourceStart.not_mem {start : List Char} {c : Char} (h : IsSourceStart start)
    (hblank : isBlank c = false) (hequals : c ≠ '=') (hfold : foldSimple c = c)
    (hname : c ∉ "src".toList.map foldSimple) : c ∉ start := by
  obtain ⟨blank, word, before, after, hb, hword, hbefore, hafter, rfl⟩ := h
  have hc {d : Char} (hd : isBlank d = true) : c ≠ d := by
    rintro rfl
    exact Bool.false_ne_true (hblank.symm.trans hd)
  simp only [List.mem_append, List.mem_cons, not_or]
  exact ⟨⟨⟨hc hb, hword.not_mem hfold hname⟩, fun hmem => hc (hbefore c hmem) rfl⟩, hequals,
    fun hmem => hc (hafter c hmem) rfl⟩

lemma IsSourceStart.quote_not_mem {start : List Char} {quote : Char} (h : IsSourceStart start)
    (hquote : IsQuote quote) : quote ∉ start := by
  rcases hquote with rfl | rfl <;>
    exact h.not_mem (by decide) (by decide) (by decide) (by decide)

lemma IsSourceStart.close_not_mem {start : List Char} (h : IsSourceStart start) : '>' ∉ start :=
  h.not_mem (by decide) (by decide) (by decide) (by decide)

/-- An image tag up to the quote that opens one of its sources. -/
def IsImageStart (tag : List Char) : Prop :=
  ∃ word skipped start, IsWord "img" word ∧ endsWord (skipped ++ start) = true ∧ '>' ∉ skipped ∧
    IsSourceStart start ∧ tag = '<' :: word ++ skipped ++ start

/-- An image tag at the start of a text opens a source with a quote, and this is the rest. -/
def Opens (quote : Char) (text rest : List Char) : Prop :=
  IsQuote quote ∧ ∃ tag, IsImageStart tag ∧ text = tag ++ quote :: rest

lemma quoted?_isSome_iff {text : List Char} :
    (quoted? text).isSome ↔ ∃ quote rest, IsQuote quote ∧ quote ∈ rest ∧ text = quote :: rest := by
  rw [Option.isSome_iff_exists]
  constructor
  · rintro ⟨⟨quote, value, rest⟩, h⟩
    obtain ⟨⟨hquote, -⟩, rfl⟩ := quoted?_eq_some_iff.1 h
    exact ⟨quote, value ++ quote :: rest, hquote, by simp, rfl⟩
  · rintro ⟨quote, rest, hquote, hmem, rfl⟩
    obtain ⟨value, after, rfl, hvalue⟩ := List.eq_append_cons_of_mem hmem
    exact ⟨(quote, value, after), quoted?_eq_some_iff.2 ⟨⟨hquote, hvalue⟩, rfl⟩⟩

lemma exists_firstSource {skipped text : List Char} (hinside : '>' ∉ skipped)
    (h : StartsSource text) :
    ∃ skipped' start rest, FirstSource (skipped ++ text) skipped' start rest := by
  induction skipped with
  | nil =>
    obtain ⟨start, rest, hstart, hquoted, rfl⟩ := h
    exact ⟨[], start, rest, firstSource_nil_iff.2 ⟨hstart, hquoted, rfl⟩⟩
  | cons c skipped ih =>
    rw [List.mem_cons, not_or] at hinside
    by_cases hhere : StartsSource (c :: (skipped ++ text))
    · obtain ⟨start, rest, hstart, hquoted, htext⟩ := hhere
      exact ⟨[], start, rest, firstSource_nil_iff.2 ⟨hstart, hquoted, htext⟩⟩
    · obtain ⟨skipped', start, rest, hfirst⟩ := ih hinside.2
      exact ⟨c :: skipped', start, rest,
        firstSource_cons_iff.2 ⟨rfl, Ne.symm hinside.1, hhere, hfirst⟩⟩

lemma starts_image_iff {text : List Char} :
    image.Starts text ↔ ∃ quote rest, Opens quote text rest ∧ quote ∈ rest := by
  rw [Pattern.Starts, Option.ne_none_iff_exists']
  constructor
  · rintro ⟨⟨found, rest⟩, hmatch⟩
    obtain ⟨word, skipped, start, hword, hends, hskipped, hstart, hquoted, hopening, rfl, -⟩ :=
      image?_eq_some_iff.1 hmatch
    refine ⟨found.quote, found.source ++ found.quote :: rest, ⟨hquoted.1, found.opening,
      ⟨word, skipped, start, hword, hends, hskipped, hstart, hopening⟩, ?_⟩, by simp⟩
    simp [Image.spell]
  · rintro ⟨quote, rest, ⟨hquote, tag, ⟨word, skipped, start, hword, hends, hskipped, hstart, rfl⟩,
      rfl⟩, hmem⟩
    have hsource : StartsSource (start ++ quote :: rest) :=
      ⟨start, _, hstart, quoted?_isSome_iff.2 ⟨quote, rest, hquote, hmem, rfl⟩, rfl⟩
    obtain ⟨skipped', start', rest', hfirst⟩ := exists_firstSource hskipped hsource
    obtain ⟨⟨quote', source, behind⟩, hquoted⟩ := Option.isSome_iff_exists.1 hfirst.quoted
    have hname : afterTagName? "img" ('<' :: word ++ skipped ++ start ++ quote :: rest) =
        some (skipped ++ (start ++ quote :: rest)) :=
      afterTagName?_eq_some_iff.2
        ⟨word, hword, by simp, by rw [hstart.endsWord_append, hends]⟩
    rw [← Option.ne_none_iff_exists']
    show image? _ ≠ none
    unfold image?
    rw [hname, Option.bind_some, sourceIn?_eq_some_iff.2 ⟨skipped', start', hfirst⟩]
    dsimp only
    rw [hquoted]
    exact Option.some_ne_none _

/-! ### The first source of an image -/

lemma Image.spell_append (image : Image) (rest : List Char) :
    image.spell ++ rest =
      image.opening ++ image.quote :: (image.source ++ image.quote :: rest) := by
  simp [Image.spell]

lemma Image.mem_spell_iff {image : Image} {c : Char} :
    c ∈ image.spell ↔ c ∈ image.opening ∨ c = image.quote ∨ c ∈ image.source := by
  simp [Image.spell, or_comm, or_left_comm]

lemma IsWord.length_eq {name : String} {word : List Char} (h : IsWord name word) :
    word.length = name.toList.length := by
  simpa using congrArg List.length h

lemma StartsImage.isImageStart {text rest : List Char} {image : Image}
    (h : StartsImage text image rest) : IsImageStart image.opening := by
  obtain ⟨word, skipped, start, hword, hends, hskipped, hstart, -, hopening, -⟩ := h
  exact ⟨word, skipped, start, hword, hends, hskipped, hstart, hopening⟩

lemma StartsImage.isQuoted {text rest : List Char} {image : Image}
    (h : StartsImage text image rest) : IsQuoted image.quote image.source := by
  obtain ⟨_, _, _, -, -, -, -, hquoted, -⟩ := h
  exact hquoted

lemma StartsImage.not_closed {text rest r : List Char} {image : Image} {quote : Char}
    (h : StartsImage text image rest) (hopens : Opens quote image.opening r) :
    quote ∉ r ++ image.quote :: (image.source ++ image.quote :: rest) := by
  obtain ⟨word, skipped, start, hword, -, -, hstart, -, hopening, -, hfree⟩ := h
  obtain ⟨hquote, tag, ⟨word', skipped', start', hword', -, -, hstart', rfl⟩, htag⟩ := hopens
  rw [hopening] at htag
  simp only [List.cons_append, List.append_assoc, List.cons.injEq, true_and] at htag
  obtain ⟨-, htail⟩ := List.append_inj htag (hword.length_eq.trans hword'.length_eq.symm)
  rcases List.append_eq_append_iff.1 htail with ⟨t, -, ht⟩ | ⟨t, rfl, ht⟩
  · refine absurd ?_ (hstart.quote_not_mem hquote)
    rw [ht]
    simp
  · by_cases hnil : t = []
    · refine absurd ?_ (hstart.quote_not_mem hquote)
      rw [hnil, List.nil_append] at ht
      rw [← ht]
      simp
    · intro hmem
      refine hfree skipped' t rfl hnil ⟨start', _, hstart',
        quoted?_isSome_iff.2 ⟨quote, _, hquote, hmem, rfl⟩, ?_⟩
      rw [← List.append_assoc, ← ht]
      simp

/-- **An image ends at the first source that is closed.** -/
lemma image?_eq_some_iff_first {text rest : List Char} {image : Image} :
    image? text = some (image, rest) ↔
      text = image.spell ++ rest ∧ IsImageStart image.opening ∧
      IsQuoted image.quote image.source ∧
      ∀ quote r, Opens quote image.opening r →
        quote ∉ r ++ image.quote :: (image.source ++ image.quote :: rest) := by
  constructor
  · intro h
    have hstarts := image?_eq_some_iff.1 h
    exact ⟨spell_of_image? h, hstarts.isImageStart, hstarts.isQuoted,
      fun quote r hopens => hstarts.not_closed hopens⟩
  · rintro ⟨htext, hopening, hquoted, hfirst⟩
    have hopens : Opens image.quote text (image.source ++ image.quote :: rest) :=
      ⟨hquoted.1, image.opening, hopening, htext.trans (image.spell_append rest)⟩
    obtain ⟨⟨found, rest'⟩, hfound⟩ :=
      Option.ne_none_iff_exists'.1 (starts_image_iff.2 ⟨_, _, hopens, by simp⟩)
    have hstarts := image?_eq_some_iff.1 hfound
    have hspell : image.opening ++ image.quote :: (image.source ++ image.quote :: rest) =
        found.opening ++ found.quote :: (found.source ++ found.quote :: rest') := by
      rw [← image.spell_append, ← found.spell_append, ← htext, ← spell_of_image? hfound]
    -- Of two openings the shorter one would be left open in the longer one, but it is closed.
    rcases append_cons_cases hspell with ⟨hopening', hquote, htail⟩ | ⟨r, hr, htail⟩ | ⟨r, hr, htail⟩
    · rw [hquote] at htail hquoted
      rcases append_cons_cases htail with ⟨hsource, -, rfl⟩ | ⟨r, hr, -⟩ | ⟨r, hr, -⟩
      · cases image
        cases found
        cases hopening'
        cases hquote
        cases hsource
        exact hfound
      · exact absurd (hr ▸ by simp) hstarts.isQuoted.2
      · exact absurd (hr ▸ by simp) hquoted.2
    · refine absurd ?_ (hstarts.not_closed ⟨hquoted.1, image.opening, hopening, hr⟩)
      rw [← htail]
      simp
    · refine absurd ?_ (hfirst found.quote r
        ⟨hstarts.isQuoted.1, found.opening, hstarts.isImageStart, hr⟩)
      rw [← htail]
      simp

/-! ### One image with a new source -/

/-- A quote opens a source in front of the source of an image, in the tag of the image or of one
that starts in the text before it. -/
def LeavesOpen (before opening : List Char) (quote : Char) : Prop :=
  ∃ front rest, front <:+ before ∧ Opens quote (front ++ opening) rest

/-- If the tag of an image goes on behind the opening of another one, it might as well have the
source of that one. -/
lemma isImageStart_of_longer {front opening more : List Char} (hfront : front ≠ [])
    (hopening : IsImageStart opening) (h : IsImageStart (front ++ opening ++ more)) :
    IsImageStart (front ++ opening) := by
  obtain ⟨word, skipped, start, hword, -, hskipped, hstart, rfl⟩ := hopening
  obtain ⟨word', skipped', start', hword', hends, hskipped', hstart', htag⟩ := h
  have htag' : front ++ '<' :: (word ++ skipped ++ start ++ more) =
      '<' :: word' ++ (skipped' ++ start') := by
    simpa using htag
  obtain ⟨inner, rfl, hinner⟩ := word_in_front (hword'.not_mem (by decide) (by decide)) hfront htag'
  have hclose : '>' ∉ inner := fun hmem => by
    have hmem' : '>' ∈ skipped' ++ start' := hinner ▸ List.mem_append_left _ hmem
    simp [hskipped', hstart'.close_not_mem] at hmem'
  refine ⟨word', inner ++ '<' :: word ++ skipped, start, hword', ?_, ?_, hstart, by simp⟩
  · rw [hinner] at hends
    cases inner <;> exact hends
  · simpa using ⟨hclose, hword.not_mem (by decide) (by decide), hskipped⟩

/-- A source that is opened in front of an image is opened in front of its source, or the image
might as well start further to the front. -/
lemma Opens.cases {front opening behind rest : List Char} {quote q : Char} (hfront : front ≠ [])
    (hopening : IsImageStart opening) (h : Opens q (front ++ (opening ++ quote :: behind)) rest) :
    (∃ r, Opens q (front ++ opening) r ∧ rest = r ++ quote :: behind) ∨
      IsImageStart (front ++ opening) := by
  obtain ⟨hq, tag, htag, heq⟩ := h
  rw [← List.append_assoc] at heq
  rcases append_cons_cases heq with ⟨rfl, -, -⟩ | ⟨r, rfl, -⟩ | ⟨r, hr, htail⟩
  · exact .inr htag
  · exact .inr (isImageStart_of_longer hfront hopening htag)
  · exact .inl ⟨r, ⟨hq, tag, htag, hr⟩, htail⟩

section Respell

variable {before rest rest' source : List Char} {found : Image}

lemma not_closed_of_opens (hfree : Free image.Starts before (found.spell ++ rest))
    (hmatch : image? (found.spell ++ rest) = some (found, rest)) {front r : List Char} {quote : Char}
    (hfront : front <:+ before) (h : Opens quote (front ++ found.opening) r) :
    quote ∉ r ++ found.quote :: (found.source ++ found.quote :: rest) := by
  by_cases hnil : front = []
  · rw [hnil] at h
    exact (image?_eq_some_iff.1 hmatch).not_closed h
  · obtain ⟨a, rfl⟩ := hfront
    intro hmem
    refine hfree a front rfl hnil (starts_image_iff.2 ⟨quote, _, ⟨h.1, ?_⟩, hmem⟩)
    obtain ⟨-, tag, htag, heq⟩ := h
    refine ⟨tag, htag, ?_⟩
    rw [found.spell_append, ← List.append_assoc, heq]
    simp

/-- **An image with a new source is found again** just when the source does not hold its quote, and
nothing that was left open in front of it is closed now. -/
lemma respell_iff (hfree : Free image.Starts before (found.spell ++ rest))
    (hmatch : image? (found.spell ++ rest) = some (found, rest)) :
    (Free image.Starts before ((found.withSource source).spell ++ rest') ∧
        image? ((found.withSource source).spell ++ rest') =
          some (found.withSource source, rest')) ↔
      found.quote ∉ source ∧ ∀ quote, LeavesOpen before found.opening quote →
        quote ∉ source ++ found.quote :: rest' := by
  have hstarts := image?_eq_some_iff.1 hmatch
  constructor
  · rintro ⟨hfree', hmatch'⟩
    refine ⟨(image?_eq_some_iff.1 hmatch').isQuoted.2, ?_⟩
    rintro quote ⟨front, r, hfront, hopens⟩ hmem
    refine not_closed_of_opens hfree' hmatch' hfront hopens ?_
    exact List.mem_append_right r (List.mem_cons_of_mem _ hmem)
  · rintro ⟨hquote, hopen⟩
    -- What was left open is closed neither in front of the source, as before, nor behind.
    have hnot {front r : List Char} {quote : Char} (hfront : front <:+ before)
        (hopens : Opens quote (front ++ found.opening) r) :
        quote ∉ r ++ found.quote :: (source ++ found.quote :: rest') := by
      have hold := not_closed_of_opens hfree hmatch hfront hopens
      have hnew := hopen quote ⟨front, r, hfront, hopens⟩
      simp only [List.mem_append, List.mem_cons, not_or] at hold hnew ⊢
      exact ⟨hold.1, hold.2.1, hnew⟩
    constructor
    · rintro a front rfl hne hstarts'
      obtain ⟨quote, r, hopens, hmem⟩ := starts_image_iff.1 hstarts'
      rw [Image.spell_append] at hopens
      rcases hopens.cases hne hstarts.isImageStart with ⟨r, hleft, rfl⟩ | hstart
      · exact hnot (List.suffix_append a front) hleft hmem
      · have hold : Opens found.quote (front ++ (found.spell ++ rest))
            (found.source ++ found.quote :: rest) :=
          ⟨hstarts.isQuoted.1, front ++ found.opening, hstart, by
            rw [found.spell_append, List.append_assoc]⟩
        exact hfree a front rfl hne (starts_image_iff.2 ⟨_, _, hold, by simp⟩)
    · exact image?_eq_some_iff_first.2 ⟨rfl, hstarts.isImageStart, ⟨hstarts.isQuoted.1, hquote⟩,
        fun quote r hopens => hnot List.nil_suffix hopens⟩

lemma free_of_occurrences_respell (hfree : Free image.Starts before (found.spell ++ rest))
    (hmatch : image? (found.spell ++ rest) = some (found, rest)) {images : List Image}
    (h : image.occurrences (before ++ ((found.withSource source).spell ++ rest')) =
      found.withSource source :: images) :
    Free image.Starts before ((found.withSource source).spell ++ rest') := by
  have hstarts := image?_eq_some_iff.1 hmatch
  rcases free_or_exists_first image.Starts before ((found.withSource source).spell ++ rest')
    with hfree' | ⟨a, front, rfl, hne, hfront, hstart⟩
  · exact hfree'
  · -- An image further to the front would be this one, and what it opens is never closed.
    obtain ⟨⟨first, behind⟩, hfirst⟩ := Option.ne_none_iff_exists'.1 hstart
    rw [List.append_assoc, Pattern.occurrences_append_of_free hfront,
      Pattern.occurrences_of_match hfirst] at h
    obtain ⟨rfl, -⟩ := List.cons.inj h
    have htext := spell_of_image? hfirst
    rw [Image.spell_append, Image.spell_append, ← List.append_assoc] at htext
    rcases append_cons_cases htext with ⟨heq, -, -⟩ | ⟨r, heq, -⟩ | ⟨r, heq, -⟩
    · exact absurd (by simpa using heq) hne
    · have hlength := congrArg List.length heq
      simp at hlength
      omega
    · refine absurd ?_ (not_closed_of_opens hfree hmatch (List.suffix_append a front)
        ⟨hstarts.isQuoted.1, found.opening, hstarts.isImageStart, heq⟩)
      simp

lemma occurrences_respell_iff (hfree : Free image.Starts before (found.spell ++ rest))
    (hmatch : image? (found.spell ++ rest) = some (found, rest)) {images : List Image} :
    image.occurrences (before ++ ((found.withSource source).spell ++ rest')) =
        found.withSource source :: images ↔
      (found.quote ∉ source ∧ ∀ quote, LeavesOpen before found.opening quote →
        quote ∉ source ++ found.quote :: rest') ∧ image.occurrences rest' = images := by
  have hstarts := image?_eq_some_iff.1 hmatch
  rw [← respell_iff hfree hmatch]
  constructor
  · intro h
    have hfree' := free_of_occurrences_respell hfree hmatch h
    rw [Pattern.occurrences_append_of_free hfree'] at h
    have hopens : Opens found.quote ((found.withSource source).spell ++ rest')
        (source ++ found.quote :: rest') :=
      ⟨hstarts.isQuoted.1, found.opening, hstarts.isImageStart, Image.spell_append _ _⟩
    obtain ⟨⟨first, behind⟩, hfirst⟩ :=
      Option.ne_none_iff_exists'.1 (starts_image_iff.2 ⟨_, _, hopens, by simp⟩)
    rw [Pattern.occurrences_of_match hfirst] at h
    obtain ⟨rfl, himages⟩ := List.cons.inj h
    cases List.append_cancel_left (spell_of_image? hfirst)
    exact ⟨⟨hfree', hfirst⟩, himages⟩
  · rintro ⟨⟨hfree', hmatch'⟩, rfl⟩
    rw [Pattern.occurrences_append_of_free hfree', Pattern.occurrences_of_match hmatch']

end Respell

/-! ### All images with new sources -/

/-- An image of a page, with the text in front of it and the new source that it gets, if any. -/
structure Rewrite where
  before : List Char
  found : Image
  source? : Option (List Char)

namespace Rewrite

/-- The image as it is meant to be. -/
def image (rewrite : Rewrite) : Image :=
  rewrite.found.withSource (rewrite.source?.getD rewrite.found.source)

/-- The image as it was, with the text in front of it. -/
def piece (rewrite : Rewrite) : List Char × Image :=
  (rewrite.before, rewrite.found)

/-- A page with these images. -/
def page (rewrites : List Rewrite) (last : List Char) : List Char :=
  (rewrites.flatMap fun rewrite => rewrite.before ++ rewrite.image.spell) ++ last

/-- A new source does not hold the quote that it is put between. -/
def EndsAtQuote (rewrite : Rewrite) : Prop :=
  ∀ source ∈ rewrite.source?, rewrite.found.quote ∉ source

/-- What is left open in front of an image is not closed by the new source of another one. -/
def NotClosedBy (rewrite other : Rewrite) : Prop :=
  ∀ source ∈ other.source?, ∀ quote, LeavesOpen rewrite.before rewrite.found.opening quote →
    quote ∉ source

/-- No new source holds the quote of its image, nor one that anything in front of it left open. -/
def KeepsQuotes (rewrites : List Rewrite) : Prop :=
  (∀ rewrite ∈ rewrites, rewrite.EndsAtQuote ∧ rewrite.NotClosedBy rewrite) ∧
    rewrites.Pairwise NotClosedBy

variable {rewrite : Rewrite} {rewrites : List Rewrite} {last : List Char} {c : Char}

lemma page_cons :
    page (rewrite :: rewrites) last =
      rewrite.before ++ (rewrite.image.spell ++ page rewrites last) := by
  simp [page]

lemma mem_source_of_mem_image (h : c ∈ rewrite.image.source) :
    c ∈ rewrite.found.source ∨ ∃ source ∈ rewrite.source?, c ∈ source := by
  cases hsource : rewrite.source? with
  | none => exact .inl (by simpa [image, hsource, Image.withSource] using h)
  | some source => exact .inr ⟨source, rfl, by simpa [image, hsource, Image.withSource] using h⟩

lemma image_source_of_mem {source : List Char} (h : source ∈ rewrite.source?) :
    rewrite.image.source = source := by
  rw [image, Option.mem_def.1 h]
  rfl

lemma mem_spell_of_mem_image (h : c ∈ rewrite.image.spell) :
    c ∈ rewrite.found.spell ∨ ∃ source ∈ rewrite.source?, c ∈ source := by
  rw [Image.mem_spell_iff] at h ⊢
  rcases h with h | h | h
  · exact .inl (.inl h)
  · exact .inl (.inr (.inl h))
  · exact (mem_source_of_mem_image h).imp_left fun h => .inr (.inr h)

lemma mem_of_mem_page (h : c ∈ page rewrites last) :
    (c ∈ ((rewrites.map piece).flatMap fun piece => piece.1 ++ piece.2.spell) ++ last) ∨
      ∃ rewrite ∈ rewrites, ∃ source ∈ rewrite.source?, c ∈ source := by
  rw [page, List.mem_append, List.mem_flatMap] at h
  rcases h with ⟨rewrite, hrewrite, h⟩ | h
  · have hold (hc : c ∈ rewrite.before ++ rewrite.found.spell) :
        c ∈ ((rewrites.map piece).flatMap fun piece => piece.1 ++ piece.2.spell) ++ last :=
      List.mem_append_left _ (List.mem_flatMap.2 ⟨_, List.mem_map_of_mem hrewrite, hc⟩)
    rcases List.mem_append.1 h with h | h
    · exact .inl (hold (List.mem_append_left _ h))
    · rcases mem_spell_of_mem_image h with h | h
      · exact .inl (hold (List.mem_append_right _ h))
      · exact .inr ⟨rewrite, hrewrite, h⟩
  · exact .inl (List.mem_append_right _ h)

lemma mem_page_of_mem {source : List Char} (hrewrite : rewrite ∈ rewrites)
    (hsource : source ∈ rewrite.source?) (h : c ∈ source) : c ∈ page rewrites last := by
  refine List.mem_append_left _ (List.mem_flatMap.2 ⟨rewrite, hrewrite, List.mem_append_right _ ?_⟩)
  rw [← image_source_of_mem hsource] at h
  exact Image.mem_spell_iff.2 (.inr (.inr h))

lemma keepsQuotes_cons_iff :
    KeepsQuotes (rewrite :: rewrites) ↔
      (rewrite.EndsAtQuote ∧ ∀ other ∈ rewrite :: rewrites, rewrite.NotClosedBy other) ∧
        KeepsQuotes rewrites := by
  simp only [KeepsQuotes, List.forall_mem_cons, List.pairwise_cons]
  tauto

lemma keepsQuotes_of_quote_not_mem {text : List Char}
    (h : Html.image.Cuts text (rewrites.map piece) last)
    (hsource : ∀ rewrite ∈ rewrites, ∀ source ∈ rewrite.source?, ∀ quote, IsQuote quote →
      quote ∉ source) :
    KeepsQuotes rewrites := by
  have hopen {rewrite other : Rewrite} (hother : other ∈ rewrites) : rewrite.NotClosedBy other := by
    rintro source hmem quote ⟨front, rest, -, hopens⟩
    exact hsource other hother source hmem quote hopens.1
  refine ⟨fun rewrite hrewrite => ⟨fun source hmem => ?_, hopen hrewrite⟩,
    List.pairwise_of_forall_mem_list fun _ _ _ hother => hopen hother⟩
  obtain ⟨text, rest, hmatch⟩ := h.match_of_mem (List.mem_map_of_mem hrewrite)
  exact hsource rewrite hrewrite source hmem _ (image?_eq_some_iff.1 hmatch).isQuoted.1

/-- The first image of a page and those behind it are found again just when its new source ends at
its quote, and neither it nor any behind it closes what is left open in front of it. -/
lemma first_keepsQuotes_iff {rest : List Char}
    (hrest : rest = ((rewrites.map piece).flatMap fun piece => piece.1 ++ piece.2.spell) ++ last)
    (hfree : Free Html.image.Starts rewrite.before (rewrite.found.spell ++ rest))
    (hmatch : image? (rewrite.found.spell ++ rest) = some (rewrite.found, rest)) :
    (rewrite.found.quote ∉ rewrite.image.source ∧
        ∀ quote, LeavesOpen rewrite.before rewrite.found.opening quote →
          quote ∉ rewrite.image.source ++ rewrite.found.quote :: page rewrites last) ↔
      rewrite.EndsAtQuote ∧ ∀ other ∈ rewrite :: rewrites, rewrite.NotClosedBy other := by
  have hquoted := (image?_eq_some_iff.1 hmatch).isQuoted
  constructor
  · rintro ⟨hquote, hopen⟩
    constructor
    · intro source hsource
      rwa [image_source_of_mem hsource] at hquote
    · intro other hother source hsource quote hleaves hmem
      refine hopen quote hleaves ?_
      rcases List.mem_cons.1 hother with rfl | hother
      · rw [image_source_of_mem hsource]
        exact List.mem_append_left _ hmem
      · exact List.mem_append_right _ (List.mem_cons_of_mem _ (mem_page_of_mem hother hsource hmem))
  · rintro ⟨hends, hclosed⟩
    constructor
    · intro hmem
      rcases mem_source_of_mem_image hmem with hmem | ⟨source, hsource, hmem⟩
      · exact hquoted.2 hmem
      · exact hends source hsource hmem
    · intro quote hleaves hmem
      obtain ⟨front, r, hfront, hopens⟩ := hleaves
      have hold := not_closed_of_opens hfree hmatch hfront hopens
      simp only [List.mem_append, List.mem_cons, not_or] at hold
      have hnew {other : Rewrite} (hother : other ∈ rewrite :: rewrites) {source : List Char}
          (hsource : source ∈ other.source?) : quote ∉ source :=
        hclosed other hother source hsource quote ⟨front, r, hfront, hopens⟩
      rcases List.mem_append.1 hmem with hmem | hmem
      · rcases mem_source_of_mem_image hmem with hmem | ⟨source, hsource, hmem⟩
        · exact hold.2.2.1 hmem
        · exact hnew List.mem_cons_self hsource hmem
      · rcases List.mem_cons.1 hmem with hmem | hmem
        · exact hold.2.1 hmem
        · rcases mem_of_mem_page hmem with hmem | ⟨other, hother, source, hsource, hmem⟩
          · exact hold.2.2.2.2 (hrest ▸ hmem)
          · exact hnew (List.mem_cons_of_mem _ hother) hsource hmem

/-- **The images of a page with new sources** are found again, all of them and no others, just when
the sources keep to their quotes. -/
theorem occurrences_page_iff {text : List Char}
    (h : Html.image.Cuts text (rewrites.map piece) last) :
    Html.image.occurrences (page rewrites last) = rewrites.map image ↔ KeepsQuotes rewrites := by
  induction rewrites generalizing text with
  | nil =>
    cases h with
    | last hfree => simp [page, Pattern.occurrences_of_free hfree, KeepsQuotes]
  | cons rewrite rewrites ih =>
    cases h with
    | next hfree hmatch hrest =>
      have htext := spell_of_image? hmatch
      subst htext
      rw [page_cons, List.map_cons, keepsQuotes_cons_iff, ← ih hrest,
        ← first_keepsQuotes_iff hrest.eq_append hfree hmatch]
      exact occurrences_respell_iff hfree hmatch

end Rewrite

end Pressroom.Html
