import Pressroom.Html.Image
import Pressroom.Html.Link
import Pressroom.Proofs.Text.Cuts
import Pressroom.Proofs.Text.Fold

/-!
What the patterns for tags find. An opening tag is its name and all that follows up to the first
`>`. An image is looked at up to the first source in quotes, with no `>` in front of it. Main
statements: these are the matches, all of them and no others.
-/

namespace Pressroom.Html

open Text

def IsWord (name : String) (word : List Char) : Prop :=
  word.map foldSimple = name.toList.map foldSimple

lemma afterWord?_eq_some_iff {name : String} {cs rest : List Char} :
    afterWord? name cs = some rest ↔ ∃ word, IsWord name word ∧ cs = word ++ rest := by
  rw [afterWord?, stripFolded?_eq_some_iff]
  exact exists_congr fun word => and_comm

lemma afterTagName?_eq_some_iff {name : String} {cs rest : List Char} :
    afterTagName? name cs = some rest ↔
      ∃ word, IsWord name word ∧ cs = '<' :: word ++ rest ∧ endsWord rest = true := by
  unfold afterTagName?
  split
  · next hnone =>
    refine ⟨nofun, ?_⟩
    rintro ⟨word, -, rfl, -⟩
    cases hnone
  · next tail htail =>
    rw [strip?_eq_some_iff] at htail
    subst htail
    rw [Option.filter_eq_some_iff, afterWord?_eq_some_iff]
    constructor
    · rintro ⟨⟨word, hword, rfl⟩, hends⟩
      exact ⟨word, hword, rfl, hends⟩
    · rintro ⟨word, hword, hcs, hends⟩
      exact ⟨⟨word, hword, (List.cons.inj hcs).2⟩, hends⟩

/-! ### Opening tags -/

lemma upTo_append_right (before rest : List Char) : upTo (before ++ rest) rest = before := by
  simp [upTo]

/-- An opening tag: its name in any case, of which it is the end, and all up to the first `>`. -/
def IsOpenTag (name : String) (tag : List Char) : Prop :=
  ∃ word inner, IsWord name word ∧ endsWord (inner ++ ['>']) = true ∧ '>' ∉ inner ∧
    tag = '<' :: word ++ inner ++ ['>']

lemma endsWord_append_cons (inner rest : List Char) :
    endsWord (inner ++ '>' :: rest) = endsWord (inner ++ ['>']) := by
  cases inner <;> rfl

lemma IsWord.not_mem {name : String} {word : List Char} {c : Char} (h : IsWord name word)
    (hfold : foldSimple c = c) (hname : c ∉ name.toList.map foldSimple) : c ∉ word := fun hmem =>
  hname (h ▸ List.mem_map.2 ⟨c, hmem, hfold⟩)

lemma dropWhile_ne_append {c : Char} {before : List Char} (h : c ∉ before) (rest : List Char) :
    (before ++ c :: rest).dropWhile (· != c) = c :: rest := by
  rw [List.dropWhile_append_of_pos fun d hd => by
    simpa using fun heq : d = c => h (heq ▸ hd)]
  simp

lemma exists_of_dropWhile_ne {c d : Char} {cs rest : List Char}
    (h : cs.dropWhile (· != c) = d :: rest) :
    d = c ∧ ∃ before, c ∉ before ∧ cs = before ++ c :: rest := by
  have hd : d = c := by
    have := List.head_dropWhile_not (· != c) (l := cs) (by simp [h])
    simpa [h] using this
  subst hd
  refine ⟨rfl, cs.takeWhile (· != d), fun hmem => ?_, ?_⟩
  · simpa using List.mem_takeWhile_imp hmem
  · rw [← h, List.takeWhile_append_dropWhile]

/-- **Opening tags are what is found as such.** -/
lemma openTag?_eq_some_iff {name : String} (hname : '>' ∉ name.toList.map foldSimple)
    {cs tag rest : List Char} :
    openTag? name cs = some (tag, rest) ↔ IsOpenTag name tag ∧ cs = tag ++ rest := by
  constructor
  · intro h
    obtain ⟨htag, hsuffix⟩ := suffix_of_openTag? h
    have hcs : cs = tag ++ rest := htag ▸ (upTo_append (suffix_of_cons_suffix hsuffix).1).symm
    refine ⟨?_, hcs⟩
    unfold openTag? at h
    split at h
    · cases h
    · next hnone =>
      obtain ⟨tail, htail⟩ := Option.ne_none_iff_exists'.1 (by simpa using hnone)
      obtain ⟨word, hword, rfl, hends⟩ := afterTagName?_eq_some_iff.1 htail
      have hfront : '>' ∉ '<' :: word := by simpa using hword.not_mem (by decide) hname
      rw [List.dropWhile_append_of_pos fun c hc => by
        simpa using fun heq : c = '>' => hfront (heq ▸ hc)] at h
      split at h
      · next behind hdrop =>
        obtain ⟨-, inner, hinner, rfl⟩ := exists_of_dropWhile_ne hdrop
        cases h
        refine ⟨word, inner, hword, by rwa [endsWord_append_cons] at hends, hinner, ?_⟩
        refine List.append_cancel_right (hcs.symm.trans ?_)
        simp
      · cases h
  · rintro ⟨⟨word, inner, hword, hends, hinner, rfl⟩, rfl⟩
    have hcs : '<' :: word ++ inner ++ ['>'] ++ rest = '<' :: word ++ inner ++ '>' :: rest := by
      simp
    have hfound : afterTagName? name ('<' :: word ++ inner ++ '>' :: rest) =
        some (inner ++ '>' :: rest) := by
      refine afterTagName?_eq_some_iff.2 ⟨word, hword, by simp, ?_⟩
      rw [endsWord_append_cons, hends]
    have hfront : '>' ∉ '<' :: word ++ inner := by
      simpa using ⟨hword.not_mem (by decide) hname, hinner⟩
    unfold openTag?
    rw [hcs, hfound, dropWhile_ne_append hfront, ← hcs]
    simp only [Option.isNone_some, Bool.false_eq_true, if_false, upTo_append_right]

lemma starts_openTag_iff {name : String} (hname : '>' ∉ name.toList.map foldSimple)
    {text : List Char} :
    (openTag name).Starts text ↔ '>' ∈ text ∧
      ∃ word rest, IsWord name word ∧ text = '<' :: word ++ rest ∧ endsWord rest = true := by
  rw [Pattern.Starts, Option.ne_none_iff_exists']
  constructor
  · rintro ⟨⟨tag, rest⟩, hmatch⟩
    obtain ⟨⟨word, inner, hword, hends, -, rfl⟩, rfl⟩ := (openTag?_eq_some_iff hname).1 hmatch
    refine ⟨by simp, word, inner ++ '>' :: rest, hword, by simp, ?_⟩
    rw [endsWord_append_cons, hends]
  · rintro ⟨hclose, word, rest, hword, rfl, hends⟩
    have hmem : '>' ∈ rest := by
      simpa [hword.not_mem (by decide) hname] using hclose
    obtain ⟨inner, after, rfl, hinner⟩ := List.eq_append_cons_of_mem hmem
    rw [endsWord_append_cons] at hends
    exact ⟨(_, after), (openTag?_eq_some_iff hname).2
      ⟨⟨word, inner, hword, hends, hinner, rfl⟩, by simp⟩⟩

lemma word_in_front {word front rest behind : List Char} (hword : '<' ∉ word) (hfront : front ≠ [])
    (h : front ++ '<' :: behind = '<' :: word ++ rest) :
    ∃ inner, front = '<' :: word ++ inner ∧ rest = inner ++ '<' :: behind := by
  rcases List.append_eq_append_iff.1 h with ⟨inner, hinner, hrest⟩ | ⟨inner, hinner, hrest⟩
  · cases inner with
    | nil => exact ⟨[], by simpa using hinner.symm, by simpa using hrest.symm⟩
    | cons c inner =>
      obtain ⟨d, front, rfl⟩ := List.exists_cons_of_ne_nil hfront
      cases hrest
      cases hinner
      exact absurd (List.mem_append_right front List.mem_cons_self) hword
  · exact ⟨inner, hinner, hrest⟩

/-- No opening tag starts in a text in front of a tag that is closed; what tag that is does not
matter. -/
lemma free_openTag {name : String} (hopen : '<' ∉ name.toList.map foldSimple)
    (hclose : '>' ∉ name.toList.map foldSimple) {text behind other : List Char}
    (hclosed : '>' ∈ behind) (h : Free (openTag name).Starts text ('<' :: behind)) :
    Free (openTag name).Starts text ('<' :: other) := by
  rintro before after rfl hafter hstarts
  refine h before after rfl hafter ?_
  rw [starts_openTag_iff hclose] at hstarts ⊢
  obtain ⟨-, word, rest, hword, htext, hends⟩ := hstarts
  obtain ⟨inner, rfl, rfl⟩ := word_in_front (hword.not_mem (by decide) hopen) hafter htext
  refine ⟨by simp [hclosed], word, inner ++ '<' :: behind, hword, by simp, ?_⟩
  cases inner <;> exact hends

/-- A value in quotes: a quote that the value does not have. -/
def IsQuoted (quote : Char) (value : List Char) : Prop :=
  (quote = '"' ∨ quote = '\'') ∧ quote ∉ value

lemma quoted?_eq_some_iff {cs value rest : List Char} {quote : Char} :
    quoted? cs = some (quote, value, rest) ↔
      IsQuoted quote value ∧ cs = quote :: value ++ quote :: rest := by
  constructor
  · intro h
    refine ⟨?_, eq_of_quoted? h⟩
    unfold quoted? at h
    split at h
    · cases h
    · split at h
      · next hquote =>
        split at h
        · cases h
        · cases h
          exact ⟨hquote, fun hmem => by simpa using List.mem_takeWhile_imp hmem⟩
      · cases h
  · rintro ⟨⟨hquote, hvalue⟩, rfl⟩
    have htake : (value ++ quote :: rest).takeWhile (· != quote) = value := by
      rw [List.takeWhile_append_of_pos fun c hc => by
        simpa using fun heq : c = quote => hvalue (heq ▸ hc)]
      simp
    rw [List.cons_append, quoted?, if_pos hquote, dropWhile_ne_append hvalue, htake]

lemma head_of_quoted? {cs : List Char} (h : (quoted? cs).isSome) :
    ∀ c ∈ cs.head?, isBlank c = false := by
  obtain ⟨⟨quote, value, rest⟩, hquoted⟩ := Option.isSome_iff_exists.1 h
  obtain ⟨⟨hquote, -⟩, rfl⟩ := quoted?_eq_some_iff.1 hquoted
  rintro c ⟨⟩
  rcases hquote with rfl | rfl <;> decide

/-! ### Sources -/

lemma skipBlanks_eq_iff {cs rest : List Char} :
    skipBlanks cs = rest ↔ (∀ c ∈ rest.head?, isBlank c = false) ∧
      ∃ before, (∀ c ∈ before, isBlank c = true) ∧ cs = before ++ rest := by
  constructor
  · rintro rfl
    refine ⟨fun c hc => ?_, cs.takeWhile isBlank, fun c hc => List.mem_takeWhile_imp hc,
      (takeWhile_append_skipBlanks cs).symm⟩
    have hhead := List.head?_dropWhile_not isBlank cs
    rw [← skipBlanks, Option.mem_def.1 hc] at hhead
    exact hhead
  · rintro ⟨hrest, before, hbefore, rfl⟩
    rw [skipBlanks, List.dropWhile_append_of_pos hbefore]
    cases rest with
    | nil => rfl
    | cons c rest => simp [hrest c rfl]

/-- A source attribute up to the quote that opens its value, with the blank in front of it. -/
def IsSourceStart (text : List Char) : Prop :=
  ∃ blank word before after, isBlank blank = true ∧ IsWord "src" word ∧
    (∀ c ∈ before, isBlank c = true) ∧ (∀ c ∈ after, isBlank c = true) ∧
    text = blank :: word ++ before ++ '=' :: after

/-- A source in quotes stands at the start of the text. -/
def StartsSource (text : List Char) : Prop :=
  ∃ start rest, IsSourceStart start ∧ (quoted? rest).isSome ∧ text = start ++ rest

lemma afterEquals?_eq_some_iff {cs rest : List Char} :
    afterEquals? cs = some rest ↔ (∀ c ∈ rest.head?, isBlank c = false) ∧
      ∃ before after, (∀ c ∈ before, isBlank c = true) ∧ (∀ c ∈ after, isBlank c = true) ∧
        cs = before ++ '=' :: after ++ rest := by
  simp only [afterEquals?, Option.map_eq_some_iff, strip?_eq_some_iff, skipBlanks_eq_iff]
  constructor
  · rintro ⟨tail, ⟨-, before, hbefore, rfl⟩, hrest, after, hafter, rfl⟩
    exact ⟨hrest, before, after, hbefore, hafter, by simp⟩
  · rintro ⟨hrest, before, after, hbefore, hafter, rfl⟩
    refine ⟨after ++ rest, ⟨?_, before, hbefore, by simp⟩, hrest, after, hafter, rfl⟩
    rintro c ⟨⟩
    decide

lemma afterSource?_eq_some_iff {cs rest : List Char} :
    afterSource? cs = some rest ↔
      (∀ c ∈ rest.head?, isBlank c = false) ∧
        ∃ start, IsSourceStart start ∧ cs = start ++ rest := by
  constructor
  · intro h
    unfold afterSource? at h
    split at h
    · cases h
    · next blank tail =>
      split at h
      · next hblank =>
        obtain ⟨behind, hname, hequals⟩ := Option.bind_eq_some_iff.1 h
        obtain ⟨word, hword, rfl⟩ := afterWord?_eq_some_iff.1 hname
        obtain ⟨hrest, before, after, hbefore, hafter, rfl⟩ := afterEquals?_eq_some_iff.1 hequals
        exact ⟨hrest, _, ⟨blank, word, before, after, hblank, hword, hbefore, hafter, rfl⟩, by simp⟩
      · cases h
  · rintro ⟨hrest, start, ⟨blank, word, before, after, hblank, hword, hbefore, hafter, rfl⟩, rfl⟩
    have hequals : afterEquals? (before ++ '=' :: after ++ rest) = some rest :=
      afterEquals?_eq_some_iff.2 ⟨hrest, before, after, hbefore, hafter, rfl⟩
    have hname : afterWord? "src" (word ++ (before ++ '=' :: after ++ rest)) =
        some (before ++ '=' :: after ++ rest) :=
      afterWord?_eq_some_iff.2 ⟨word, hword, rfl⟩
    have htext : blank :: word ++ before ++ '=' :: after ++ rest =
        blank :: (word ++ (before ++ '=' :: after ++ rest)) := by simp
    rw [htext, afterSource?, if_pos hblank, hname, Option.bind_some, hequals]

lemma filter_afterSource?_eq_some_iff {cs rest : List Char} :
    ((afterSource? cs).filter fun rest => (quoted? rest).isSome) = some rest ↔
      ∃ start, IsSourceStart start ∧ (quoted? rest).isSome ∧ cs = start ++ rest := by
  rw [Option.filter_eq_some_iff, afterSource?_eq_some_iff]
  constructor
  · rintro ⟨⟨-, start, hstart, rfl⟩, hquoted⟩
    exact ⟨start, hstart, hquoted, rfl⟩
  · rintro ⟨start, hstart, hquoted, rfl⟩
    exact ⟨⟨head_of_quoted? hquoted, start, hstart, rfl⟩, hquoted⟩

lemma startsSource_iff {cs : List Char} :
    StartsSource cs ↔
      ((afterSource? cs).filter fun rest => (quoted? rest).isSome).isSome := by
  rw [Option.isSome_iff_exists, StartsSource, exists_comm]
  exact exists_congr fun rest => filter_afterSource?_eq_some_iff.symm

/-- The first source in quotes of a text, with no `>` in front of it: what is skipped, its start and
the rest of the text from its quote on. -/
structure FirstSource (text skipped start rest : List Char) : Prop where
  inside : '>' ∉ skipped
  starts : IsSourceStart start
  quoted : (quoted? rest).isSome
  text_eq : text = skipped ++ (start ++ rest)
  free : Free StartsSource skipped (start ++ rest)

lemma firstSource_nil_iff {text start rest : List Char} :
    FirstSource text [] start rest ↔
      IsSourceStart start ∧ (quoted? rest).isSome ∧ text = start ++ rest :=
  ⟨fun h => ⟨h.starts, h.quoted, h.text_eq⟩,
    fun h => ⟨List.not_mem_nil, h.1, h.2.1, h.2.2, free_nil _⟩⟩

lemma firstSource_cons_iff {c d : Char} {text skipped start rest : List Char} :
    FirstSource (c :: text) (d :: skipped) start rest ↔
      d = c ∧ c ≠ '>' ∧ ¬ StartsSource (c :: text) ∧ FirstSource text skipped start rest := by
  constructor
  · rintro ⟨hinside, hstarts, hquoted, htext, hfree⟩
    obtain ⟨rfl, rfl⟩ := List.cons.inj htext
    rw [List.mem_cons, not_or] at hinside
    obtain ⟨hhere, hfree⟩ := free_cons_iff.1 hfree
    exact ⟨rfl, Ne.symm hinside.1, hhere, hinside.2, hstarts, hquoted, rfl, hfree⟩
  · rintro ⟨rfl, hclose, hhere, hinside, hstarts, hquoted, rfl, hfree⟩
    exact ⟨by simpa using ⟨hclose.symm, hinside⟩, hstarts, hquoted, rfl,
      free_cons_iff.2 ⟨hhere, hfree⟩⟩

lemma sourceIn?_eq_some_iff {cs rest : List Char} :
    sourceIn? cs = some rest ↔ ∃ skipped start, FirstSource cs skipped start rest := by
  induction cs with
  | nil =>
    refine ⟨nofun, ?_⟩
    rintro ⟨skipped, start, -, ⟨_, _, _, _, -, -, -, -, rfl⟩, -, hcs, -⟩
    simp at hcs
  | cons c cs ih =>
    rw [sourceIn?]
    split
    · next found hfound =>
      have hstarts : StartsSource (c :: cs) := startsSource_iff.2 (by rw [hfound]; rfl)
      rw [Option.some.injEq]
      constructor
      · rintro rfl
        obtain ⟨start, h⟩ := filter_afterSource?_eq_some_iff.1 hfound
        exact ⟨[], start, firstSource_nil_iff.2 h⟩
      · rintro ⟨skipped, start, h⟩
        cases skipped with
        | nil =>
          have hrest := filter_afterSource?_eq_some_iff.2 ⟨start, firstSource_nil_iff.1 h⟩
          exact Option.some.inj (hfound.symm.trans hrest)
        | cons d skipped => exact absurd hstarts (firstSource_cons_iff.1 h).2.2.1
    · next hnone =>
      have hstarts : ¬ StartsSource (c :: cs) := by
        rw [startsSource_iff, hnone]
        exact Bool.false_ne_true
      -- The first source is further on, behind a character that may not end the tag.
      have hfurther {skipped start : List Char} (h : FirstSource (c :: cs) skipped start rest) :
          c ≠ '>' ∧ ∃ skipped, FirstSource cs skipped start rest := by
        cases skipped with
        | nil => exact absurd ⟨start, rest, firstSource_nil_iff.1 h⟩ hstarts
        | cons d skipped =>
          obtain ⟨-, hclose, -, h⟩ := firstSource_cons_iff.1 h
          exact ⟨hclose, skipped, h⟩
      split
      · next hclose =>
        refine ⟨fun h => absurd h (Option.some_ne_none rest).symm, ?_⟩
        rintro ⟨skipped, start, h⟩
        exact absurd hclose (hfurther h).1
      · next hclose =>
        rw [ih]
        constructor
        · rintro ⟨skipped, start, h⟩
          exact ⟨c :: skipped, start, firstSource_cons_iff.2 ⟨rfl, hclose, hstarts, h⟩⟩
        · rintro ⟨skipped, start, h⟩
          obtain ⟨-, skipped, h⟩ := hfurther h
          exact ⟨skipped, start, h⟩

/-! ### Images -/

/-- An image at the start of a text, up to the first source in quotes in its tag. -/
def StartsImage (text : List Char) (image : Image) (rest : List Char) : Prop :=
  ∃ word skipped start, IsWord "img" word ∧ endsWord (skipped ++ start) = true ∧ '>' ∉ skipped ∧
    IsSourceStart start ∧ IsQuoted image.quote image.source ∧
    image.opening = '<' :: word ++ skipped ++ start ∧ text = image.spell ++ rest ∧
    Free StartsSource skipped (start ++ (image.quote :: image.source ++ image.quote :: rest))

lemma IsSourceStart.endsWord_append {start : List Char} (h : IsSourceStart start)
    (skipped rest : List Char) :
    endsWord (skipped ++ (start ++ rest)) = endsWord (skipped ++ start) := by
  obtain ⟨blank, word, before, after, -, -, -, -, rfl⟩ := h
  cases skipped <;> rfl

lemma upTo_opening (word skipped start inner : List Char) :
    upTo ('<' :: word ++ (skipped ++ (start ++ inner))) inner =
      '<' :: word ++ skipped ++ start := by
  have htext : '<' :: word ++ (skipped ++ (start ++ inner)) =
      '<' :: word ++ skipped ++ start ++ inner := by simp
  rw [htext, upTo_append_right]

/-- **Images are what is found as such.** -/
lemma image?_eq_some_iff {cs rest : List Char} {image : Image} :
    image? cs = some (image, rest) ↔ StartsImage cs image rest := by
  constructor
  · intro h
    have hspell := spell_of_image? h
    unfold image? at h
    split at h
    · cases h
    · next inner hinner =>
      obtain ⟨tail, hname, hsource⟩ := Option.bind_eq_some_iff.1 hinner
      obtain ⟨⟨quote, source, behind⟩, hquoted, hdone⟩ := Option.map_eq_some_iff.1 h
      obtain ⟨word, hword, rfl, hends⟩ := afterTagName?_eq_some_iff.1 hname
      obtain ⟨skipped, start, hskipped, hstart, -, rfl, hfree⟩ := sourceIn?_eq_some_iff.1 hsource
      obtain ⟨hvalue, rfl⟩ := quoted?_eq_some_iff.1 hquoted
      cases hdone
      rw [hstart.endsWord_append] at hends
      refine ⟨word, skipped, start, hword, hends, hskipped, hstart, hvalue, ?_, hspell, hfree⟩
      exact upTo_opening word skipped start _
  · rintro ⟨word, skipped, start, hword, hends, hskipped, hstart, hvalue, hopening, rfl, hfree⟩
    obtain ⟨opening, quote, source⟩ := image
    dsimp only at hvalue hopening hfree
    subst hopening
    generalize hinner : quote :: source ++ quote :: rest = inner at hfree
    have hquoted : quoted? inner = some (quote, source, rest) :=
      quoted?_eq_some_iff.2 ⟨hvalue, hinner.symm⟩
    have hsource : sourceIn? (skipped ++ (start ++ inner)) = some inner :=
      sourceIn?_eq_some_iff.2
        ⟨skipped, start, hskipped, hstart, by rw [hquoted]; rfl, rfl, hfree⟩
    have hname : afterTagName? "img" ('<' :: word ++ (skipped ++ (start ++ inner))) =
        some (skipped ++ (start ++ inner)) :=
      afterTagName?_eq_some_iff.2 ⟨word, hword, rfl, by rw [hstart.endsWord_append, hends]⟩
    have htext : Image.spell ⟨'<' :: word ++ skipped ++ start, quote, source⟩ ++ rest =
        '<' :: word ++ (skipped ++ (start ++ inner)) := by
      simp [Image.spell, ← hinner]
    rw [htext, image?, hname, Option.bind_some, hsource]
    dsimp only
    rw [hquoted, upTo_opening]
    rfl

end Pressroom.Html
