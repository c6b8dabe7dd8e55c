import Pressroom.Html.Body
import Pressroom.Proofs.Html.Tags

/-!
The body of a template: what stands between the first opening tag of a body and the first closing
tag behind it. Main statement: to place a body is a lawful update. What is placed stands between the
two tags as it is, all around it stays, and of two bodies that are placed one after the other the
second is left as if the first had never been there, unless the first brings a closing tag with it.
-/

namespace Pressroom.Html

open Text

/-! ### Closing tags -/

/-- A closing tag: its name in any case, and blanks at most in front of the `>`. -/
def IsCloseTag (name : String) (tag : List Char) : Prop :=
  ∃ word blanks, IsWord name word ∧ (∀ c ∈ blanks, isBlank c = true) ∧
    tag = '<' :: '/' :: word ++ blanks ++ ['>']

/-- **Closing tags are what is found as such.** -/
lemma closeTag?_eq_some_iff {name : String} {cs tag rest : List Char} :
    closeTag? name cs = some (tag, rest) ↔ IsCloseTag name tag ∧ cs = tag ++ rest := by
  constructor
  · intro h
    obtain ⟨htag, hsuffix⟩ := suffix_of_closeTag? h
    have hcs : cs = tag ++ rest := htag ▸ (upTo_append (suffix_of_cons_suffix hsuffix).1).symm
    refine ⟨?_, hcs⟩
    unfold closeTag? at h
    split at h
    · cases h
    · next tail htail =>
      obtain ⟨behind, hstrip, hname⟩ := Option.bind_eq_some_iff.1 htail
      obtain ⟨word, hword, rfl⟩ := afterWord?_eq_some_iff.1 hname
      rw [strip?_eq_some_iff] at hstrip
      split at h
      · next hskip =>
        obtain ⟨-, blanks, hblanks, rfl⟩ := skipBlanks_eq_iff.1 hskip
        cases h
        refine ⟨word, blanks, hword, hblanks, List.append_cancel_right (hcs.symm.trans ?_)⟩
        simp [hstrip]
      · cases h
  · rintro ⟨⟨word, blanks, hword, hblanks, rfl⟩, rfl⟩
    have hcs : '<' :: '/' :: word ++ blanks ++ ['>'] ++ rest =
        ['<', '/'] ++ (word ++ (blanks ++ '>' :: rest)) := by simp
    have hname : (strip? ['<', '/'] (['<', '/'] ++ (word ++ (blanks ++ '>' :: rest)))).bind
        (afterWord? name) = some (blanks ++ '>' :: rest) := by
      rw [strip?_eq_some_iff.2 rfl]
      exact afterWord?_eq_some_iff.2 ⟨word, hword, rfl⟩
    have hskip : skipBlanks (blanks ++ '>' :: rest) = '>' :: rest :=
      skipBlanks_eq_iff.2 ⟨by rintro c ⟨⟩; decide, blanks, hblanks, rfl⟩
    unfold closeTag?
    rw [hcs, hname]
    dsimp only
    rw [hskip, ← hcs]
    simp only [upTo_append_right]

/-! ### First tags -/

lemma free_iff_first {pattern : Pattern (List Char)} {IsTag : List Char → Prop}
    (htag : ∀ {cs tag rest}, pattern.match? cs = some (tag, rest) ↔ IsTag tag ∧ cs = tag ++ rest)
    {text behind : List Char} :
    Free pattern.Starts text behind ↔
      ∀ a tag b, text ++ behind = a ++ tag ++ b → IsTag tag → text.length ≤ a.length := by
  rw [free_iff_length_le]
  constructor
  · intro h a tag b heq his
    refine h a (tag ++ b) (by rw [heq, List.append_assoc]) ?_
    exact Option.ne_none_iff_exists'.2 ⟨(tag, b), htag.2 ⟨his, rfl⟩⟩
  · intro h a b heq hstarts
    obtain ⟨⟨tag, rest⟩, hmatch⟩ := Option.ne_none_iff_exists'.1 hstarts
    obtain ⟨his, rfl⟩ := htag.1 hmatch
    exact h a tag rest (by rw [heq, List.append_assoc]) his

lemma openTag_body_iff {cs tag rest : List Char} :
    (openTag "body").match? cs = some (tag, rest) ↔ IsOpenTag "body" tag ∧ cs = tag ++ rest :=
  openTag?_eq_some_iff (by decide)

lemma closeTag_body_iff {cs tag rest : List Char} :
    (closeTag "body").match? cs = some (tag, rest) ↔ IsCloseTag "body" tag ∧ cs = tag ++ rest :=
  closeTag?_eq_some_iff

/-! ### The body of a page -/

/-- A page has a body: an opening tag, and a closing tag somewhere behind it. -/
def HasBody (page : List Char) : Prop :=
  ∃ a opening old closing b, page = a ++ opening ++ old ++ closing ++ b ∧
    IsOpenTag "body" opening ∧ IsCloseTag "body" closing

/-- The body of a page and the page around it: the first opening tag, and the first closing tag
behind that. -/
structure IsBody (page : List Char) (frame : Frame) (old : List Char) : Prop where
  page_eq : page = frame.before ++ frame.opening ++ old ++ frame.closing ++ frame.after
  opening : IsOpenTag "body" frame.opening
  closing : IsCloseTag "body" frame.closing
  first_opening : ∀ a tag b, page = a ++ tag ++ b → IsOpenTag "body" tag →
    frame.before.length ≤ a.length
  first_closing : ∀ a tag b, old ++ frame.closing ++ frame.after = a ++ tag ++ b →
    IsCloseTag "body" tag → old.length ≤ a.length

section IsBody

variable {page old : List Char} {frame : Frame}

lemma isBody_iff :
    IsBody page frame old ↔
      page = frame.before ++ (frame.opening ++ (old ++ (frame.closing ++ frame.after))) ∧
      IsOpenTag "body" frame.opening ∧ IsCloseTag "body" frame.closing ∧
      Free (openTag "body").Starts frame.before
        (frame.opening ++ (old ++ (frame.closing ++ frame.after))) ∧
      Free (closeTag "body").Starts old (frame.closing ++ frame.after) := by
  have hpage : frame.before ++ frame.opening ++ old ++ frame.closing ++ frame.after =
      frame.before ++ (frame.opening ++ (old ++ (frame.closing ++ frame.after))) := by
    simp only [List.append_assoc]
  have hold : old ++ frame.closing ++ frame.after = old ++ (frame.closing ++ frame.after) :=
    List.append_assoc _ _ _
  rw [free_iff_first openTag_body_iff, free_iff_first closeTag_body_iff]
  constructor
  · rintro ⟨rfl, hopening, hclosing, hfirst, hfirst'⟩
    rw [hpage] at hfirst
    rw [hold] at hfirst'
    exact ⟨hpage, hopening, hclosing, hfirst, hfirst'⟩
  · rintro ⟨rfl, hopening, hclosing, hfirst, hfirst'⟩
    exact ⟨hpage.symm, hopening, hclosing, hfirst, by rwa [hold]⟩

/-- **The frame of a page is the one around its body.** -/
lemma frame?_eq_some_iff : frame? page = some frame ↔ ∃ old, IsBody page frame old := by
  simp only [isBody_iff]
  constructor
  · intro h
    unfold frame? at h
    split at h
    · cases h
    · next before opening rest hfirst =>
      obtain ⟨⟨old, closing, after⟩, hsecond, rfl⟩ := Option.map_eq_some_iff.1 h
      obtain ⟨text, rfl, hopen, hfree⟩ := Pattern.first?_eq_some_iff.1 hfirst
      obtain ⟨behind, rfl, hclose, hfree'⟩ := Pattern.first?_eq_some_iff.1 hsecond
      obtain ⟨hopening, rfl⟩ := openTag_body_iff.1 hopen
      obtain ⟨hclosing, rfl⟩ := closeTag_body_iff.1 hclose
      exact ⟨old, rfl, hopening, hclosing, hfree, hfree'⟩
  · rintro ⟨old, rfl, hopening, hclosing, hfree, hfree'⟩
    have hfirst := Pattern.first?_append_of_free hfree (openTag_body_iff.2 ⟨hopening, rfl⟩)
    have hsecond := Pattern.first?_append_of_free hfree' (closeTag_body_iff.2 ⟨hclosing, rfl⟩)
    unfold frame?
    rw [hfirst]
    dsimp only
    rw [hsecond]
    rfl

lemma IsOpenTag.exists_behind {first tag a rest b : List Char} (hfirst : IsOpenTag "body" first)
    (htag : IsOpenTag "body" tag) (h : first ++ rest = a ++ tag ++ b) : ∃ t, rest = t ++ b := by
  rcases List.append_eq_append_iff.1 h with ⟨t, -, hrest⟩ | ⟨t, rfl, rfl⟩
  · exact ⟨t, hrest⟩
  · by_cases ht : t = []
    · exact ⟨[], by rw [ht, List.nil_append, List.nil_append]⟩
    · obtain ⟨word, inner, -, -, -, rfl⟩ := htag
      obtain ⟨word', inner', hword', -, hinner', heq⟩ := hfirst
      have hclose : '>' ∉ '<' :: word' ++ inner' := by
        simpa using ⟨hword'.not_mem (by decide) (by decide), hinner'⟩
      have hfront := congrArg List.dropLast heq
      rw [List.dropLast_append_of_ne_nil ht, List.dropLast_concat] at hfront
      refine absurd ?_ hclose
      rw [← hfront]
      simp

lemma exists_frame?_of_hasBody (h : HasBody page) : ∃ frame, frame? page = some frame := by
  obtain ⟨a, tag, b, tag', c, rfl, htag, htag'⟩ := h
  rcases Pattern.first?_cases (openTag "body") (a ++ tag ++ b ++ tag' ++ c) with
    ⟨-, hfree⟩ | ⟨before, text, opening, rest, hfirst, hpage, hopen, hfree⟩
  · refine absurd ?_ (hfree a (tag ++ b ++ tag' ++ c) (by simp) ?_)
    · exact Option.ne_none_iff_exists'.2
        ⟨(tag, b ++ tag' ++ c), openTag_body_iff.2 ⟨htag, by simp⟩⟩
    · obtain ⟨_, _, -, -, -, rfl⟩ := htag
      simp
  · obtain ⟨hopening, rfl⟩ := openTag_body_iff.1 hopen
    have hle := (free_iff_first openTag_body_iff).1 hfree a tag (b ++ tag' ++ c)
      (by rw [← hpage]; simp only [List.append_assoc]) htag
    simp only [List.append_assoc] at hpage
    obtain ⟨a', rfl⟩ : before <+: a := List.prefix_of_prefix_length_le
      (List.prefix_append _ _) (hpage ▸ List.prefix_append _ _) hle
    rw [List.append_assoc, List.append_cancel_left_eq] at hpage
    obtain ⟨t, rfl⟩ : ∃ t, rest = t ++ (b ++ tag' ++ c) :=
      hopening.exists_behind htag (by simpa only [List.append_assoc] using hpage.symm)
    rcases Pattern.first?_cases (closeTag "body") (t ++ (b ++ tag' ++ c)) with
      ⟨-, hfree'⟩ | ⟨_, _, _, _, hsecond, -⟩
    · refine absurd ?_ (hfree' (t ++ b) (tag' ++ c) (by simp) ?_)
      · exact Option.ne_none_iff_exists'.2 ⟨(tag', c), closeTag_body_iff.2 ⟨htag', by simp⟩⟩
      · obtain ⟨_, _, -, -, rfl⟩ := htag'
        simp
    · unfold frame?
      rw [hfirst]
      dsimp only
      rw [hsecond]
      exact ⟨_, rfl⟩

lemma hasBody_of_isBody (h : IsBody page frame old) : HasBody page :=
  ⟨_, _, _, _, _, h.page_eq, h.opening, h.closing⟩

lemma frame?_eq_none_iff : frame? page = none ↔ ¬ HasBody page := by
  constructor
  · intro hnone hbody
    obtain ⟨frame, hframe⟩ := exists_frame?_of_hasBody hbody
    cases hnone.symm.trans hframe
  · intro hbody
    by_contra hframe
    obtain ⟨frame, hframe⟩ := Option.ne_none_iff_exists'.1 hframe
    obtain ⟨old, hold⟩ := frame?_eq_some_iff.1 hframe
    exact hbody (hasBody_of_isBody hold)

end IsBody

/-! ### Placing -/

section Place

variable {page body : List Char} {frame : Frame}

lemma placeBody_of_some (h : frame? page = some frame) (body : List Char) :
    placeBody page body = .quiet (frame.fill body) := by
  rw [placeBody, h]

lemma placeBody_of_none (h : frame? page = none) (body : List Char) :
    placeBody page body =
      ⟨page, [.warning "template has no <body> element, leaving it unchanged"]⟩ := by
  rw [placeBody, h]

lemma free_closeTag_lines {name : String} (hname : '<' ∉ name.toList.map foldSimple)
    (hbody : ∀ tag, IsCloseTag name tag → ¬ tag <:+: body) (behind : List Char) :
    Free (closeTag name).Starts ('\n' :: body ++ ['\n']) ('<' :: behind) := by
  rintro before after htext hafter hstarts
  obtain ⟨⟨tag, rest⟩, hmatch⟩ := Option.ne_none_iff_exists'.1 hstarts
  obtain ⟨hclose, heq⟩ := closeTag?_eq_some_iff.1 hmatch
  refine hbody tag hclose ?_
  obtain ⟨word, blanks, hword, hblanks, rfl⟩ := hclose
  have hfront : '<' ∉ '/' :: word ++ blanks ++ ['>'] := by
    have hword' := hword.not_mem (by decide) hname
    have hblanks' : '<' ∉ blanks := fun hmem => absurd (hblanks '<' hmem) (by decide)
    simpa using ⟨hword', hblanks'⟩
  obtain ⟨inner, rfl, -⟩ := word_in_front hfront hafter heq
  -- The tag is in the lines, but it neither starts with a line break nor ends with one.
  have hlines : '<' :: '/' :: word ++ blanks ++ ['>'] <:+: '\n' :: (body ++ ['\n']) := by
    refine ⟨before, inner, ?_⟩
    rw [← List.cons_append, htext]
    simp
  rcases List.infix_cons_iff.1 hlines with ⟨t, ht⟩ | hlines
  · exact absurd (List.cons.inj ht).1 (by decide)
  · rcases List.infix_concat_iff.1 hlines with ⟨t, ht⟩ | hlines
    · have hlast := congrArg List.getLast? ht
      rw [← List.append_assoc, List.getLast?_concat, List.getLast?_concat] at hlast
      exact absurd (Option.some.inj hlast) (by decide)
    · exact hlines

lemma frame?_fill (h : frame? page = some frame)
    (hbody : ∀ tag, IsCloseTag "body" tag → ¬ tag <:+: body) :
    frame? (frame.fill body) = some frame := by
  obtain ⟨old, hold⟩ := frame?_eq_some_iff.1 h
  obtain ⟨-, hopening, hclosing, hfree, -⟩ := isBody_iff.1 hold
  refine frame?_eq_some_iff.2 ⟨'\n' :: body ++ ['\n'], isBody_iff.2
    ⟨by simp [Frame.fill], hopening, hclosing, ?_, ?_⟩⟩
  · obtain ⟨word, inner, -, -, -, htag⟩ := hopening
    rw [htag] at hfree ⊢
    exact free_openTag (by decide) (by decide) (by simp) hfree
  · obtain ⟨word, blanks, -, -, htag⟩ := hclosing
    rw [htag]
    exact free_closeTag_lines (by decide) hbody _

lemma placeBody_placeBody (hbody : ∀ tag, IsCloseTag "body" tag → ¬ tag <:+: body)
    (body' : List Char) :
    placeBody (placeBody page body).value body' = placeBody page body' := by
  cases h : frame? page with
  | none => rw [placeBody_of_none h]
  | some frame =>
    rw [placeBody_of_some h, placeBody_of_some h]
    exact placeBody_of_some (frame?_fill h hbody) body'

end Place

/-- **To place a body is a lawful update.** A page with a body is cut at the first opening tag and
the first closing tag behind it, and every other body stands between these two as it is, on lines of
its own. A page without one stays as it is. A body without a closing tag leaves no trace when
another one is placed. -/
theorem placeBody_lawful (page : List Char) :
    (HasBody page → ∃ frame old, IsBody page frame old ∧
      ∀ body, placeBody page body = .quiet (frame.before ++ frame.opening ++ ['\n'] ++ body ++
        ['\n'] ++ frame.closing ++ frame.after)) ∧
    (¬ HasBody page → ∀ body, placeBody page body =
      ⟨page, [.warning "template has no <body> element, leaving it unchanged"]⟩) ∧
    ∀ body body', (∀ tag, IsCloseTag "body" tag → ¬ tag <:+: body) →
      placeBody (placeBody page body).value body' = placeBody page body' := by
  refine ⟨fun hbody => ?_, fun hbody => placeBody_of_none (frame?_eq_none_iff.2 hbody),
    fun body body' hclose => placeBody_placeBody hclose body'⟩
  obtain ⟨frame, hframe⟩ := exists_frame?_of_hasBody hbody
  obtain ⟨old, hold⟩ := frame?_eq_some_iff.1 hframe
  refine ⟨frame, old, hold, fun body => ?_⟩
  rw [placeBody_of_some hframe]
  simp [Frame.fill]

/-- A page whose body has attributes, and a body that would be a pattern elsewhere. -/
theorem placeBody_lawful_attributes :
    (∀ tag, IsCloseTag "body" tag → ¬ tag <:+: "new $1".toList) ∧
      (placeBody (placeBody "<p><BODY id='x'>old</body ></p>".toList "new $1".toList).value
        "newer".toList).value = "<p><BODY id='x'>\nnewer\n</body ></p>".toList := by
  have hclose (tag : List Char) (htag : IsCloseTag "body" tag) : ¬ tag <:+: "new $1".toList := by
    intro hpart
    obtain ⟨word, blanks, -, -, rfl⟩ := htag
    exact absurd (hpart.mem List.mem_cons_self) (by decide)
  refine ⟨hclose, (congrArg Logged.value ((placeBody_lawful _).2.2 _ _ hclose)).trans ?_⟩
  decide +kernel

/-- A body that brings a closing tag with it leaves what stands behind that tag. -/
example :
    (placeBody (placeBody "<body>x</body>".toList "a</Body >b".toList).value "c".toList).value =
      "<body>\nc\n</Body >b\n</body>".toList := by
  decide +kernel

end Pressroom.Html
