import Pressroom.Proofs.Inline.NewSources

/-!
Putting resources into a page once more. As long as files and documents stay what they are, a second
pass has nothing left to do: what could be had is in the page already, and what could not be had the
first time cannot be had the second time. That is so as long as nothing that was put into the page
looks like a resource itself, or moves the places where the others are found. Main statement: both
passes are idempotent if media types hold no quotes and stylesheets hold no links.
-/

namespace Pressroom

open Text (Free Pattern)
open Text.Pattern (Visit Visits outcome exists_visits)
open Html (Rewrite)

variable {W α β : Type}

/-! ### Steady answers -/

/-- A step that comes to the same in every world. -/
def Steady (step : StateM W α) : Prop :=
  ∀ w w', (step.run w).1 = (step.run w').1

lemma steady_pure (a : α) : Steady (W := W) (pure a) :=
  fun _ _ => rfl

lemma Steady.bind {step : StateM W α} {next : α → StateM W β} (h : Steady step)
    (hnext : ∀ a, Steady (next a)) : Steady (step >>= next) := by
  intro w w'
  show ((next (step.run w).1).run (step.run w).2).1 = ((next (step.run w').1).run (step.run w').2).1
  rw [h w w']
  exact hnext _ _ _

namespace Inline

lemma steady_readNear {files : FileReader (StateM W)} (hfiles : ∀ path, Steady (files.read path))
    (base : Path) (reference : List Char) : Steady (readNear files base reference) := by
  refine (hfiles _).bind fun found => ?_
  cases found with
  | ok bytes => exact steady_pure _
  | error fault =>
    cases fault with
    | notFound =>
      refine (hfiles _).bind fun found => ?_
      cases found <;> exact steady_pure _
    | _ => exact steady_pure _

namespace Inliner

/-- Files and documents that stay what they are. -/
structure IsSteady (inliner : Inliner (StateM W)) : Prop where
  read : ∀ path, Steady (inliner.files.read path)
  fetch : ∀ url, Steady (inliner.fetch url)

variable {inliner : Inliner (StateM W)}

lemma IsSteady.stylesheet (h : inliner.IsSteady) (reference : List Char) :
    Steady (inliner.stylesheet reference) := by
  unfold Inliner.stylesheet
  split
  · refine (h.fetch _).bind fun fetched => ?_
    cases fetched <;> exact steady_pure _
  · refine (steady_readNear h.read _ _).bind fun found => ?_
    cases found <;> exact steady_pure _

lemma IsSteady.imageSource (h : inliner.IsSteady) (source : List Char) :
    Steady (inliner.imageSource source) := by
  unfold Inliner.imageSource
  split
  · exact steady_pure _
  · split
    · split
      · exact steady_pure _
      · refine (h.fetch _).bind fun fetched => ?_
        cases fetched <;> exact steady_pure _
    · refine (steady_readNear h.read _ _).bind fun found => ?_
      cases found <;> exact steady_pure _

end Inliner

/-! ### A second pass -/

namespace Pass

variable (pass : Pass W α)

/-- What a match leads to, if to anything, can be had in no world. -/
def Misses (found : α) : Prop :=
  ∀ reference, pass.reference? found = some reference →
    ∀ w, ∃ fault, ((pass.load reference).run w).1 = .error fault

variable {pass}

lemma misses_of_none {found : α} (h : pass.reference? found = none) : pass.Misses found :=
  fun _ href => absurd (h.symm.trans href) (Option.some_ne_none _).symm

lemma Sound.misses_or_put (hsteady : ∀ reference, Steady (pass.load reference))
    {visit : Visit W α} (h : pass.Sound visit) :
    (pass.Misses visit.found ∧ visit.text = pass.pattern.spell visit.found) ∨
      ∃ reference content, pass.reference? visit.found = some reference ∧
        ((pass.load reference).run visit.world).1 = .ok content ∧
        visit.text = pass.put visit.found content := by
  cases href : pass.reference? visit.found with
  | none => exact .inl ⟨misses_of_none href, (h.kept href).1⟩
  | some reference =>
    rcases hload : (pass.load reference).run visit.world with ⟨fault | content, w⟩
    · refine .inl ⟨fun reference' href' w => ⟨fault, ?_⟩, (h.failed reference fault w href hload).1⟩
      cases href.symm.trans href'
      rw [hsteady reference w visit.world, hload]
    · exact .inr ⟨reference, content, rfl, by rw [hload],
        (h.replaced reference content w href hload).1⟩

lemma value_of_misses {page : List Char}
    (h : ∀ found ∈ pass.pattern.occurrences page, pass.Misses found) (w : W) :
    ((pass.pattern.replace pass.perform page).run w).1.value = page := by
  obtain ⟨visits, last, w', hcuts, hvisits, hrun, hfound⟩ :=
    exists_visits pass.pattern pass.perform page w
  rw [hrun]
  refine outcome_of_fails hcuts (fun visit hvisit => sound_of_run (hvisits.run_of_mem visit hvisit))
    fun visit hvisit reference href => h visit.found ?_ reference href visit.world
  rw [hfound]
  exact List.mem_map_of_mem hvisit

end Pass

/-! ### Stylesheets -/

/-- A text holds the start of a link, in any case by which links are found. -/
def HoldsLink (text : List Char) : Prop :=
  "<link".toList <:+: text.map Text.foldSimple

lemma infix_of_infix_append_cons {x a b : List Char} {c : Char} (hx : c ∉ x)
    (h : x <:+: a ++ c :: b) : x <:+: a ∨ x <:+: b := by
  have hnil {y : List Char} (hy : c ∉ y) (hstart : y <+: c :: b) : y = [] :=
    (List.prefix_cons_iff.1 hstart).resolve_right
      fun ⟨t, heq, _⟩ => hy (heq ▸ List.mem_cons_self)
  rcases List.infix_append_iff.1 h with h | h | ⟨front, back, rfl, hsuffix, hstart⟩
  · exact .inl h
  · rcases List.infix_cons_iff.1 h with h | h
    · rw [hnil hx h]
      exact .inl List.nil_infix
    · exact .inr h
  · rw [hnil (fun hmem => hx (List.mem_append_right front hmem)) hstart, List.append_nil]
    exact .inl hsuffix.isInfix

lemma HoldsLink.of_styleElement {css : List Char} (h : HoldsLink (Html.styleElement css)) :
    HoldsLink css := by
  have helement : (Html.styleElement css).map Text.foldSimple =
      "<style type=\"text/css\">".toList ++
        '\n' :: (css.map Text.foldSimple ++ '\n' :: "</style>".toList) := by
    have hstart : "<style type=\"text/css\">\n".toList.map Text.foldSimple =
        "<style type=\"text/css\">".toList ++ ['\n'] := by decide
    have hstop : "\n</style>".toList.map Text.foldSimple = '\n' :: "</style>".toList := by decide
    unfold Html.styleElement
    rw [List.map_append, List.map_append, hstart, hstop, List.append_assoc, List.append_assoc,
      List.singleton_append]
  rw [HoldsLink, helement] at h
  rcases infix_of_infix_append_cons (by decide) h with h | h
  · exact absurd h (by decide)
  · exact (infix_of_infix_append_cons (by decide) h).resolve_right (by decide)

lemma free_styleElement {css : List Char} (hcss : ¬ HoldsLink css) (behind : List Char) :
    Free Html.link.Starts (Html.styleElement css) behind := by
  intro before after htext hafter hstarts
  obtain ⟨-, word, rest, hword, heq, -⟩ := (Html.starts_openTag_iff (by decide)).1 hstarts
  have hlast : (Html.styleElement css).getLast? = some '>' :=
    (List.getLast?_append_of_ne_nil _ (by decide)).trans (by decide)
  have hclose : '>' ∈ after := by
    rw [htext, List.getLast?_append_of_ne_nil before hafter] at hlast
    exact List.mem_of_getLast? hlast
  have hinside : '<' :: word <+: after := by
    refine (List.prefix_or_prefix_of_prefix ⟨rest, heq.symm⟩ (List.prefix_append _ _)).resolve_right
      fun hshort => ?_
    have hmem : '>' ∈ '<' :: word := hshort.subset hclose
    exact hword.not_mem (by decide) (by decide) (List.mem_of_ne_of_mem (by decide) hmem)
  refine hcss (HoldsLink.of_styleElement ?_)
  have hpart := (hinside.isInfix.trans ⟨before, [], by simpa using htext.symm⟩).map Text.foldSimple
  rwa [List.map_cons, hword] at hpart

/-- A page some of whose links have become stylesheets that hold none has no other links than those
that have stayed. -/
lemma of_mem_links_outcome {Stays : List Char → Prop} {visits : List (Visit W (List Char))}
    {page last tag : List Char} (hcuts : Html.link.Cuts page (visits.map Visit.piece) last)
    (htext : ∀ visit ∈ visits, (Stays visit.found ∧ visit.text = visit.found) ∨
      ∃ css, ¬ HoldsLink css ∧ visit.text = Html.styleElement css)
    (h : tag ∈ Html.link.occurrences (outcome visits last).value) : Stays tag := by
  induction visits generalizing page with
  | nil =>
    cases hcuts with
    | last hfree => simp [outcome, Pattern.occurrences_of_free hfree] at h
  | cons visit visits ih =>
    obtain ⟨hhere, hrest⟩ := List.forall_mem_cons.1 htext
    have hvalue : (outcome (visit :: visits) last).value =
        visit.before ++ (visit.text ++ (outcome visits last).value) := by
      simp [outcome]
    rw [hvalue] at h
    cases hcuts with
    | next hfree hmatch hcuts =>
      obtain ⟨htag, rfl⟩ := (Html.openTag?_eq_some_iff (by decide)).1 hmatch
      -- What was in front of the link may only start one with what comes next, and that is a tag
      -- again, whatever has become of the link.
      have hfront {other : List Char} (hopen : other.head? = some '<') :
          Free Html.link.Starts visit.before other := by
        obtain ⟨word, inner, -, -, -, hspell⟩ := htag
        obtain ⟨behind, rfl⟩ := List.head?_eq_some_iff.1 hopen
        rw [hspell] at hfree
        exact Html.free_openTag (by decide) (by decide) (by simp) hfree
      rcases hhere with ⟨hstays, hkept⟩ | ⟨css, hcss, hstyle⟩
      · have hagain : Html.link.match? (visit.found ++ (outcome visits last).value) =
            some (visit.found, (outcome visits last).value) :=
          (Html.openTag?_eq_some_iff (by decide)).2 ⟨htag, rfl⟩
        have hopen : (visit.found ++ (outcome visits last).value).head? = some '<' := by
          obtain ⟨word, inner, -, -, -, hspell⟩ := htag
          rw [hspell]
          rfl
        rw [hkept, Pattern.occurrences_append_of_free (hfront hopen),
          Pattern.occurrences_of_match hagain] at h
        rcases List.mem_cons.1 h with rfl | h
        · exact hstays
        · exact ih hcuts hrest h
      · rw [hstyle, Pattern.occurrences_append_of_free (hfront rfl),
          Pattern.occurrences_append_of_free (free_styleElement hcss _)] at h
        exact ih hcuts hrest h

namespace Inliner

variable {inliner : Inliner (StateM W)}

/-- The stylesheets that the links of a page lead to hold no links. -/
def StylesWithoutLinks (inliner : Inliner (StateM W)) (page : List Char) (w : W) : Prop :=
  ∀ tag ∈ Html.link.occurrences page, ∀ reference css, Html.stylesheet? tag = some reference →
    ((inliner.stylesheet reference).run w).1 = .ok css → ¬ HoldsLink css

lemma IsSteady.inlineStyles_again (h : inliner.IsSteady) {page : List Char} {w : W}
    (hcss : inliner.StylesWithoutLinks page w) (w' : W) :
    ((inliner.inlineStyles ((inliner.inlineStyles page).run w).1.value).run w').1.value =
      ((inliner.inlineStyles page).run w).1.value := by
  have hpass (page : List Char) : inliner.inlineStyles page =
      inliner.styles.pattern.replace inliner.styles.perform page := by
    rw [styles_perform]
    rfl
  obtain ⟨visits, last, w₁, hcuts, hvisits, hrun, hfound⟩ :=
    exists_visits inliner.styles.pattern inliner.styles.perform page w
  rw [hpass page, hrun, hpass]
  refine Pass.value_of_misses (fun tag htag => of_mem_links_outcome hcuts (fun visit hvisit => ?_)
    htag) w'
  have hsound : inliner.styles.Sound visit :=
    Pass.sound_of_run (hvisits.run_of_mem visit hvisit)
  refine (hsound.misses_or_put h.stylesheet).imp_right ?_
  rintro ⟨reference, css, href, hload, hput⟩
  refine ⟨css, hcss visit.found ?_ reference css href ?_, hput⟩
  · exact hfound ▸ List.mem_map_of_mem hvisit
  · rw [h.stylesheet reference w visit.world]
    exact hload

/-! ### Images -/

lemma quote_not_mem_dataUrl {mediaType : String} {bytes : List UInt8} {quote : Char}
    (hquote : Html.IsQuote quote) (h : quote ∉ mediaType.toList) :
    quote ∉ dataUrl mediaType (Text.base64 bytes) := by
  have hclosed : quote ∉ "data:".toList ∧ quote ∉ ";base64,".toList := by
    rcases hquote with rfl | rfl <;> decide
  intro hmem
  rcases List.mem_append.1 hmem with hmem | hmem
  · rcases List.mem_append.1 hmem with hmem | hmem
    · exact (List.mem_append.1 hmem).elim hclosed.1 h
    · exact hclosed.2 hmem
  · have hletter := Text.mem_base64 hmem
    rcases hquote with rfl | rfl <;> exact absurd hletter (by decide)

variable (inliner) in
/-- What an image may get: nothing, a fault, or what was fetched or read. -/
inductive Answer (source : List Char) (w : W) :
    Except ResourceFault (Option (List Char)) → Prop where
  | kept (hnone : imageReference? inliner.asUrls source = none) : Answer source w (.ok none)
  | fault (fault : ResourceFault) : Answer source w (.error fault)
  | fetched {fetched : Fetched} (hremote : isRemote source = true)
      (hfetch : ((inliner.fetch (String.ofList source)).run w).1 = .ok fetched) :
      Answer source w (.ok (some (inliner.imageOfFetched source fetched)))
  | read {path : Path} {bytes : ByteArray} {new : List Char}
      (hread : inliner.imageOfFile source path bytes = .ok new) : Answer source w (.ok (some new))

lemma answer_imageSource (source : List Char) (w : W) :
    inliner.Answer source w ((inliner.imageSource source).run w).1 := by
  unfold imageSource
  split
  · next hsource => exact .kept (if_pos hsource)
  · next hsource =>
    split
    · next hremote =>
      split
      · next hurls => exact .kept (by rw [imageReference?, if_neg hsource, hremote, hurls]; rfl)
      · rw [StateT.run_bind]
        rcases hfetch : (inliner.fetch (String.ofList source)).run w with ⟨fault | fetched, w'⟩
        · exact .fault _
        · exact .fetched hremote (by rw [hfetch])
    · rw [StateT.run_bind]
      rcases (readNear inliner.files inliner.root source).run w with ⟨fault | ⟨path, bytes⟩, w'⟩
      · exact .fault _
      · show inliner.Answer source w ((inliner.imageOfFile source path bytes).map some)
        cases hread : inliner.imageOfFile source path bytes with
        | error fault => exact .fault fault
        | ok new => exact .read hread

lemma Answer.imageReference?_eq_none {source : List Char} {w : W}
    (h : inliner.Answer source w (.ok none)) : imageReference? inliner.asUrls source = none := by
  cases h with
  | kept hnone => exact hnone

variable (inliner) in
/-- A media type that an image is told to have: by whoever it is fetched from, or by its name. -/
inductive IsTold (source : List Char) (w : W) : String → Prop where
  | fetched {fetched : Fetched} {mediaType : String} (hremote : isRemote source = true)
      (hfetch : ((inliner.fetch (String.ofList source)).run w).1 = .ok fetched)
      (htype : fetched.mediaType = some mediaType) : IsTold source w mediaType
  | named {mediaType : MediaType} (hguess : inliner.guess source = some mediaType) :
      IsTold source w mediaType.text

lemma Answer.exists_dataUrl (hurls : inliner.asUrls = false) {source new : List Char} {w : W}
    (h : inliner.Answer source w (.ok (some new))) :
    ∃ mediaType bytes, new = dataUrl mediaType (Text.base64 bytes) ∧
      (mediaType = "application/octet-stream" ∨
        ∃ told, inliner.IsTold source w told ∧ mediaType.toList <+: told.toList) := by
  cases h with
  | @fetched fetched hremote hfetch =>
    refine ⟨_, _, rfl, ?_⟩
    cases htype : fetched.mediaType with
    | some mediaType => exact .inr ⟨mediaType, .fetched hremote hfetch htype, List.prefix_rfl⟩
    | none =>
      cases hguess : inliner.guess source with
      | some mediaType => exact .inr ⟨mediaType.text, .named hguess, List.prefix_rfl⟩
      | none => exact .inl rfl
  | read hread =>
    unfold imageOfFile at hread
    split at hread
    · cases hread
    · next mediaType hguess =>
      rw [hurls, if_neg Bool.false_ne_true] at hread
      cases hread
      exact ⟨_, _, rfl, .inr ⟨mediaType.text, .named hguess, mediaType.essence_prefix⟩⟩

lemma imageReference?_dataUrl (asUrls : Bool) (mediaType : String) (base64 : List Char) :
    imageReference? asUrls (dataUrl mediaType base64) = none := by
  refine Option.eq_none_iff_forall_ne_some.2 fun reference href => ?_
  obtain ⟨-, -, hdata, -⟩ := imageReference?_eq_some_iff.1 href
  refine hdata (List.IsPrefix.trans ?_ (List.prefix_append _ base64))
  exact (List.prefix_append _ _).trans (List.prefix_append _ _)

lemma images_load_of_error {source : List Char} {w : W} {fault : ResourceFault}
    (h : ((inliner.imageSource source).run w).1 = .error fault) :
    ((inliner.images.load source).run w).1 = .error fault :=
  congrArg (·.map fun source? : Option (List Char) => source?.getD source) h

lemma IsSteady.misses_rewrite (h : inliner.IsSteady) (hurls : inliner.asUrls = false)
    (visit : Visit W Html.Image) : inliner.images.Misses (inliner.rewrite visit).image := by
  have hanswer := inliner.answer_imageSource visit.found.source visit.world
  rw [Rewrite.image, rewrite]
  rcases hsource : ((inliner.imageSource visit.found.source).run visit.world).1 with fault | _ | new
  · intro reference href w
    obtain ⟨rfl, -⟩ := imageReference?_eq_some_iff.1 href
    have hanswer' := h.imageSource visit.found.source w visit.world
    exact ⟨fault, images_load_of_error (hanswer'.trans hsource)⟩
  · rw [hsource] at hanswer
    exact Pass.misses_of_none hanswer.imageReference?_eq_none
  · rw [hsource] at hanswer
    obtain ⟨mediaType, bytes, rfl, -⟩ := hanswer.exists_dataUrl hurls
    exact Pass.misses_of_none (imageReference?_dataUrl inliner.asUrls mediaType (Text.base64 bytes))

/-- The media types that the images of a page are told to have hold no quotes. -/
def TypesWithoutQuotes (inliner : Inliner (StateM W)) (page : List Char) (w : W) : Prop :=
  ∀ image ∈ Html.image.occurrences page, ∀ told, inliner.IsTold image.source w told →
    ∀ quote, Html.IsQuote quote → quote ∉ told.toList

lemma IsSteady.quote_not_mem_source (h : inliner.IsSteady) (hurls : inliner.asUrls = false)
    {page : List Char} {w : W} (htypes : inliner.TypesWithoutQuotes page w)
    {visit : Visit W Html.Image} (hvisit : visit.found ∈ Html.image.occurrences page)
    {source : List Char} (hsource : source ∈ (inliner.rewrite visit).source?) {quote : Char}
    (hquote : Html.IsQuote quote) : quote ∉ source := by
  have hanswer := inliner.answer_imageSource visit.found.source w
  rw [h.imageSource visit.found.source w visit.world] at hanswer
  rw [rewrite] at hsource
  rcases hnew : ((inliner.imageSource visit.found.source).run visit.world).1 with fault | _ | new
  · simp [hnew, newSource?] at hsource
  · simp [hnew, newSource?] at hsource
  · rw [hnew] at hanswer hsource
    cases hsource
    obtain ⟨mediaType, bytes, rfl, hmedia⟩ := hanswer.exists_dataUrl hurls
    refine quote_not_mem_dataUrl hquote ?_
    rcases hmedia with rfl | ⟨told, htold, hpart⟩
    · rcases hquote with rfl | rfl <;> decide
    · exact fun hmem => htypes visit.found hvisit told htold quote hquote (hpart.subset hmem)

lemma IsSteady.inlineImages_again (h : inliner.IsSteady) (hurls : inliner.asUrls = false)
    {page : List Char} {w : W} (htypes : inliner.TypesWithoutQuotes page w) (w' : W) :
    ((inliner.inlineImages ((inliner.inlineImages page).run w).1.value).run w').1.value =
      ((inliner.inlineImages page).run w).1.value := by
  obtain ⟨visits, last, w₁, hcuts, hvisits, hrun, hfound⟩ :=
    exists_visits Html.image inliner.replaceImage page w
  have hrewrites : Html.image.occurrences (outcome visits last).value =
      (visits.map inliner.rewrite).map Rewrite.image := by
    rw [outcome_value hvisits]
    have hcuts' := inliner.cuts_rewrites hcuts
    refine (Rewrite.occurrences_page_iff hcuts').2 (Rewrite.keepsQuotes_of_quote_not_mem hcuts' ?_)
    refine List.forall_mem_map.2 fun visit hvisit source hsource quote hquote => ?_
    refine h.quote_not_mem_source hurls htypes ?_ hsource hquote
    rw [hfound]
    exact List.mem_map_of_mem hvisit
  have hpass (page : List Char) : inliner.inlineImages page =
      inliner.images.pattern.replace inliner.images.perform page := by
    rw [images_perform]
    rfl
  rw [show (inliner.inlineImages page).run w = (outcome visits last, w₁) from hrun, hpass]
  refine Pass.value_of_misses (fun image himage => ?_) w'
  rw [show inliner.images.pattern = Html.image from rfl, hrewrites, List.map_map] at himage
  obtain ⟨visit, -, rfl⟩ := List.mem_map.1 himage
  exact h.misses_rewrite hurls visit

end Inliner

/-- **What has been put into a page is put there once.** When files and documents stay what they
are, images are put into a page for good if no media type that they are told to have holds a quote,
and stylesheets are if none of them holds the start of a link. -/
theorem inline_idempotent {inliner : Inliner (StateM W)} (hsteady : inliner.IsSteady)
    (page : List Char) (w w' : W) :
    (inliner.asUrls = false → inliner.TypesWithoutQuotes page w →
      ((inliner.inlineImages ((inliner.inlineImages page).run w).1.value).run w').1.value =
        ((inliner.inlineImages page).run w).1.value) ∧
    (inliner.StylesWithoutLinks page w →
      ((inliner.inlineStyles ((inliner.inlineStyles page).run w).1.value).run w').1.value =
        ((inliner.inlineStyles page).run w).1.value) :=
  ⟨fun hurls htypes => hsteady.inlineImages_again hurls htypes w',
    fun hcss => hsteady.inlineStyles_again hcss w'⟩

/-- An inliner with one stylesheet, to which all URLs lead to a picture, and which writes down those
that it fetches. -/
def oneStyle : Inliner (StateM (List String)) where
  files := (FileTree.ofContents [(.ofString "a.css", some "p {}".toUTF8)]).reader
  fetch url := fun urls => (.ok ⟨some "image/png", "png".toUTF8⟩, urls ++ [url])
  guess := .common
  root := .ofString "press/pages"
  asUrls := false
  publicFolders := []
  publicBase := ""

/-- Both passes over a page with something for each of them to do. -/
theorem inline_idempotent_oneStyle :
    let page := "<link rel=stylesheet href=a.css><img src='http://x/a'><link href=b>".toList
    let withStyles := "<style type=\"text/css\">\np {}\n</style><img src='http://x/a'><link href=b>"
    let withImages :=
      "<link rel=stylesheet href=a.css><img src='data:image/png;base64,cG5n'><link href=b>"
    oneStyle.IsSteady ∧ oneStyle.asUrls = false ∧ oneStyle.TypesWithoutQuotes page [] ∧
      oneStyle.StylesWithoutLinks page [] ∧
      ((oneStyle.inlineImages page).run []).1.value = withImages.toList ∧
      ((oneStyle.inlineImages withImages.toList).run ["http://x/a"]).1.value = withImages.toList ∧
      ((oneStyle.inlineStyles page).run []).1.value = withStyles.toList ∧
      ((oneStyle.inlineStyles withStyles.toList).run []).1.value = withStyles.toList := by
  intro page withStyles withImages
  have hsteady : oneStyle.IsSteady := ⟨fun _ => steady_pure _, fun _ _ _ => rfl⟩
  have htypes : oneStyle.TypesWithoutQuotes page [] := by
    intro image himage told htold quote hquote
    cases htold with
    | fetched hremote hfetch htype =>
      cases hfetch
      cases htype
      rcases hquote with rfl | rfl <;> decide
    | named hguess =>
      have hnone : ∀ image ∈ Html.image.occurrences page, oneStyle.guess image.source = none := by
        decide +kernel
      exact absurd ((hnone image himage).symm.trans hguess) (Option.some_ne_none _).symm
  have hcss : oneStyle.StylesWithoutLinks page [] := by
    intro tag htag reference css href hload
    let load tag := (Html.stylesheet? tag).map fun href => ((oneStyle.stylesheet href).run []).1
    have hloaded : (Html.link.occurrences page).map load = [some (.ok "p {}".toList), none] := by
      decide +kernel
    have hmem : load tag ∈ [some (.ok "p {}".toList), none] := hloaded ▸ List.mem_map_of_mem htag
    rw [show load tag = some (.ok css) by simp only [load, href, Option.map_some, hload]] at hmem
    obtain rfl : css = "p {}".toList := by simpa using hmem
    unfold HoldsLink
    decide
  have himages : ((oneStyle.inlineImages page).run []).1.value = withImages.toList := by
    decide +kernel
  have hstyles : ((oneStyle.inlineStyles page).run []).1.value = withStyles.toList := by
    decide +kernel
  refine ⟨hsteady, rfl, htypes, hcss, himages, ?_, hstyles, ?_⟩
  · exact himages ▸ (inline_idempotent hsteady page [] ["http://x/a"]).1 rfl htypes
  · exact hstyles ▸ (inline_idempotent hsteady page [] []).2 hcss

end Inline

end Pressroom
