import Pressroom.Inline.Inliner
import Pressroom.Proofs.Html.Tags
import Pressroom.Proofs.Text.Cuts

/-!
The passes that put resources into a page. Both go about it in one way: they look for a pattern,
most matches of which lead to a resource; where it can be had, something else stands in the place of
the match, and where it cannot, the match stays and there is a warning. Main statement: that is all
that they do. What is between the matches stays as it is, no match is treated with regard to others,
and nothing is fetched but what the matches lead to, once for each.
-/

namespace Pressroom

open Text (Pattern)
open Text.Pattern (Visit Visits outcome exists_visits notes_replace)

variable {W ν α : Type}

def FileReader.unnoticed (files : FileReader (StateM W)) : FileReader (Watch W ν) where
  read path := Pressroom.unnoticed (files.read path)
  isFolder path := Pressroom.unnoticed (files.isFolder path)

namespace Inline

/-- A pass over a page. -/
structure Pass (W α : Type) where
  pattern : Pattern α
  /-- What a match leads to, if it is to be replaced at all. -/
  reference? : α → Option (List Char)
  load : List Char → StateM W (Except ResourceFault (List Char))
  /-- What stands in the place of a match when there is what it leads to. -/
  put : α → List Char → List Char
  warning : α → List Char → ResourceFault → Record

namespace Pass

variable (pass : Pass W α)

def perform (found : α) : StateM W (Logged (List Char)) := do
  match pass.reference? found with
  | none => return .quiet (pass.pattern.spell found)
  | some reference =>
    match ← pass.load reference with
    | .ok content => return .quiet (pass.put found content)
    | .error fault =>
      return ⟨pass.pattern.spell found, [pass.warning found reference fault]⟩

/-- What is to be fetched for a match. -/
def asks (found : α) : List String :=
  ((pass.reference? found).filter isRemote).toList.map String.ofList

/-- What becomes of a match: it stays if it leads to nothing, it is replaced if what it leads to can
be had, and it stays with one warning if not. -/
structure Sound (visit : Visit W α) : Prop where
  kept : pass.reference? visit.found = none →
    visit.text = pass.pattern.spell visit.found ∧ visit.records = [] ∧
      visit.worldAfter = visit.world
  replaced : ∀ reference content w, pass.reference? visit.found = some reference →
    (pass.load reference).run visit.world = (.ok content, w) →
      visit.text = pass.put visit.found content ∧ visit.records = [] ∧ visit.worldAfter = w
  failed : ∀ reference fault w, pass.reference? visit.found = some reference →
    (pass.load reference).run visit.world = (.error fault, w) →
      visit.text = pass.pattern.spell visit.found ∧
        visit.records = [pass.warning visit.found reference fault] ∧ visit.worldAfter = w

/-- What a match leads to cannot be had. -/
def Fails (visit : Visit W α) : Prop :=
  ∀ reference, pass.reference? visit.found = some reference →
    ∃ fault, ((pass.load reference).run visit.world).1 = .error fault

variable {pass} {found : α} {reference content : List Char} {fault : ResourceFault} {w w' : W}

lemma perform_of_none (h : pass.reference? found = none) :
    (pass.perform found).run w = (⟨pass.pattern.spell found, []⟩, w) := by
  rw [perform, h]
  rfl

lemma perform_of_ok (h : pass.reference? found = some reference)
    (hload : (pass.load reference).run w = (.ok content, w')) :
    (pass.perform found).run w = (⟨pass.put found content, []⟩, w') := by
  rw [perform, h]
  dsimp only
  rw [StateT.run_bind, hload]
  rfl

lemma perform_of_error (h : pass.reference? found = some reference)
    (hload : (pass.load reference).run w = (.error fault, w')) :
    (pass.perform found).run w =
      (⟨pass.pattern.spell found, [pass.warning found reference fault]⟩, w') := by
  rw [perform, h]
  dsimp only
  rw [StateT.run_bind, hload]
  rfl

variable {visit : Visit W α}

lemma sound_of_run (h : (pass.perform visit.found).run visit.world =
    (⟨visit.text, visit.records⟩, visit.worldAfter)) : pass.Sound visit := by
  have heq {text : List Char} {records : List Record} {w : W}
      (hrun : (pass.perform visit.found).run visit.world = (⟨text, records⟩, w)) :
      visit.text = text ∧ visit.records = records ∧ visit.worldAfter = w := by
    obtain ⟨houtput, hworld⟩ := Prod.mk.inj (h.symm.trans hrun)
    obtain ⟨htext, hrecords⟩ := Logged.mk.inj houtput
    exact ⟨htext, hrecords, hworld⟩
  exact ⟨fun hnone => heq (perform_of_none hnone),
    fun _ _ _ href hload => heq (perform_of_ok href hload),
    fun _ _ _ href hload => heq (perform_of_error href hload)⟩

lemma Sound.text_of_fails (h : pass.Sound visit) (hfails : pass.Fails visit) :
    visit.text = pass.pattern.spell visit.found := by
  cases href : pass.reference? visit.found with
  | none => exact (h.kept href).1
  | some reference =>
    obtain ⟨fault, hfault⟩ := hfails reference href
    exact (h.failed reference fault _ href (Prod.ext hfault rfl)).1

/-! ### Whole pages -/

lemma outcome_of_fails {page last : List Char} {visits : List (Visit W α)}
    (hcuts : pass.pattern.Cuts page (visits.map Visit.piece) last)
    (hsound : ∀ visit ∈ visits, pass.Sound visit) (hfails : ∀ visit ∈ visits, pass.Fails visit) :
    (outcome visits last).value = page := by
  rw [hcuts.eq_append, outcome, List.flatMap_map]
  refine congrArg (· ++ last) (List.flatMap_congr fun visit hvisit => ?_)
  rw [(hsound visit hvisit).text_of_fails (hfails visit hvisit)]
  rfl

variable (pass)

variable {pass}

end Pass

/-! ### Watched inliners -/

lemma notes_readNear (files : FileReader (StateM W)) (base : Path) (reference : List Char) (w : W) :
    Notes (ν := ν) (readNear files.unnoticed base reference) (readNear files base reference) w
      [] := by
  refine (notes_unnoticed (files.read ⟨reference⟩) w).quiet_bind ?_
  generalize hfound : ((files.read ⟨reference⟩).run w).1 = found
  cases found with
  | ok bytes => exact notes_pure _ _
  | error fault =>
    cases fault with
    | notFound =>
      refine (notes_unnoticed _ _).quiet_bind ?_
      generalize ((files.read _).run _).1 = found
      cases found <;> exact notes_pure _ _
    | _ => exact notes_pure _ _

namespace Inliner

/-- An inliner of which is written down what it fetches. -/
def watched (note : String → List ν) (inliner : Inliner (StateM W)) : Inliner (Watch W ν) :=
  { inliner with
    files := inliner.files.unnoticed
    fetch := fun url => noted (fun _ => note url) (inliner.fetch url) }

/-- The source of an image, if the image is to get another one. -/
def imageReference? (asUrls : Bool) (source : List Char) : Option (List Char) :=
  if source.isEmpty || (Text.strip? "data:".toList source).isSome then none
  else if isRemote source && asUrls then none
  else some source

lemma imageReference?_eq_some_iff {asUrls : Bool} {source reference : List Char} :
    imageReference? asUrls source = some reference ↔
      reference = source ∧ source ≠ [] ∧ ¬ "data:".toList <+: source ∧
        ¬ (isRemote source = true ∧ asUrls = true) := by
  have hdata : (Text.strip? "data:".toList source).isSome = true ↔ "data:".toList <+: source := by
    rw [Option.isSome_iff_exists]
    exact exists_congr fun rest => Text.strip?_eq_some_iff.trans eq_comm
  unfold imageReference?
  split
  · next h =>
    rw [Bool.or_eq_true, hdata, List.isEmpty_iff] at h
    refine ⟨nofun, ?_⟩
    rintro ⟨-, hne, hnot, -⟩
    exact absurd h (not_or.2 ⟨hne, hnot⟩)
  · next h =>
    rw [Bool.or_eq_true, hdata, List.isEmpty_iff, not_or] at h
    rw [← Bool.and_eq_true]
    split
    · next hkept => exact ⟨nofun, fun h => absurd hkept h.2.2.2⟩
    · next hkept =>
      rw [Option.some.injEq]
      exact ⟨fun heq => ⟨heq.symm, h.1, h.2, hkept⟩, fun h => h.1.symm⟩

lemma imageSource_of_none {m : Type → Type} [Monad m] (inliner : Inliner m) {source : List Char}
    (h : imageReference? inliner.asUrls source = none) :
    inliner.imageSource source = pure (.ok none) := by
  unfold imageReference? at h
  unfold imageSource
  split
  · rfl
  · next hsource =>
    rw [if_neg hsource] at h
    split at h
    · next hremote =>
      obtain ⟨hremote, hurls⟩ := Bool.and_eq_true_iff.1 hremote
      rw [if_pos hremote, if_pos hurls]
    · cases h

variable (inliner : Inliner (StateM W))

/-- What is written down of a reference to a resource. -/
def notesOf (note : String → List ν) (reference : List Char) : List ν :=
  if isRemote reference then note (String.ofList reference) else []

lemma notes_stylesheet (note : String → List ν) (reference : List Char) (w : W) :
    Notes ((inliner.watched note).stylesheet reference) (inliner.stylesheet reference) w
      (notesOf note reference) := by
  unfold stylesheet notesOf
  cases isRemote reference with
  | true =>
    refine (notes_noted (fun _ => note (String.ofList reference)) _ w).bind_quiet ?_
    generalize ((inliner.fetch (String.ofList reference)).run w).1 = fetched
    cases fetched <;> exact notes_pure _ _
  | false =>
    refine (notes_readNear inliner.files _ reference w).quiet_bind ?_
    generalize ((readNear inliner.files _ reference).run w).1 = found
    cases found <;> exact notes_pure _ _

def styles : Pass W (List Char) where
  pattern := Html.link
  reference? := Html.stylesheet?
  load := inliner.stylesheet
  put _ css := Html.styleElement css
  warning tag reference fault :=
    .warning (s!"stylesheet {String.ofList reference} not inlined, keeping " ++
      s!"{String.ofList tag}: {fault.message}")

lemma styles_perform : inliner.styles.perform = inliner.replaceLink := by
  funext tag
  unfold Pass.perform replaceLink
  cases hreference : Html.stylesheet? tag with
  | none =>
    rw [show inliner.styles.reference? tag = none from hreference]
    rfl
  | some reference =>
    rw [show inliner.styles.reference? tag = some reference from hreference]
    refine congrArg (inliner.stylesheet reference >>= ·) (funext fun loaded => ?_)
    cases loaded <;> rfl

lemma notes_imageSource (note : String → List ν) {source : List Char}
    (h : imageReference? inliner.asUrls source = some source) (w : W) :
    Notes ((inliner.watched note).imageSource source) (inliner.imageSource source) w
      (notesOf note source) := by
  unfold imageReference? at h
  unfold imageSource notesOf
  split at h
  · cases h
  · next hsource =>
    split at h
    · cases h
    · next hkept =>
      rw [if_neg hsource, if_neg hsource]
      cases hremote : isRemote source with
      | true =>
        have hurls : inliner.asUrls = false := by simpa [hremote] using hkept
        have hurls' : (inliner.watched note).asUrls = false := hurls
        rw [if_pos rfl, if_pos rfl, if_pos rfl, hurls, hurls', if_neg Bool.false_ne_true,
          if_neg Bool.false_ne_true]
        refine (notes_noted (fun _ => note (String.ofList source)) _ w).bind_quiet ?_
        generalize ((inliner.fetch (String.ofList source)).run w).1 = fetched
        cases fetched <;> exact notes_pure _ _
      | false =>
        rw [if_neg Bool.false_ne_true, if_neg Bool.false_ne_true, if_neg Bool.false_ne_true]
        refine (notes_readNear inliner.files inliner.root source w).quiet_bind ?_
        generalize ((readNear inliner.files inliner.root source).run w).1 = found
        cases found <;> exact notes_pure _ _

def images : Pass W Html.Image where
  pattern := Html.image
  reference? image := imageReference? inliner.asUrls image.source
  load source := return (← inliner.imageSource source).map (·.getD source)
  put image source := (image.withSource source).spell
  warning image reference fault :=
    .warning (s!"image {String.ofList reference} not inlined, keeping " ++
      s!"{String.ofList image.spell}: {fault.message}")

lemma images_perform : inliner.images.perform = inliner.replaceImage := by
  funext image
  unfold Pass.perform replaceImage
  cases hreference : imageReference? inliner.asUrls image.source with
  | none =>
    rw [show inliner.images.reference? image = none from hreference,
      inliner.imageSource_of_none hreference]
    rfl
  | some reference =>
    rw [show inliner.images.reference? image = some reference from hreference]
    cases (imageReference?_eq_some_iff.1 hreference).1
    show (inliner.imageSource image.source >>= _) >>= _ = _
    rw [bind_assoc]
    refine congrArg (inliner.imageSource image.source >>= ·) (funext fun loaded => ?_)
    cases loaded with
    | ok source? => cases source? <;> rfl
    | error fault => rfl

/-! ### Watched passes -/

section Asks

variable (pass : Pass W α) {found : α} (note : String → List ν)

lemma flatMap_asks_of_none (h : pass.reference? found = none) :
    (pass.asks found).flatMap note = [] := by
  rw [Pass.asks, h]
  rfl

lemma flatMap_asks_of_some {reference : List Char} (h : pass.reference? found = some reference) :
    (pass.asks found).flatMap note = notesOf note reference := by
  rw [Pass.asks, h, notesOf]
  cases hremote : isRemote reference <;> simp [Option.filter, hremote]

end Asks

lemma notes_replaceLink (note : String → List ν) (tag : List Char) (w : W) :
    Notes ((inliner.watched note).replaceLink tag) (inliner.replaceLink tag) w
      ((inliner.styles.asks tag).flatMap note) := by
  unfold replaceLink
  cases hreference : Html.stylesheet? tag with
  | none =>
    rw [flatMap_asks_of_none inliner.styles note hreference]
    exact notes_pure _ w
  | some reference =>
    rw [flatMap_asks_of_some inliner.styles note hreference]
    refine (inliner.notes_stylesheet note reference w).bind_quiet ?_
    generalize ((inliner.stylesheet reference).run w).1 = loaded
    cases loaded <;> exact notes_pure _ _

lemma notes_replaceImage (note : String → List ν) (image : Html.Image) (w : W) :
    Notes ((inliner.watched note).replaceImage image) (inliner.replaceImage image) w
      ((inliner.images.asks image).flatMap note) := by
  unfold replaceImage
  cases hreference : imageReference? inliner.asUrls image.source with
  | none =>
    rw [flatMap_asks_of_none inliner.images note hreference,
      imageSource_of_none inliner hreference,
      imageSource_of_none (inliner.watched note) hreference, pure_bind, pure_bind]
    exact notes_pure _ w
  | some reference =>
    rw [flatMap_asks_of_some inliner.images note hreference]
    cases (imageReference?_eq_some_iff.1 hreference).1
    refine (inliner.notes_imageSource note hreference w).bind_quiet ?_
    generalize ((inliner.imageSource image.source).run w).1 = loaded
    cases loaded with
    | ok source? => cases source? <;> exact notes_pure _ _
    | error fault => exact notes_pure _ _

lemma notes_inlineStyles (note : String → List ν) (page : List Char) (w : W) :
    Notes ((inliner.watched note).inlineStyles page) (inliner.inlineStyles page) w
      ((Html.link.occurrences page).flatMap fun tag => (inliner.styles.asks tag).flatMap note) :=
  notes_replace _ (inliner.notes_replaceLink note) page w

lemma notes_inlineImages (note : String → List ν) (page : List Char) (w : W) :
    Notes ((inliner.watched note).inlineImages page) (inliner.inlineImages page) w
      ((Html.image.occurrences page).flatMap fun image =>
        (inliner.images.asks image).flatMap note) :=
  notes_replace _ (inliner.notes_replaceImage note) page w

end Inliner

open Inliner

end Inline

end Pressroom
