import Pressroom.Proofs.Html.Sources
import Pressroom.Proofs.Inline.Passes

/-!
What the images of a page look like once they have been put into it. Each is meant to be what it
was, with a new source between its quotes if it gets one. Main statement: when the page is looked
through again, the images are found as they are meant to be, in their order, just when no new source
holds the quote that it stands between or one that was left open in front of it. Nothing sees to
that: a media type with a parameter in quotes is enough to cut a source short.
-/

namespace Pressroom.Inline

open Text (Pattern)
open Text.Pattern (Visit Visits outcome exists_visits)
open Html (Image Rewrite)

variable {W : Type}

namespace Inliner

variable (inliner : Inliner (StateM W))

/-- The new source that an answer brings, if any. -/
def newSource? (answer : Except ResourceFault (Option (List Char))) : Option (List Char) :=
  match answer with
  | .ok source => source
  | .error _ => none

/-- What a visit to an image is to make of it. -/
def rewrite (visit : Visit W Image) : Rewrite where
  before := visit.before
  found := visit.found
  source? := newSource? ((inliner.imageSource visit.found.source).run visit.world).1

variable {inliner} {visit : Visit W Image}

lemma text_eq_spell (hrun : (inliner.replaceImage visit.found).run visit.world =
    (⟨visit.text, visit.records⟩, visit.worldAfter)) :
    visit.text = (inliner.rewrite visit).image.spell := by
  have htext := congrArg (·.1.value) hrun
  rw [replaceImage, StateT.run_bind] at htext
  rw [Rewrite.image, rewrite]
  generalize (inliner.imageSource visit.found.source).run visit.world = answer at htext ⊢
  obtain ⟨fault | _ | source, w⟩ := answer
  · exact htext.symm
  · exact htext.symm
  · exact htext.symm

lemma outcome_value {w w' : W} {visits : List (Visit W Image)} {last : List Char}
    (hvisits : Visits inliner.replaceImage w visits w') :
    (outcome visits last).value = Rewrite.page (visits.map inliner.rewrite) last := by
  rw [outcome, Rewrite.page, List.flatMap_map]
  refine congrArg (· ++ last) (List.flatMap_congr fun visit hvisit => ?_)
  rw [text_eq_spell (hvisits.run_of_mem visit hvisit)]
  rfl

lemma cuts_rewrites {page last : List Char} {visits : List (Visit W Image)}
    (h : Html.image.Cuts page (visits.map Visit.piece) last) :
    Html.image.Cuts page ((visits.map inliner.rewrite).map Rewrite.piece) last := by
  rwa [List.map_map]

end Inliner

/-- **Images are found again as they are meant to be** just when their new sources keep to their
quotes. The page is cut at its images, which are visited in their order; what is between them stays,
and each is to stand there with its new source, if it gets one. When the page is looked through
again, these images are found and no others, with their sources in full, just when no new source
holds the quote that it stands between, nor a quote that something in front of it left open. -/
theorem inlineImages_found_again_iff (inliner : Inliner (StateM W)) (page : List Char) (w : W) :
    ∃ visits last w',
      Html.image.Cuts page (visits.map Visit.piece) last ∧
      Visits inliner.replaceImage w visits w' ∧
      (inliner.inlineImages page).run w = (outcome visits last, w') ∧
      Html.image.occurrences page = visits.map Visit.found ∧
      (outcome visits last).value = Rewrite.page (visits.map inliner.rewrite) last ∧
      (Html.image.occurrences (outcome visits last).value =
          visits.map (fun visit => (inliner.rewrite visit).image) ↔
        Rewrite.KeepsQuotes (visits.map inliner.rewrite)) := by
  obtain ⟨visits, last, w', hcuts, hvisits, hrun, hfound⟩ :=
    exists_visits Html.image inliner.replaceImage page w
  have hvalue : (outcome visits last).value = Rewrite.page (visits.map inliner.rewrite) last :=
    Inliner.outcome_value hvisits
  refine ⟨visits, last, w', hcuts, hvisits, hrun, hfound, hvalue, ?_⟩
  have hiff := Rewrite.occurrences_page_iff (inliner.cuts_rewrites hcuts)
  rwa [List.map_map, ← hvalue] at hiff

/-- An inliner that fetches a drawing whose media type names its encoding in quotes. -/
def quotedCharset : Inliner (StateM Unit) where
  files := FileTree.empty.reader
  fetch _ := return .ok ⟨some "image/svg+xml; charset=\"utf-8\"", "<svg/>".toUTF8⟩
  guess := .common
  root := .ofString ""
  asUrls := false
  publicFolders := []
  publicBase := ""

/-- A media type with a quote cuts the new source of an image short: what is found again between the
quotes is not the source that the image was given. -/
theorem inlineImages_cuts_source :
    ((quotedCharset.imageSource "http://x/a.svg".toList).run ()).1 =
        .ok (some "data:image/svg+xml; charset=\"utf-8\";base64,PHN2Zy8+".toList) ∧
      (Html.image.occurrences "<img src=\"http://x/a.svg\">".toList).map Image.source =
        ["http://x/a.svg".toList] ∧
      (Html.image.occurrences ((quotedCharset.inlineImages
          "<img src=\"http://x/a.svg\">".toList).run ()).1.value).map Image.source =
        ["data:image/svg+xml; charset=".toList] := by
  decide +kernel

end Pressroom.Inline
