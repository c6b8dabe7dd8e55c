import Pressroom.Html.Tag

/-!
Images of a page and their sources. An image is looked at from the start of its tag to the end of
the source, which stands in quotes; what follows in the tag does not matter.
-/

namespace Pressroom.Html

open Text

/-- The start of an image tag up to its source. -/
structure Image where
  /-- What stands before the quote that opens the source. -/
  opening : List Char
  quote : Char
  source : List Char
  deriving Repr, DecidableEq

namespace Image

def spell (image : Image) : List Char :=
  image.opening ++ image.quote :: image.source ++ [image.quote]

def withSource (image : Image) (source : List Char) : Image :=
  { image with source }

end Image

/-- What follows a blank, the name of the source and an equals sign at the start of a text. -/
def afterSource? (cs : List Char) : Option (List Char) :=
  match cs with
  | [] => none
  | c :: rest => if isBlank c then (afterWord? "src" rest).bind afterEquals? else none

/-- The text from the quote of the first source on that stands in quotes, inside one tag. -/
def sourceIn? : List Char → Option (List Char)
  | [] => none
  | c :: cs =>
    match (afterSource? (c :: cs)).filter fun rest => (quoted? rest).isSome with
    | some rest => some rest
    | none => if c = '>' then none else sourceIn? cs

/-- The image at the start of a text, and what follows its source. -/
def image? (cs : List Char) : Option (Image × List Char) :=
  match (afterTagName? "img" cs).bind sourceIn? with
  | none => none
  | some inner =>
    (quoted? inner).map fun (quote, source, rest) => (⟨upTo cs inner, quote, source⟩, rest)

theorem suffix_of_afterTagName? {name : String} {cs rest : List Char}
    (h : afterTagName? name cs = some rest) : rest <:+ cs := by
  unfold afterTagName? at h
  split at h
  · simp at h
  · next r hr =>
    obtain ⟨hw, -⟩ := Option.filter_eq_some_iff.1 h
    exact (suffix_of_afterWord? hw).trans (suffix_of_strip? hr)

theorem suffix_of_afterSource? {cs rest : List Char} (h : afterSource? cs = some rest) :
    rest <:+ cs := by
  unfold afterSource? at h
  split at h
  · simp at h
  · next c inner =>
    split at h
    · obtain ⟨r, hr, he⟩ := Option.bind_eq_some_iff.1 h
      exact (suffix_of_afterEquals? he).trans
        ((suffix_of_afterWord? hr).trans (List.suffix_cons c inner))
    · simp at h

theorem suffix_of_sourceIn? {cs rest : List Char} (h : sourceIn? cs = some rest) :
    rest <:+ cs := by
  induction cs with
  | nil => simp [sourceIn?] at h
  | cons c cs ih =>
    simp only [sourceIn?] at h
    split at h
    · next r hr =>
      obtain ⟨hs, -⟩ := Option.filter_eq_some_iff.1 hr
      simp only [Option.some.injEq] at h
      exact h ▸ suffix_of_afterSource? hs
    · split at h
      · simp at h
      · exact (ih h).trans (List.suffix_cons c cs)

theorem spell_of_image? {cs rest : List Char} {image : Image}
    (h : image? cs = some (image, rest)) : cs = image.spell ++ rest := by
  unfold image? at h
  split at h
  · simp at h
  · next inner hi =>
    obtain ⟨r, hr, hs⟩ := Option.bind_eq_some_iff.1 hi
    simp only [Option.map_eq_some_iff, Prod.exists, Prod.mk.injEq] at h
    obtain ⟨q, v, rest', hq, rfl, rfl⟩ := h
    have hsuffix := (suffix_of_sourceIn? hs).trans (suffix_of_afterTagName? hr)
    have hinner := eq_of_quoted? hq
    calc cs = upTo cs inner ++ inner := (upTo_append hsuffix).symm
      _ = upTo cs inner ++ (q :: v ++ q :: rest') := congrArg (upTo cs inner ++ ·) hinner
      _ = Image.spell ⟨upTo cs inner, q, v⟩ ++ rest' := by simp [Image.spell]

def image : Pattern Image where
  match? := image?
  spell := Image.spell
  spell_append_of_match? := spell_of_image?
  spell_ne_nil_of_match? _ := by simp [Image.spell]

end Pressroom.Html
