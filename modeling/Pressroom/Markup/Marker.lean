import Pressroom.Text.Blank
import Pressroom.Text.Fold

/-!
Markers: the short fixed texts that close and divide directives. A marker is a sequence of parts,
matched greedily and without going back; no part takes what the next one needs, so this is the same
as matching it as a pattern. Markers never match nothing.
-/

namespace Pressroom.Markup

inductive Piece where
  /-- A text, the letters `A` to `Z` in either case. -/
  | text (t : List Char)
  /-- Any number of blanks. -/
  | blanks
  /-- A slash or nothing. -/
  | slash
  /-- A single or a double quote. -/
  | quote
  deriving Repr, DecidableEq

abbrev Marker := List Piece

def isQuote (c : Char) : Bool :=
  c == '\'' || c == '"'

def afterQuote? (cs : List Char) : Option (List Char) :=
  match cs with
  | c :: rest => if isQuote c then some rest else none
  | [] => none

def skipSlash (cs : List Char) : List Char :=
  match cs with
  | '/' :: rest => rest
  | rest => rest

namespace Marker

def strip? : Marker → List Char → Option (List Char)
  | [], cs => some cs
  | .text t :: marker, cs => (Text.stripFolded? Text.foldAscii t cs).bind (strip? marker)
  | .blanks :: marker, cs => strip? marker (Text.skipBlanks cs)
  | .slash :: marker, cs => strip? marker (skipSlash cs)
  | .quote :: marker, cs => (afterQuote? cs).bind (strip? marker)

/-- The text before and the text after the first place where the marker matches. -/
def cut? (marker : Marker) : List Char → Option (List Char × List Char)
  | [] => none
  | c :: cs =>
    match strip? marker (c :: cs) with
    | some rest => some ([], rest)
    | none => (cut? marker cs).map fun (before, rest) => (c :: before, rest)

theorem length_skipSlash_le (cs : List Char) : (skipSlash cs).length ≤ cs.length := by
  unfold skipSlash
  split <;> simp

theorem length_afterQuote? {cs rest : List Char} (h : afterQuote? cs = some rest) :
    rest.length < cs.length := by
  unfold afterQuote? at h
  split at h <;> grind

theorem length_strip?_le {marker : Marker} {cs rest : List Char}
    (h : marker.strip? cs = some rest) : rest.length ≤ cs.length := by
  induction marker generalizing cs with
  | nil => simp_all [strip?]
  | cons piece marker ih =>
    cases piece with
    | text t =>
      obtain ⟨r, hr, h⟩ := Option.bind_eq_some_iff.1 h
      have := Text.length_of_stripFolded? hr
      have := ih h
      omega
    | blanks => exact Nat.le_trans (ih h) (Text.length_skipBlanks_le cs)
    | slash => exact Nat.le_trans (ih h) (length_skipSlash_le cs)
    | quote =>
      obtain ⟨r, hr, h⟩ := Option.bind_eq_some_iff.1 h
      have := length_afterQuote? hr
      have := ih h
      omega

/-- A cut falls where the marker matches. -/
theorem cut?_eq_some {marker : Marker} {cs before rest : List Char}
    (h : marker.cut? cs = some (before, rest)) :
    ∃ tail, cs = before ++ tail ∧ marker.strip? tail = some rest := by
  induction cs generalizing before with
  | nil => simp [cut?] at h
  | cons c cs ih =>
    simp only [cut?] at h
    split at h
    · next r hr =>
      simp only [Option.some.injEq, Prod.mk.injEq] at h
      obtain ⟨rfl, rfl⟩ := h
      exact ⟨c :: cs, rfl, hr⟩
    · simp only [Option.map_eq_some_iff, Prod.mk.injEq, Prod.exists] at h
      obtain ⟨b, r, hb, rfl, rfl⟩ := h
      obtain ⟨tail, rfl, hs⟩ := ih hb
      exact ⟨tail, rfl, hs⟩

theorem length_cut?_le {marker : Marker} {cs before rest : List Char}
    (h : marker.cut? cs = some (before, rest)) : before.length + rest.length ≤ cs.length := by
  obtain ⟨tail, rfl, hs⟩ := cut?_eq_some h
  have := length_strip?_le hs
  simp; omega

end Marker

end Pressroom.Markup
