import Pressroom.Text.Search

/-!
Letters compared without regard to case. Markers fold the letters `A` to `Z` only. Directive heads
and tags fold by the simple folding of Unicode, under which two further characters stand for an
ASCII letter: the long s for `s` and the kelvin sign for `k`.
-/

namespace Pressroom.Text

/-- Small letters for the letters `A` to `Z`. -/
def foldAscii (c : Char) : Char :=
  c.toLower

/-- Small letters for the letters `A` to `Z`, `s` for the long s and `k` for the kelvin sign. -/
def foldSimple (c : Char) : Char :=
  if c = '\u017F' then 's' else if c = '\u212A' then 'k' else c.toLower

/-- Whether two texts differ at most in the case of the letters `A` to `Z`. -/
def eqFolded (a b : List Char) : Bool :=
  a.map foldAscii == b.map foldAscii

/-- What follows the word, in any case, at the start of the text. -/
def afterWord? (word : String) (cs : List Char) : Option (List Char) :=
  stripFolded? foldSimple word.toList cs

end Pressroom.Text
