import Pressroom.Html.Tag

/-!
Links of a page that lead to its stylesheets.
-/

namespace Pressroom.Html

open Text

def words (cs : List Char) : List (List Char) :=
  (cs.splitBy fun a b => isBlank a == isBlank b).filter fun word => !word.all isBlank

/-- The stylesheet that a link tag leads to, if it does lead to one. -/
def stylesheet? (tag : List Char) : Option (List Char) :=
  match attributeOf? "rel" tag, attributeOf? "href" tag with
  | some rel, some href =>
    if (words rel).any (eqFolded · "stylesheet".toList) && !href.isEmpty then some href else none
  | _, _ => none

def link : Pattern (List Char) := openTag "link"

def styleElement (css : List Char) : List Char :=
  "<style type=\"text/css\">\n".toList ++ css ++ "\n</style>".toList

end Pressroom.Html
