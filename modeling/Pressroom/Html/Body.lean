import Pressroom.Html.Tag

/-!
The body of a page, and the end of its head: the two places where something is put into a template.
-/

namespace Pressroom.Html

open Text

/-- A page around its body. -/
structure Frame where
  before : List Char
  opening : List Char
  closing : List Char
  after : List Char
  deriving Repr, DecidableEq

/-- The page around the contents of its first body element, which end at the first closing tag. -/
def frame? (page : List Char) : Option Frame :=
  match (openTag "body").first? page with
  | none => none
  | some (before, opening, rest) =>
    ((closeTag "body").first? rest).map fun (_, closing, after) =>
      ⟨before, opening, closing, after⟩

/-- The page with a body, which gets lines of its own. -/
def Frame.fill (frame : Frame) (body : List Char) : List Char :=
  frame.before ++ frame.opening ++ '\n' :: body ++ '\n' :: frame.closing ++ frame.after

/-- The page with another body; a page without a body element stays as it is. -/
def placeBody (page body : List Char) : Logged (List Char) :=
  match frame? page with
  | some frame => .quiet (frame.fill body)
  | none => ⟨page, [.warning "template has no <body> element, leaving it unchanged"]⟩

/-- The page with a snippet at the end of its head; a page without a head stays as it is. -/
def injectIntoHead (page snippet : List Char) : Logged (List Char) :=
  match cut? "</head>".toList page with
  | some (before, after) => .quiet (before ++ snippet ++ "</head>".toList ++ after)
  | none => ⟨page, [.warning "no </head> in template, dropping injected style"]⟩

def styleBlock (css : List Char) : List Char :=
  "\n<style>\n".toList ++ css ++ "\n</style>\n".toList

end Pressroom.Html
