import Pressroom.Markup.Marker

/-!
Directives: what markup is made of besides text. There are two dialects of writing them, one with
percent signs and brackets and one with tags; what a directive is does not depend on the dialect.
-/

namespace Pressroom.Markup

/-- A condition with the markup it guards. -/
structure Branch where
  condition : List Char
  body : List Char
  deriving Repr, DecidableEq

/-- A directive, or a stretch of text between directives. Bodies are markup of their own. -/
inductive Directive where
  | text (t : List Char)
  | expression (source : List Char)
  | style (selector : Option (List Char)) (spread : Bool)
  | inclusion (source : List Char)
  | loop (element : String) (index : Option String) (array body : List Char)
  | conditional (branches : List Branch) (otherwise : Option (List Char))
  deriving Repr, DecidableEq

def Directive.bodies : Directive → List (List Char)
  | loop _ _ _ body => [body]
  | conditional branches otherwise => branches.map (·.body) ++ otherwise.toList
  | _ => []

/-- The two ways of writing directives. -/
inductive Dialect where
  | bracket
  | tag
  deriving Repr, DecidableEq

namespace Dialect

/-- Ends the condition of an `if` or the array of a loop. -/
def expressionClose : Dialect → Marker
  | bracket => [.text ['}'], .blanks, .text ['%', '%']]
  | tag => [.quote, .blanks, .text ['>']]

/-- Opens the condition of an `else-if` with the id of its `if`. -/
def elseIfOpen (id : List Char) : Dialect → Marker
  | bracket => [.text ("%%else-if".toList ++ id), .blanks, .text ['{']]
  | tag => [.text ("<a-else-if".toList ++ id), .blanks, .text "condition".toList, .blanks,
      .text ['='], .blanks, .quote]

/-- Ends the condition of an `else-if`. -/
def elseIfClose : Dialect → Marker
  | bracket => [.text ['}'], .blanks, .text ['%', '%']]
  | tag => [.quote, .blanks, .slash, .text ['>']]

/-- The `else` of the `if` with an id. -/
def elseMarker (id : List Char) : Dialect → Marker
  | bracket => [.text ("%%else".toList ++ id), .blanks, .text ['%', '%']]
  | tag => [.text ("<a-else".toList ++ id), .blanks, .slash, .text ['>']]

/-- The end of the `if` with an id. -/
def ifEnd (id : List Char) : Dialect → Marker
  | bracket => [.text ("%%endif".toList ++ id), .blanks, .text ['%', '%']]
  | tag => [.text ("</a-if".toList ++ id), .blanks, .text ['>']]

/-- The end of the loop with an id. -/
def loopEnd (id : List Char) : Dialect → Marker
  | bracket => [.text ("%%endfor".toList ++ id), .blanks, .text ['%', '%']]
  | tag => [.text ("</a-for".toList ++ id), .blanks, .text ['>']]

def inclusionClose : Dialect → Marker
  | bracket => [.text [']'], .blanks, .text ['%', '%']]
  | tag => [.text [']'], .blanks, .slash, .text ['>']]

def styleClose : Dialect → Marker
  | bracket => [.text ['%', '%']]
  | tag => [.text ['/', '>']]

def styleParamsClose : Dialect → Marker
  | bracket => [.text [']'], .blanks, .text ['%', '%']]
  | tag => [.text [']'], .blanks, .text ['/', '>']]

end Dialect

end Pressroom.Markup
