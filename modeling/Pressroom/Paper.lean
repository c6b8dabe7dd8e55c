import Pressroom.Number.Layout
import Pressroom.Number.Literal
import Pressroom.Text.Blank

/-!
Paper sizes and the page rule for them.
-/

namespace Pressroom

inductive Paper where
  | a4
  | a3
  | a1
  | letter
  deriving Repr, DecidableEq

namespace Paper

def all : List Paper := [a4, a3, a1, letter]

def name : Paper → String
  | a4 => "A4"
  | a3 => "A3"
  | a1 => "A1"
  | letter => "LETTER"

/-- The paper size of a name; the letters `a` to `z` may be small or capital. -/
def ofName? (name : String) : Option Paper :=
  all.find? fun paper => paper.name.toList == name.toList.map Char.toUpper

def width : Paper → Float
  | a4 => 21
  | a3 => 29.7
  | a1 => 59.4
  | letter => 21.59

def height : Paper → Float
  | a4 => 29.7
  | a3 => 42
  | a1 => 84.1
  | letter => 27.94

/-- The centimetres that a margin takes from the height: a bare number takes itself, any other
length nothing. -/
def marginHeight (margin : String) : Float :=
  (Number.read? (Text.trim margin.toList)).getD 0

/-- The style element with the page rule, and with the size of the body inside the margins. -/
def pageRule (paper : Paper) (top bottom : String) : String :=
  let height := paper.height - marginHeight top - marginHeight bottom
  "\n<style>\n\n    @page \x7b\n" ++
    s!"        size: \"{paper.name}\";\n" ++
    s!"        margin-top: {top};\n" ++
    s!"        margin-bottom: {bottom};\n" ++
    "    \x7d\n\n    body, html \x7b\n" ++
    s!"    width: {Number.text paper.width}cm;\n" ++
    s!"    height: {Number.text height}cm;\n" ++
    "    \x7d\n\n</style>\n"

theorem ofName?_name (paper : Paper) : ofName? paper.name = some paper := by
  cases paper <;> rfl

end Paper

end Pressroom
