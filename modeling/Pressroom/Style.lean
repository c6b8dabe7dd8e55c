import Pressroom.Expr.Error
import Pressroom.Data.Coercion

/-!
Style declarations from data. An object gives a declaration for each of its fields that is true, a
text is taken as it is, and what is false gives none.
-/

namespace Pressroom.Style

def propertyName (key : String) : String :=
  String.ofList (key.toList.map fun c => if c = '_' then '-' else c)

/-- What a declaration says: what the value puts on a page, or else its JSON text. -/
def propertyValue (value : Value) : String :=
  value.rendered?.getD value.compact

def declaration (field : String × Value) : String :=
  s!"{propertyName field.1}:{propertyValue field.2};"

/-- The declarations that come from a value. -/
def declarations (source : Value) : Except Expr.EvalError String :=
  match source with
  | .obj fields =>
    .ok (String.intercalate " " ((fields.filter (·.2.truthy)).map declaration))
  | .str s => .ok s
  | source => if source.truthy then .error (.mistyped (.styleSource source)) else .ok ""

/-- Declarations as they stand on a page: with a blank on each side, as an attribute if `spread`. -/
def output (declarations : String) (spread : Bool) : String :=
  if declarations = "" then ""
  else if spread then s!" style=\"{declarations}\" "
  else s!" {declarations} "

end Pressroom.Style
