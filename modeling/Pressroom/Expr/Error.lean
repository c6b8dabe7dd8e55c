import Pressroom.Data.Printer
import Pressroom.Expr.Token

/-!
Why an expression has no value. Each cause is a constructor; the wording is in one place.
-/

namespace Pressroom.Expr

/-- What is wrong with the text of an expression. -/
inductive SyntaxFault where
  | unexpectedCharacter (c : Char)
  | invalidNumber (text : List Char)
  | unterminatedString
  | unexpectedToken (token : Token)
  | expected (symbol : Symbol)
  | expectedProperty (found : Option Token)
  | expectedKey (found : Option Token)
  /-- Something other than a method is called. -/
  | bareCall
  | unexpectedEnd

def SyntaxFault.message : SyntaxFault → String
  | unexpectedCharacter c => s!"unexpected character `{c}`"
  | invalidNumber text => s!"invalid number `{String.ofList text}`"
  | unterminatedString => "unterminated string literal"
  | unexpectedToken token => s!"unexpected token {token.shown}"
  | expected symbol => s!"expected `{String.ofList symbol.spelling}`"
  | expectedProperty found => s!"expected property name, found {Token.shownAt found}"
  | expectedKey found => s!"expected object key, found {Token.shownAt found}"
  | bareCall => "only methods can be called"
  | unexpectedEnd => "unexpected end of expression"

/-- An operation that a value does not have. -/
inductive TypeFault where
  | propertyOfNull (property : String)
  | callOnNull (method : String)
  | notAFunction (method : String)
  | notAMathFunction (method : String)
  /-- A style comes from something that is neither a text nor an object. -/
  | styleSource (source : Value)

def TypeFault.message : TypeFault → String
  | propertyOfNull property => s!"cannot read property `{property}` of null"
  | callOnNull method => s!"cannot call `{method}` on null"
  | notAFunction method => s!"`{method}` is not a function"
  | notAMathFunction method => s!"`Math.{method}` is not a function"
  | styleSource source => s!"style source must be an object or a string, got {source.compact}"

/-- Why an expression has no value. -/
inductive EvalError where
  | malformed (source : List Char) (fault : SyntaxFault)
  | unbound (name : String)
  | mistyped (fault : TypeFault)

def EvalError.message : EvalError → String
  | malformed source fault => s!"syntax error in `{String.ofList source}`: {fault.message}"
  | unbound name => s!"`{name}` is not defined"
  | mistyped fault => s!"type error: {fault.message}"

end Pressroom.Expr
