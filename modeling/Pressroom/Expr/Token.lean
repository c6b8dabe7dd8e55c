import Pressroom.Number.Layout
import Pressroom.Text.Quoted

/-!
Tokens of the expression language: numbers, texts, names and the symbols between them.
-/

namespace Pressroom.Expr

inductive Symbol where
  | strictEq | strictNe | optionalDot | nullish | looseEq | looseNe | le | ge | both | either
  | openParen | closeParen | openBracket | closeBracket | openBrace | closeBrace
  | comma | dot | question | colon | bang | lt | gt | plus | minus | star | slash | percent
  deriving Repr, DecidableEq

namespace Symbol

def spelling : Symbol → List Char
  | strictEq => ['=', '=', '=']
  | strictNe => ['!', '=', '=']
  | optionalDot => ['?', '.']
  | nullish => ['?', '?']
  | looseEq => ['=', '=']
  | looseNe => ['!', '=']
  | le => ['<', '=']
  | ge => ['>', '=']
  | both => ['&', '&']
  | either => ['|', '|']
  | openParen => ['(']
  | closeParen => [')']
  | openBracket => ['[']
  | closeBracket => [']']
  | openBrace => ['{']
  | closeBrace => ['}']
  | comma => [',']
  | dot => ['.']
  | question => ['?']
  | colon => [':']
  | bang => ['!']
  | lt => ['<']
  | gt => ['>']
  | plus => ['+']
  | minus => ['-']
  | star => ['*']
  | slash => ['/']
  | percent => ['%']

/-- All symbols; one that another continues comes after it, so that the first one that fits is the
longest. -/
def all : List Symbol :=
  [strictEq, strictNe, optionalDot, nullish, looseEq, looseNe, le, ge, both, either,
   openParen, closeParen, openBracket, closeBracket, openBrace, closeBrace,
   comma, dot, question, colon, bang, lt, gt, plus, minus, star, slash, percent]

theorem mem_all (s : Symbol) : s ∈ all := by
  cases s <;> decide

theorem spelling_ne_nil (s : Symbol) : s.spelling ≠ [] := by
  cases s <;> decide

end Symbol

inductive Token where
  | num (x : Float)
  | str (s : String)
  | name (n : String)
  | symbol (s : Symbol)

namespace Token

/-- A token in a message. -/
def shown : Token → String
  | num x => s!"Number({Number.diagnosticText x})"
  | str s => s!"Str({Text.quoted s})"
  | name n => s!"Ident({Text.quoted n})"
  | symbol s => s!"Punct({Text.quoted (String.ofList s.spelling)})"

def shownAt : Option Token → String
  | some token => s!"Some({token.shown})"
  | none => "None"

end Token

end Pressroom.Expr
