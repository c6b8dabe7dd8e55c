import Pressroom.Data.Value

/-!
Expressions as trees.
-/

namespace Pressroom.Expr

inductive UnaryOp where
  | not | neg | plus
  deriving Repr, DecidableEq

inductive BinaryOp where
  | add | sub | mul | div | rem
  | eq | ne | strictEq | strictNe
  | lt | le | gt | ge
  deriving Repr, DecidableEq

/-- Operators that evaluate their right operand only if the left one does not settle the result. -/
inductive LogicalOp where
  | and | or | nullish
  deriving Repr, DecidableEq

inductive Term where
  | literal (value : Value)
  | name (n : String)
  | member (object : Term) (property : String) (lenient : Bool)
  | index (object key : Term) (lenient : Bool)
  | call (object : Term) (method : String) (args : List Term) (lenient : Bool)
  | unary (op : UnaryOp) (operand : Term)
  | binary (left : Term) (op : BinaryOp) (right : Term)
  | logical (left : Term) (op : LogicalOp) (right : Term)
  | conditional (test consequent alternate : Term)
  | array (items : List Term)
  | object (entries : List (String × Term))

instance : Inhabited Term := ⟨.literal .null⟩

end Pressroom.Expr
