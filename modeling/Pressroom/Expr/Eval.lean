import Pressroom.Expr.Method
import Pressroom.Expr.Parser
import Pressroom.Scope

/-!
Evaluation of expressions against a scope. Besides values there are three kinds of intermediate
results: scopes, which are looked into without being copied, the name `Math`, and numbers that are
not finite, which become texts only where the result of an expression or an item of a literal leaves
the evaluation.
-/

namespace Pressroom.Expr

/-- An intermediate result. -/
inductive Operand where
  | value (v : Value)
  | scope (s : Scope)
  | math
  | nonFinite (x : Float)

namespace Operand

def null : Operand := .value .null

def mathText : String := "[object Math]"

def isNull : Operand → Bool
  | value .null => true
  | _ => false

def isNumber : Operand → Bool
  | value (.num _) | nonFinite _ => true
  | _ => false

/-- Whether an operand makes a sum a concatenation. -/
def isTextual : Operand → Bool
  | value (.str _) | value (.arr _) | value (.obj _) | scope _ | math => true
  | _ => false

/-- The operand as a value: numbers that are not finite leave as their texts. -/
def toValue : Operand → Value
  | value v => v
  | scope s => s.toValue
  | math => .str mathText
  | nonFinite x => .str (Number.text x)

def toFloat : Operand → Float
  | value v => v.toFloat
  | nonFinite x => x
  | scope _ | math => Number.nan

def text (operand : Operand) : String :=
  operand.toValue.text

def truthy : Operand → Bool
  | value v => v.truthy
  | scope _ | math => true
  | nonFinite x => x == x

/-- The result of a computation with numbers. -/
def ofFloat (x : Float) : Operand :=
  if Number.isFinite x then value (Value.ofFloat x) else nonFinite x

def ofBool (b : Bool) : Operand := .value (.bool b)

/-- What a name is bound to, as an operand. -/
def ofBinding : Binding → Operand
  | .value v => value v
  | .scope s => scope s

/-- A property of an operand. Null has none; other values have those of their fields, texts and
arrays also their length, and what is not there is null. -/
def property (object : Operand) (name : String) : Except EvalError Operand :=
  match object with
  | nonFinite _ => .ok null
  | scope s => .ok (((s.get? name).map ofBinding).getD null)
  | math =>
    .ok (if name = "PI" then .value (Value.ofFloat 3.141592653589793)
      else if name = "E" then .value (Value.ofFloat 2.718281828459045)
      else null)
  | value .null => .error (.mistyped (.propertyOfNull name))
  | value v =>
    .ok (.value (match v with
      | .str s => if name = "length" then Method.count s.toList.length else .null
      | .arr items => if name = "length" then Method.count items.length else .null
      | v => (v.field? name).getD .null))

/-- The position in an array that a key stands for: a whole number that is not negative. -/
def position? (key : Value) : Option Nat :=
  match key with
  | .num n =>
    if Number.isWhole n.toFloat && 0 ≤ n.toFloat then some (Number.toCount n.toFloat) else none
  | _ => none

/-- What an operand holds under a key: an item of an array, or a property. -/
def item (object : Operand) (key : Value) : Except EvalError Operand :=
  match object, position? key with
  | value (.arr items), some i => .ok (.value (items.getD i .null))
  | object, _ => object.property key.text

/-- A method of an operand, called. -/
def call (object : Operand) (method : String) (args : List Operand) : Except EvalError Operand :=
  match object with
  | math =>
    match Method.math? method (args.map toFloat) with
    | some x => .ok (ofFloat x)
    | none => .error (.mistyped (.notAMathFunction method))
  | nonFinite x =>
    if method = "toFixed" || method = "toString" then .ok (.value (.str (Number.text x)))
    else (Method.call (nonFinite x).toValue method (args.map toValue)).map .value
  | object => (Method.call object.toValue method (args.map toValue)).map .value

/-- Whether one of two operands is a number that is not finite. -/
def eitherNonFinite : Operand → Operand → Bool
  | nonFinite _, _ | _, nonFinite _ => true
  | _, _ => false

def looseEq (a b : Operand) : Bool :=
  if eitherNonFinite a b then !a.isNull && !b.isNull && a.toFloat == b.toFloat
  else a.toValue.looseEq b.toValue

def strictEq (a b : Operand) : Bool :=
  if eitherNonFinite a b then a.isNumber && b.isNumber && a.toFloat == b.toFloat
  else a.toValue.strictEq b.toValue

/-- The order of two operands, none if it is undefined. -/
def order? (a b : Operand) : Option Ordering :=
  if eitherNonFinite a b then Number.order? a.toFloat b.toFloat else a.toValue.order? b.toValue

/-- The sum of two operands, or their concatenation. -/
def add (a b : Operand) : Operand :=
  if a.isTextual || b.isTextual then .value (.str (a.text ++ b.text))
  else ofFloat (a.toFloat + b.toFloat)

def unary (op : UnaryOp) (a : Operand) : Operand :=
  match op with
  | .not => ofBool !a.truthy
  | .neg => ofFloat (-a.toFloat)
  | .plus => ofFloat a.toFloat

def binary (a : Operand) (op : BinaryOp) (b : Operand) : Operand :=
  match op with
  | .add => a.add b
  | .sub => ofFloat (a.toFloat - b.toFloat)
  | .mul => ofFloat (a.toFloat * b.toFloat)
  | .div => ofFloat (a.toFloat / b.toFloat)
  | .rem => ofFloat (Number.remainder a.toFloat b.toFloat)
  | .eq => ofBool (a.looseEq b)
  | .ne => ofBool !(a.looseEq b)
  | .strictEq => ofBool (a.strictEq b)
  | .strictNe => ofBool !(a.strictEq b)
  | .lt => ofBool (a.order? b == some .lt)
  | .le => ofBool (a.order? b == some .lt || a.order? b == some .eq)
  | .gt => ofBool (a.order? b == some .gt)
  | .ge => ofBool (a.order? b == some .gt || a.order? b == some .eq)

/-- Whether the left operand is the result of a logical operator. -/
def settles (a : Operand) (op : LogicalOp) : Bool :=
  match op with
  | .and => !a.truthy
  | .or => a.truthy
  | .nullish => !a.isNull

end Operand

/-- What a name stands for. The name `$` is the scope itself, and `Math` is known everywhere unless
something else bears its name. -/
def lookup (name : String) (scope : Scope) : Except EvalError Operand :=
  if name = "$" then .ok (.scope scope)
  else match scope.resolve? name with
    | some binding => .ok (.ofBinding binding)
    | none => if name = "Math" then .ok .math else .error (.unbound name)

namespace Term

mutual

def eval (scope : Scope) : Term → Except EvalError Operand
  | .literal v => .ok (.value v)
  | .name n => lookup n scope
  | .member target property lenient => do
    let target ← eval scope target
    if lenient && target.isNull then return .null else target.property property
  | .index target key lenient => do
    let target ← eval scope target
    if lenient && target.isNull then return .null
    else
      let key ← eval scope key
      target.item key.toValue
  | .call target method args lenient => do
    let target ← eval scope target
    if lenient && target.isNull then return .null
    else
      let args ← evalAll scope args
      target.call method args
  | .unary op operand => do return (← eval scope operand).unary op
  | .binary left op right => do
    let left ← eval scope left
    let right ← eval scope right
    return left.binary op right
  | .logical left op right => do
    let left ← eval scope left
    if left.settles op then return left else eval scope right
  | .conditional test consequent alternate => do
    let test ← eval scope test
    if test.truthy then eval scope consequent else eval scope alternate
  | .array items => do
    let items ← evalAll scope items
    return .value (.arr (items.map Operand.toValue))
  | .object entries => do
    let entries ← evalEntries scope entries
    return .value (.obj (Value.ofEntries entries))

def evalAll (scope : Scope) : List Term → Except EvalError (List Operand)
  | [] => .ok []
  | term :: terms => do
    let first ← eval scope term
    let others ← evalAll scope terms
    return first :: others

def evalEntries (scope : Scope) :
    List (String × Term) → Except EvalError (List (String × Value))
  | [] => .ok []
  | (key, term) :: entries => do
    let first ← eval scope term
    let others ← evalEntries scope entries
    return (key, first.toValue) :: others

end

end Term

/-- The value of an expression text. -/
def evaluate (source : List Char) (scope : Scope) : Except EvalError Value := do
  let term ← Term.ofSource source
  return (← term.eval scope).toValue

/-- The truth of an expression text, judged before its result leaves the evaluation. -/
def test (source : List Char) (scope : Scope) : Except EvalError Bool := do
  let term ← Term.ofSource source
  return (← term.eval scope).truthy

end Pressroom.Expr
