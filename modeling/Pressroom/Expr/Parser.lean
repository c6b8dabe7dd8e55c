import Pressroom.Expr.Lexer
import Pressroom.Expr.Term

/-!
Expressions read from tokens. Each level of precedence is a function of the level below it, from
the conditional operator, which binds least, down to single operands. Only brackets and the branches
of a conditional lead back to the top, so the nesting of those is what the recursion goes by.
-/

namespace Pressroom.Expr

/-- What is read at the start of the tokens, and the tokens behind it. -/
abbrev Parser (α : Type) := List Token → Except SyntaxFault (α × List Token)

namespace Parser

/-- The tokens behind a symbol that has to come. -/
def expect (symbol : Symbol) (ts : List Token) : Except SyntaxFault (List Token) :=
  match ts with
  | .symbol s :: rest => if s = symbol then .ok rest else .error (.expected symbol)
  | _ => .error (.expected symbol)

/-! ### Operators between operands of one level -/

/-- The operators and operands that follow `left`, grouped from the left. -/
def chainTail (operand : Parser Term) (operator? : Symbol → Option (Term → Term → Term)) :
    (fuel : Nat) → (left : Term) → Parser Term
  | 0, left, ts => .ok (left, ts)
  | fuel + 1, left, ts =>
    match ts with
    | .symbol s :: rest =>
      match operator? s with
      | some make => do
        let (right, rest) ← operand rest
        chainTail operand operator? fuel (make left right) rest
      | none => .ok (left, ts)
    | _ => .ok (left, ts)

def chain (operand : Parser Term) (operator? : Symbol → Option (Term → Term → Term)) :
    Parser Term := fun ts => do
  let (first, rest) ← operand ts
  chainTail operand operator? rest.length first rest

def nullishOp? (s : Symbol) : Option (Term → Term → Term) :=
  if s = .nullish then some (.logical · .nullish ·) else none

def orOp? (s : Symbol) : Option (Term → Term → Term) :=
  if s = .either then some (.logical · .or ·) else none

def andOp? (s : Symbol) : Option (Term → Term → Term) :=
  if s = .both then some (.logical · .and ·) else none

def equalityOp? (s : Symbol) : Option (Term → Term → Term) :=
  match s with
  | .strictEq => some (.binary · .strictEq ·)
  | .strictNe => some (.binary · .strictNe ·)
  | .looseEq => some (.binary · .eq ·)
  | .looseNe => some (.binary · .ne ·)
  | _ => none

def relationOp? (s : Symbol) : Option (Term → Term → Term) :=
  match s with
  | .le => some (.binary · .le ·)
  | .ge => some (.binary · .ge ·)
  | .lt => some (.binary · .lt ·)
  | .gt => some (.binary · .gt ·)
  | _ => none

def additiveOp? (s : Symbol) : Option (Term → Term → Term) :=
  match s with
  | .plus => some (.binary · .add ·)
  | .minus => some (.binary · .sub ·)
  | _ => none

def multiplicativeOp? (s : Symbol) : Option (Term → Term → Term) :=
  match s with
  | .star => some (.binary · .mul ·)
  | .slash => some (.binary · .div ·)
  | .percent => some (.binary · .rem ·)
  | _ => none

/-! ### Operands; `whole` reads an expression of any kind -/

/-- What `element` reads, between commas up to a closing symbol; a comma may stand in front of it.
-/
def separated {α : Type} (element : Parser α) (close : Symbol) : (fuel : Nat) → Parser (List α)
  | 0, _ => .error (.expected close)
  | fuel + 1, ts =>
    match expect close ts with
    | .ok rest => .ok ([], rest)
    | .error _ => do
      let (first, rest) ← element ts
      match expect .comma rest with
      | .ok rest => do
        let (others, rest) ← separated element close fuel rest
        return (first :: others, rest)
      | .error _ => return ([first], ← expect close rest)

/-- The key of an entry. -/
def key (ts : List Token) : Except SyntaxFault (String × List Token) :=
  match ts with
  | .name n :: rest => .ok (n, rest)
  | .str s :: rest => .ok (s, rest)
  | .num x :: rest => .ok (Number.text x, rest)
  | ts => .error (.expectedKey ts.head?)

/-- A key with its value, which is the variable of that name if none is given. -/
def entry (whole : Parser Term) : Parser (String × Term) := fun ts => do
  let (k, rest) ← key ts
  match expect .colon rest with
  | .ok rest => do
    let (value, rest) ← whole rest
    return ((k, value), rest)
  | .error _ => return ((k, .name k), rest)

/-- What a name stands for on its own: a constant or a variable. -/
def named (n : String) : Term :=
  if n = "true" then .literal (.bool true)
  else if n = "false" then .literal (.bool false)
  else if n = "null" || n = "undefined" then .literal .null
  else .name n

/-- A single operand. -/
def primary (whole : Parser Term) : Parser Term := fun ts =>
  match ts with
  | .num x :: rest => .ok (.literal (Value.ofFloat x), rest)
  | .str s :: rest => .ok (.literal (.str s), rest)
  | .name n :: rest => .ok (named n, rest)
  | .symbol .openParen :: rest => do
    let (inner, rest) ← whole rest
    return (inner, ← expect .closeParen rest)
  | .symbol .openBracket :: rest => do
    let (list, rest) ← separated whole .closeBracket (rest.length + 1) rest
    return (.array list, rest)
  | .symbol .openBrace :: rest => do
    let (list, rest) ← separated (entry whole) .closeBrace (rest.length + 1) rest
    return (.object list, rest)
  | t :: _ => .error (.unexpectedToken t)
  | [] => .error .unexpectedEnd

/-- A property of `object`, or a call of one of its methods. -/
def property (whole : Parser Term) (object : Term) (lenient : Bool) : Parser Term := fun ts =>
  match ts with
  | .name n :: rest =>
    match expect .openParen rest with
    | .ok rest => do
      let (args, rest) ← separated whole .closeParen (rest.length + 1) rest
      return (.call object n args lenient, rest)
    | .error _ => .ok (.member object n lenient, rest)
  | ts => .error (.expectedProperty ts.head?)

def index (whole : Parser Term) (object : Term) (lenient : Bool) : Parser Term := fun ts => do
  let (key, rest) ← whole ts
  return (.index object key lenient, ← expect .closeBracket rest)

/-- The properties, calls and indexes that follow `object`. -/
def accessTail (whole : Parser Term) : (fuel : Nat) → (object : Term) → Parser Term
  | 0, object, ts => .ok (object, ts)
  | fuel + 1, object, ts =>
    match ts with
    | .symbol .dot :: rest => do
      let (object, rest) ← property whole object false rest
      accessTail whole fuel object rest
    | .symbol .optionalDot :: .symbol .openBracket :: rest => do
      let (object, rest) ← index whole object true rest
      accessTail whole fuel object rest
    | .symbol .optionalDot :: rest => do
      let (object, rest) ← property whole object true rest
      accessTail whole fuel object rest
    | .symbol .openBracket :: rest => do
      let (object, rest) ← index whole object false rest
      accessTail whole fuel object rest
    | .symbol .openParen :: _ => .error .bareCall
    | ts => .ok (object, ts)

def access (whole : Parser Term) : Parser Term := fun ts => do
  let (object, rest) ← primary whole ts
  accessTail whole (rest.length + 1) object rest

def unary (whole : Parser Term) : Parser Term
  | .symbol .bang :: rest => do
    let (operand, rest) ← unary whole rest
    return (.unary .not operand, rest)
  | .symbol .minus :: rest => do
    let (operand, rest) ← unary whole rest
    return (.unary .neg operand, rest)
  | .symbol .plus :: rest => do
    let (operand, rest) ← unary whole rest
    return (.unary .plus operand, rest)
  | ts => access whole ts

/-! ### Whole expressions -/

def multiplicative (whole : Parser Term) : Parser Term := chain (unary whole) multiplicativeOp?

def additive (whole : Parser Term) : Parser Term := chain (multiplicative whole) additiveOp?

def relational (whole : Parser Term) : Parser Term := chain (additive whole) relationOp?

def equality (whole : Parser Term) : Parser Term := chain (relational whole) equalityOp?

def conjunction (whole : Parser Term) : Parser Term := chain (equality whole) andOp?

def disjunction (whole : Parser Term) : Parser Term := chain (conjunction whole) orOp?

/-- Chains of `??`. -/
def fallback (whole : Parser Term) : Parser Term := chain (disjunction whole) nullishOp?

/-- An expression in which brackets and conditionals nest less than `depth` deep. -/
def expression : (depth : Nat) → Parser Term
  | 0, _ => .error .unexpectedEnd
  | depth + 1, ts => do
    let whole := expression depth
    let (test, rest) ← fallback whole ts
    match expect .question rest with
    | .ok rest => do
      let (consequent, rest) ← whole rest
      let rest ← expect .colon rest
      let (alternate, rest) ← whole rest
      return (.conditional test consequent alternate, rest)
    | .error _ => return (test, rest)

end Parser

/-- The expression that the tokens make up, nothing being left over. Every bracket and every branch
takes a token, so their nesting cannot be deeper than there are tokens. -/
def Term.ofTokens (ts : List Token) : Except SyntaxFault Term := do
  let (term, rest) ← Parser.expression (ts.length + 1) ts
  match rest with
  | [] => return term
  | t :: _ => .error (.unexpectedToken t)

def Term.ofSource (source : List Char) : Except EvalError Term :=
  match (Lexer.tokens source).bind Term.ofTokens with
  | .ok term => .ok term
  | .error fault => .error (.malformed source fault)

end Pressroom.Expr
