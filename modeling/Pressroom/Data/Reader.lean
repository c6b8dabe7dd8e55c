import Pressroom.Data.Lexeme

/-!
Values read from JSON text. The first fault of a text decides: it is either no JSON at that point,
or JSON of another shape than is wanted there. Nesting is bounded for values that are kept and
unbounded for those that are skipped.
-/

namespace Pressroom

inductive DataFault where
  /-- The text is no JSON. -/
  | malformed
  /-- The text is JSON so far, but not of the shape that is wanted. -/
  | misshapen
  deriving Repr, DecidableEq

def DataFault.message : DataFault → String
  | malformed => "the text is not well-formed JSON"
  | misshapen => "the document does not have the expected shape"

/-- What is read at the start of the units, with so many levels of nesting allowed, and the units
behind it. -/
abbrev Reader (α : Type) := (room : Nat) → List Lexeme → Except DataFault (α × List Lexeme)

namespace Reader

/-- What becomes of a value: it is kept, with so many levels of nesting allowed, or skipped. -/
inductive Purpose where
  | keep (room : Nat)
  | skip

def Purpose.enter : Purpose → Except DataFault Purpose
  | .keep 0 => .error .malformed
  | .keep (room + 1) => .ok (.keep room)
  | .skip => .ok .skip

/-- What a number or string that cannot be held is read as: skipping does not mind it. -/
def Purpose.held (purpose : Purpose) (value : Option Value) : Except DataFault Value :=
  match value, purpose with
  | some value, _ => .ok value
  | none, .keep _ => .error .malformed
  | none, .skip => .ok .null

mutual

def value : (fuel : Nat) → Purpose → List Lexeme → Except DataFault (Value × List Lexeme)
  | 0, _, _ => .error .malformed
  | fuel + 1, purpose, units =>
    match units with
    | .null :: rest => .ok (.null, rest)
    | .bool b :: rest => .ok (.bool b, rest)
    | .num n :: rest => do return (← purpose.held (n.map .num), rest)
    | .str s :: rest => do return (← purpose.held (s.map .str), rest)
    | .openArray :: rest => do
      let purpose ← purpose.enter
      match rest with
      | .closeArray :: rest => return (.arr [], rest)
      | rest =>
        let (items, rest) ← items fuel purpose rest
        return (.arr items, rest)
    | .openObject :: rest => do
      let purpose ← purpose.enter
      match rest with
      | .closeObject :: rest => return (.obj [], rest)
      | rest =>
        let (entries, rest) ← entries fuel purpose rest
        return (.obj (Value.ofEntries entries), rest)
    | _ => .error .malformed

/-- The items of an array up to its end, at least one. -/
def items : (fuel : Nat) → Purpose → List Lexeme →
    Except DataFault (List Value × List Lexeme)
  | 0, _, _ => .error .malformed
  | fuel + 1, purpose, units => do
    let (first, rest) ← value fuel purpose units
    match rest with
    | .comma :: rest =>
      let (others, rest) ← items fuel purpose rest
      return (first :: others, rest)
    | .closeArray :: rest => return ([first], rest)
    | _ => .error .malformed

/-- The keys and values of an object up to its end, at least one. -/
def entries : (fuel : Nat) → Purpose → List Lexeme →
    Except DataFault (List (String × Value) × List Lexeme)
  | 0, _, _ => .error .malformed
  | fuel + 1, purpose, units =>
    match units with
    | .str key :: .colon :: rest => do
      let key ← purpose.held (key.map .str)
      let (first, rest) ← value fuel purpose rest
      let entry := (key.str?.getD "", first)
      match rest with
      | .comma :: rest =>
        let (others, rest) ← entries fuel purpose rest
        return (entry :: others, rest)
      | .closeObject :: rest => return ([entry], rest)
      | _ => .error .malformed
    | _ => .error .malformed

end

def kept : Reader Value := fun room units =>
  value (units.length + 1) (.keep room) units

def skipped (units : List Lexeme) : Except DataFault (List Lexeme) :=
  (value (units.length + 1) .skip units).map (·.2)

/-- Levels of nesting that a document may have. -/
def depthLimit : Nat := 127

/-- What a text holds in whole, nothing being left behind it. -/
def document {α : Type} (read : Reader α) (room : Nat) (text : String) :
    Except DataFault α := do
  let (result, rest) ← read room (Lexeme.ofText text.toList)
  if rest.isEmpty then return result else .error .malformed

end Reader

def Value.ofJson (room : Nat) (text : String) : Except DataFault Value :=
  Reader.document Reader.kept room text

end Pressroom
