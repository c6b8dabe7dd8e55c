import Pressroom.Markup.Scan
import Pressroom.Proofs.Text.Bytes

/-!
Reading markup by offsets. The scanner looks at bytes, keeps places as numbers, and takes slices of
the markup between them; it looks for closing markers in all of the markup behind an opener. It
stops where a slice is out of bounds.

A step of the scanner at a place does what the step of reading does with the text from there on,
`Follows`; that the scanner as a whole does is shown step by step in the modules that come next.
-/

namespace Pressroom.Markup

open Text

/-- What the scanner finds, if anything. The scanner stops where a slice is out of bounds, or where
a loop does not go forward. -/
abbrev Scan (α : Type) := OptionT Option α

namespace Scan

variable {α : Type}

/-- A slice, or the scanner stops. -/
def checked (x : Option α) : Scan α := OptionT.mk (x.map some)

def found (x : Option α) : Scan α := OptionT.mk (some x)

def attempt (x : Scan α) : Scan (Option α) := OptionT.mk (x.run.map some)

end Scan

open Scan

/-! ### Markers -/

/-- Whether the byte at a place is that of a character. -/
def byteAt (text : List Char) (pos : Nat) (c : Char) : Bool :=
  (bytes text)[pos]? == some c.toNat.toUInt8

/-- The place behind the marker, if it matches at a place. -/
def matchAt (text : List Char) : Marker → Nat → Scan Nat
  | [], pos => found (some pos)
  | .text t :: marker, pos =>
    if startsAt text pos t then matchAt text marker (pos + size t) else found none
  | .blanks :: marker, pos => do
    let rest ← checked (from? text pos)
    matchAt text marker (pos + size (rest.takeWhile isBlank))
  | .slash :: marker, pos =>
    matchAt text marker (if byteAt text pos '/' then pos + 1 else pos)
  | .quote :: marker, pos =>
    if byteAt text pos '\'' || byteAt text pos '"' then matchAt text marker (pos + 1)
    else found none

/-- Whether a match of the marker can start with a byte. -/
def couldStart (marker : Marker) (b : UInt8) : Bool :=
  match marker with
  | .text t :: _ =>
    match bytes t with
    | first :: _ => first < 128 && foldByte b == foldByte first
    | [] => false
  | .quote :: _ => b == '\''.toNat.toUInt8 || b == '"'.toNat.toUInt8
  | _ => false

/-- The first of some places where the marker matches, and the place behind the match. -/
def findAmong (text : List Char) (marker : Marker) : List Nat → Scan (Nat × Nat)
  | [] => found none
  | pos :: more => do
    if (bytes text)[pos]?.any (couldStart marker) then
      match ← attempt (matchAt text marker pos) with
      | some stop => return (pos, stop)
      | none => findAmong text marker more
    else findAmong text marker more

/-- The first match of the marker from a place on: where it starts, and where it stops. -/
def find (text : List Char) (marker : Marker) (start : Nat) : Scan (Nat × Nat) :=
  findAmong text marker (List.range' start (size text - start))

/-! ### Directives -/

/-- The branches of a conditional from a place on. `start` is where the body of the branch starts,
`search` where looking for markers goes on, and `stop` where the conditional ends. -/
def scanBranches (text : List Char) (d : Dialect) (id : List Char) (stop : Nat)
    (condition : List Char) (start search : Nat) : Scan (List Branch × Option (List Char)) := do
  let elseIf := (← attempt (find text (d.elseIfOpen id) search)).filter (·.1 < stop)
  let otherwise := (← attempt (find text (d.elseMarker id) search)).filter (·.2 ≤ stop)
  match elseIf.filter fun x => otherwise.all (x.1 < ·.1), otherwise with
  | some (pos, opened), _ =>
    match (← attempt (find text d.elseIfClose opened)).filter (·.2 ≤ stop) with
    | some (close, closed) =>
      let body ← checked (slice? text start pos)
      let next ← checked (slice? text opened close)
      if _ : search < closed ∧ closed ≤ size text then
        let (others, otherwise) ← scanBranches text d id stop next closed closed
        return (⟨condition, body⟩ :: others, otherwise)
      else checked none
    | none =>
      if _ : search < pos + 1 ∧ pos + 1 ≤ size text then
        scanBranches text d id stop condition start (pos + 1)
      else checked none
  | none, some (pos, close) =>
    let body ← checked (slice? text start pos)
    return ([⟨condition, body⟩], some (← checked (slice? text close stop)))
  | none, none => return ([⟨condition, ← checked (slice? text start stop)⟩], none)
termination_by size text - search
decreasing_by all_goals omega

/-- A conditional at a place, and the place behind it. -/
def scanConditional (text : List Char) (d : Dialect) (pos : Nat) : Scan (Directive × Nat) := do
  let rest ← checked (from? text pos)
  let (id, behind) ← found (d.ifHead? rest)
  let head := pos + (size rest - size behind)
  let (close, start) ← find text d.expressionClose head
  let (stop, after) ← find text (d.ifEnd id) start
  let condition ← checked (slice? text head close)
  let (branches, otherwise) ← scanBranches text d id stop condition start start
  return (.conditional branches otherwise, after)

def scanLoop (text : List Char) (d : Dialect) (pos : Nat) : Scan (Directive × Nat) := do
  let rest ← checked (from? text pos)
  let (id, element, index, behind) ← found (d.loopHead? rest)
  let head := pos + (size rest - size behind)
  let (close, start) ← find text d.expressionClose head
  let (stop, after) ← find text (d.loopEnd id) start
  let array ← checked (slice? text head close)
  let body ← checked (slice? text start stop)
  return (.loop (String.ofList element) (index.map String.ofList) array body, after)

def scanInclusion (text : List Char) (d : Dialect) (pos : Nat) : Scan (Directive × Nat) := do
  let rest ← checked (from? text pos)
  let behind ← found (d.inclusionHead? rest)
  let head := pos + (size rest - size behind)
  let (close, after) ← find text d.inclusionClose head
  let source ← checked (slice? text head close)
  if source.any fun c => c == '\n' || c == '\r' then found none
  else return (.inclusion source, after)

def scanStyle (text : List Char) (d : Dialect) (pos : Nat) : Scan (Directive × Nat) := do
  let rest ← checked (from? text pos)
  let behind ← found (d.styleHead? rest)
  let head := pos + (size rest - size behind)
  match ← attempt (matchAt text d.styleClose head) with
  | some after => return (.style none false, after)
  | none =>
    if byteAt text head '[' then
      let (close, after) ← find text d.styleParamsClose (head + 1)
      let params ← checked (slice? text (head + 1) close)
      let (selector, spread) := styleParams params
      return (.style (selector? selector) spread, after)
    else found none

def scanDialect (text : List Char) (d : Dialect) (pos : Nat) : Scan (Directive × Nat) :=
  scanConditional text d pos <|> scanLoop text d pos <|> scanInclusion text d pos <|>
    scanStyle text d pos

def scanExpression (text : List Char) (pos : Nat) : Scan (Directive × Nat) := do
  let (close, after) ← find text [.text ['}', '}']] (pos + 2)
  return (.expression (← checked (slice? text (pos + 2) close)), after)

/-- The directive at a place, and the place behind it. -/
def scanDirective (text : List Char) (pos : Nat) : Scan (Directive × Nat) :=
  if byteAt text pos '%' && byteAt text (pos + 1) '%' then scanDialect text .bracket pos
  else if byteAt text pos '<' && (byteAt text (pos + 1) 'a' || byteAt text (pos + 1) 'A') then
    scanDialect text .tag pos
  else if byteAt text pos '{' && byteAt text (pos + 1) '{' then scanExpression text pos
  else found none

/-- The directives from a place on. `start` is where the text in front of the place starts. -/
def scanFrom (text : List Char) (start pos : Nat) : Scan (List Directive) := do
  if _ : pos < size text then
    match ← attempt (scanDirective text pos) with
    | some (directive, stop) =>
      let before ←
        if start < pos then checked ((slice? text start pos).map ([.text ·])) else pure []
      if _ : pos < stop then
        return before ++ directive :: (← scanFrom text stop stop)
      else checked none
    | none => scanFrom text start (pos + 1)
  else if start < size text then
    return [.text (← checked (slice? text start (size text)))]
  else return []
termination_by size text - pos
decreasing_by all_goals omega

/-- The directives of a markup, by offsets. -/
def scan (text : List Char) : Scan (List Directive) :=
  scanFrom text 0 0

/-! ### The scanner follows the reader -/

namespace Scan

variable {α β : Type}

@[simp] lemma found_bind (a : α) (f : α → Scan β) : found (some a) >>= f = f a := rfl

@[simp] lemma checked_bind (a : α) (f : α → Scan β) : checked (some a) >>= f = f a := rfl

@[simp] lemma attempt_found (x : Option α) : attempt (found x) = found (some x) := rfl

lemma pure_eq (a : α) : (pure a : Scan α) = found (some a) := rfl

end Scan

/-- The scanner finds nothing where there is nothing, and otherwise the place behind what there is.
-/
def Follows (text : List Char) {α : Type} (x : Scan (α × Nat)) : Option (α × List Char) → Prop
  | none => x = found none
  | some (a, rest) => ∃ stop, x = found (some (a, stop)) ∧ At text stop rest

lemma Follows.orElse {text : List Char} {α : Type} {x x' : Scan (α × Nat)}
    {y y' : Option (α × List Char)} (h : Follows text x y) (h' : Follows text x' y') :
    Follows text (x <|> x') (y <|> y') := by
  cases y with
  | none =>
    rw [show x = found none from h]
    exact h'
  | some a =>
    obtain ⟨stop, hx, hat⟩ := h
    exact ⟨stop, by rw [hx]; rfl, hat⟩

end Pressroom.Markup
