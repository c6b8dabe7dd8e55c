import Pressroom.Data.Value
import Pressroom.Number.Scaled
import Pressroom.Text.Hex

/-!
The lexical units of JSON text. A text is read to its first fault, which then stands for all that
follows, so that a reader of the units meets faults of the text and faults of its shape in the order
in which they occur. Numbers too large to be held, and strings with half of a surrogate pair, are
units of their own: a reader that wants their value refuses them, one that skips them does not.
-/

namespace Pressroom

inductive Lexeme where
  | openObject
  | closeObject
  | openArray
  | closeArray
  | comma
  | colon
  | null
  | bool (b : Bool)
  /-- A number, `none` if it is too large. -/
  | num (n : Option Numeral)
  /-- A string, `none` if an escape in it is half of a surrogate pair. -/
  | str (s : Option String)
  /-- The text is no JSON from here on. -/
  | fault

namespace Lexeme

def isGap (c : Char) : Bool :=
  c == ' ' || c == '\n' || c == '\t' || c == '\r'

/-- The character that an escape of one letter stands for. -/
def escape? (c : Char) : Option Char :=
  match c with
  | '"' => some '"'
  | '\\' => some '\\'
  | '/' => some '/'
  | 'b' => some '\x08'
  | 'f' => some '\x0C'
  | 'n' => some '\n'
  | 'r' => some '\r'
  | 't' => some '\t'
  | _ => none

/-- The codes of the characters up to the closing quote, and what follows it. Escaped codes may be
halves of surrogate pairs. -/
def stringCodes : List Char → Option (List Nat × List Char)
  | [] => none
  | '"' :: rest => some ([], rest)
  | '\\' :: 'u' :: a :: b :: c :: d :: rest => do
    let code ← Text.hexNumber? 0 [a, b, c, d]
    let (codes, rest) ← stringCodes rest
    return (code :: codes, rest)
  | '\\' :: c :: rest => do
    let c ← escape? c
    let (codes, rest) ← stringCodes rest
    return (c.toNat :: codes, rest)
  | c :: rest =>
    if c == '\\' || c.toNat < 0x20 then none
    else do
      let (codes, rest) ← stringCodes rest
      return (c.toNat :: codes, rest)

def isHighHalf (n : Nat) : Bool := 0xD800 ≤ n && n ≤ 0xDBFF

def isLowHalf (n : Nat) : Bool := 0xDC00 ≤ n && n ≤ 0xDFFF

/-- The characters with these codes, halves of surrogate pairs being put together. -/
def joinHalves : List Nat → Option (List Char)
  | [] => some []
  | n :: rest =>
    if isLowHalf n then none
    else if isHighHalf n then
      match rest with
      | low :: rest =>
        if isLowHalf low then
          (joinHalves rest).map (Char.ofNat (0x10000 + (n - 0xD800) * 0x400 + (low - 0xDC00)) :: ·)
        else none
      | [] => none
    else (joinHalves rest).map (Char.ofNat n :: ·)

/-- The string that starts behind a quote, and what follows its closing quote. -/
def string? (cs : List Char) : Option (Lexeme × List Char) :=
  (stringCodes cs).map fun (codes, rest) => (.str ((joinHalves codes).map String.ofList), rest)

/-- A whole number of 64 bits. Zero with a minus sign, and what is too small to be negated there,
are floating-point numbers. -/
def wholeNumeral (negative : Bool) (n : Nat) : Numeral :=
  if !negative then .int n
  else if 0 < n && n ≤ Number.signBit then .int (-(n : Int))
  else .float (-Number.ofInt n)

/-- The floating-point number `count · 10 ^ exponent`, unless it is too large. -/
def floatNumeral? (negative : Bool) (count : Nat) (exponent : Int) : Option Numeral :=
  (Number.scaled? count exponent).map fun x => .float (if negative then -x else x)

/-- The digits of a whole part: a lone zero, or digits that do not start with one. -/
def wholeDigits? (cs : List Char) : Option (List Char × List Char) :=
  let (ds, rest) := Number.spanDigits cs
  if ds.isEmpty || ds.head? == some '0' && 1 < ds.length then none else some (ds, rest)

/-- A fraction with its point, if there is one. -/
def fraction? (cs : List Char) : Option (List Char × List Char) :=
  match cs with
  | '.' :: rest =>
    let (ds, rest) := Number.spanDigits rest
    if ds.isEmpty then none else some (ds, rest)
  | rest => some ([], rest)

def exponent? (cs : List Char) : Option (Option Int × List Char) :=
  match cs with
  | [] => some (none, [])
  | c :: rest =>
    if c == 'e' || c == 'E' then
      let (negative, rest) := Number.sign rest
      let (ds, rest) := Number.spanDigits rest
      if ds.isEmpty then none
      else
        let n : Int := Number.ofDigits ds
        some (some (if negative then -n else n), rest)
    else some (none, c :: rest)

/-- The number with these digits and this exponent. It is whole if it has neither a fraction nor an
exponent and fits into 64 bits. Digits that do not fit count for their places at most. -/
def numeral? (negative : Bool) (whole fraction : List Char) (exponent : Option Int) :
    Option Numeral :=
  let (count, beyond) := Number.fillCount 0 whole
  if fraction.isEmpty && exponent.isNone && beyond == 0 then some (wholeNumeral negative count)
  else
    let (count, unread) := Number.fillCount count fraction
    floatNumeral? negative count
      (beyond + exponent.getD 0 - ((fraction.length : Int) - unread))

/-- The number at the start of a text without its sign, and what follows it. -/
def number? (negative : Bool) (cs : List Char) : Option (Lexeme × List Char) := do
  let (whole, rest) ← wholeDigits? cs
  let (fraction, rest) ← fraction? rest
  let (exponent, rest) ← exponent? rest
  return (.num (numeral? negative whole fraction exponent), rest)

/-- The unit at the start of a text that does not start with a blank, and what follows it. -/
def next : List Char → Lexeme × List Char
  | '{' :: rest => (.openObject, rest)
  | '}' :: rest => (.closeObject, rest)
  | '[' :: rest => (.openArray, rest)
  | ']' :: rest => (.closeArray, rest)
  | ',' :: rest => (.comma, rest)
  | ':' :: rest => (.colon, rest)
  | 'n' :: 'u' :: 'l' :: 'l' :: rest => (.null, rest)
  | 't' :: 'r' :: 'u' :: 'e' :: rest => (.bool true, rest)
  | 'f' :: 'a' :: 'l' :: 's' :: 'e' :: rest => (.bool false, rest)
  | '"' :: rest => (string? rest).getD (.fault, [])
  | '-' :: rest => (number? true rest).getD (.fault, [])
  | cs => (number? false cs).getD (.fault, [])

theorem length_stringCodes {cs : List Char} {codes : List Nat} {rest : List Char}
    (h : stringCodes cs = some (codes, rest)) : rest.length < cs.length := by
  fun_induction stringCodes cs generalizing codes <;>
    simp_all only [Option.bind_eq_bind, Option.bind_eq_some_iff, Option.pure_def,
      Option.some.injEq, Prod.mk.injEq, Prod.exists, reduceCtorEq, List.length_cons] <;>
    grind

theorem length_spanDigits (cs : List Char) :
    (Number.spanDigits cs).1.length + (Number.spanDigits cs).2.length = cs.length := by
  rw [← List.length_append, Number.spanDigits, List.takeWhile_append_dropWhile]

theorem length_sign_le (cs : List Char) : (Number.sign cs).2.length ≤ cs.length := by
  unfold Number.sign
  split <;> simp

theorem length_wholeDigits? {cs ds rest : List Char} (h : wholeDigits? cs = some (ds, rest)) :
    rest.length < cs.length := by
  have := length_spanDigits cs
  simp only [wholeDigits?, Option.ite_none_left_eq_some, Bool.or_eq_true, not_or,
    List.isEmpty_iff, Option.some.injEq, Prod.mk.injEq] at h
  obtain ⟨⟨hne, -⟩, -, rfl⟩ := h
  have := List.length_pos_iff.2 hne
  omega

theorem length_fraction?_le {cs ds rest : List Char} (h : fraction? cs = some (ds, rest)) :
    rest.length ≤ cs.length := by
  unfold fraction? at h
  split at h
  · next tail => have := length_spanDigits tail; grind
  · grind

theorem length_exponent?_le {cs rest : List Char} {e : Option Int}
    (h : exponent? cs = some (e, rest)) : rest.length ≤ cs.length := by
  unfold exponent? at h
  split at h
  · grind
  · next c tail =>
    have := length_sign_le tail
    have := length_spanDigits (Number.sign tail).2
    grind

theorem length_number? {negative : Bool} {cs rest : List Char} {lexeme : Lexeme}
    (h : number? negative cs = some (lexeme, rest)) : rest.length < cs.length := by
  simp only [number?, Option.bind_eq_bind, Option.bind_eq_some_iff, Option.pure_def,
    Option.some.injEq, Prod.mk.injEq, Prod.exists] at h
  obtain ⟨whole, r1, h1, fraction, r2, h2, e, r3, h3, -, rfl⟩ := h
  have := length_wholeDigits? h1
  have := length_fraction?_le h2
  have := length_exponent?_le h3
  omega

/-- Every unit takes at least one character. -/
theorem length_next_lt {cs : List Char} (h : cs ≠ []) : (next cs).2.length < cs.length := by
  unfold next
  split
  case h_10 rest =>
    cases e : string? rest with
    | none => simp
    | some pair =>
      simp only [string?, Option.map_eq_some_iff, Prod.exists] at e
      obtain ⟨codes, r, hr, rfl⟩ := e
      have := length_stringCodes hr
      simp; omega
  case h_11 rest =>
    cases e : number? true rest with
    | none => simp
    | some pair => obtain ⟨lexeme, r⟩ := pair; have := length_number? e; simp; omega
  case h_12 =>
    cases e : number? false cs with
    | none => simpa using List.length_pos_iff.2 h
    | some pair => obtain ⟨lexeme, r⟩ := pair; simpa using length_number? e
  all_goals simp; try omega

def ofText : List Char → List Lexeme
  | [] => []
  | c :: rest =>
    if isGap c then ofText rest
    else
      have := length_next_lt (List.cons_ne_nil c rest)
      (next (c :: rest)).1 :: ofText (next (c :: rest)).2
termination_by cs => cs.length
decreasing_by
  · exact Nat.lt_succ_self _
  · exact this

end Lexeme

end Pressroom
