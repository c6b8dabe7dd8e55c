import Pressroom.Expr.Error
import Pressroom.Number.Literal
import Pressroom.Text.Blank
import Pressroom.Text.Hex
import Pressroom.Text.Letter
import Pressroom.Text.Search

/-!
The tokens of an expression text. At every place the longest token that starts there is taken;
blanks between tokens are skipped. The one exception to the longest match is `?.` in front of a
digit, which is the `?` of a conditional and the point of a number.
-/

namespace Pressroom.Expr

def isNameStart (c : Char) : Bool :=
  Text.isAlphabetic c || c == '_' || c == '$'

def isNamePart (c : Char) : Bool :=
  Text.isAlphanumeric c || c == '_' || c == '$'

namespace Lexer

def startsWithDigit (cs : List Char) : Bool :=
  match cs with
  | c :: _ => c.isDigit
  | [] => false

/-- The exponent at the start of a text, if one with digits is there, and what follows it. -/
def exponent (cs : List Char) : List Char × List Char :=
  match cs with
  | mark :: c :: rest =>
    if mark == 'e' || mark == 'E' then
      if c.isDigit then
        (mark :: (c :: rest).takeWhile Char.isDigit, (c :: rest).dropWhile Char.isDigit)
      else if (c == '+' || c == '-') && startsWithDigit rest then
        (mark :: c :: rest.takeWhile Char.isDigit, rest.dropWhile Char.isDigit)
      else ([], cs)
    else ([], cs)
  | cs => ([], cs)

/-- The characters that a number is made of before its exponent. -/
def isNumberPart (c : Char) : Bool :=
  c.isDigit || c == '.'

/-- The number at the start of a text: all digits and points there, and an exponent. -/
def number (cs : List Char) : Except SyntaxFault (Token × List Char) :=
  let (mark, rest) := exponent (cs.dropWhile isNumberPart)
  let text := cs.takeWhile isNumberPart ++ mark
  match Number.read? text with
  | some x => .ok (.num x, rest)
  | none => .error (.invalidNumber text)

/-- The character named by the four characters after `\u`: hexadecimal digits, the first of which
may be a plus sign instead. -/
def unicodeEscape? (a b c d : Char) : Option Char := do
  let code ← Text.hexNumber? 0 (if a == '+' then [b, c, d] else [a, b, c, d])
  if code < 0xD800 || 0xDFFF < code then some (Char.ofNat code) else none

def escaped (c : Char) : Char :=
  match c with
  | 'n' => '\n'
  | 't' => '\t'
  | 'r' => '\r'
  | '0' => '\x00'
  | c => c

/-- The text up to the closing quote, its escapes replaced, and what follows the quote. -/
def string? (quote : Char) : List Char → Option (List Char × List Char)
  | [] => none
  | '\\' :: 'u' :: a :: b :: c :: d :: rest =>
    match unicodeEscape? a b c d with
    | some ch => (string? quote rest).map fun (text, rest) => (ch :: text, rest)
    | none => (string? quote (a :: b :: c :: d :: rest)).map fun (text, rest) => ('u' :: text, rest)
  | ['\\'] => none
  | '\\' :: c :: rest => (string? quote rest).map fun (text, rest) => (escaped c :: text, rest)
  | c :: rest =>
    if c = quote then some ([], rest)
    else (string? quote rest).map fun (text, rest) => (c :: text, rest)

/-- The symbol at the start of a text, and what follows it. -/
def symbol? (cs : List Char) : Option (Symbol × List Char) :=
  match Symbol.all.findSome? fun s => (Text.strip? s.spelling cs).map (s, ·) with
  | some (.optionalDot, rest) =>
    if startsWithDigit rest then some (.question, '.' :: rest) else some (.optionalDot, rest)
  | found => found

/-- The token that starts with `c`, which is not a blank, and what follows it. -/
def token (c : Char) (rest : List Char) : Except SyntaxFault (Token × List Char) :=
  if c.isDigit || c == '.' && startsWithDigit rest then number (c :: rest)
  else if c == '"' || c == '\'' then
    match string? c rest with
    | some (text, rest) => .ok (.str (String.ofList text), rest)
    | none => .error .unterminatedString
  else if isNameStart c then
    .ok (.name (String.ofList (c :: rest.takeWhile isNamePart)), rest.dropWhile isNamePart)
  else match symbol? (c :: rest) with
    | some (s, rest) => .ok (.symbol s, rest)
    | none => .error (.unexpectedCharacter c)

theorem length_exponent_le (cs : List Char) : (exponent cs).2.length ≤ cs.length := by
  unfold exponent
  have dropped (cs : List Char) : (cs.dropWhile Char.isDigit).length ≤ cs.length :=
    (List.dropWhile_sublist _).length_le
  split
  · next mark c rest =>
    have := dropped (c :: rest)
    have := dropped rest
    grind
  · simp

theorem length_string?_lt {quote : Char} {cs text rest : List Char}
    (h : string? quote cs = some (text, rest)) : rest.length < cs.length := by
  fun_induction string? quote cs generalizing text <;>
    simp_all only [Option.map_eq_some_iff, Option.some.injEq, Prod.mk.injEq, Prod.exists,
      reduceCtorEq, List.length_cons] <;>
    grind

theorem length_symbol?_lt {cs rest : List Char} {s : Symbol} (h : symbol? cs = some (s, rest)) :
    rest.length < cs.length := by
  have key : ∀ s r, (Symbol.all.findSome? fun s => (Text.strip? s.spelling cs).map (s, ·))
      = some (s, r) → cs = Symbol.spelling s ++ r := by
    intro s r hf
    obtain ⟨s', -, hs⟩ := List.exists_of_findSome?_eq_some hf
    simp only [Option.map_eq_some_iff, Prod.mk.injEq] at hs
    obtain ⟨r', hr, rfl, rfl⟩ := hs
    exact Text.strip?_eq_some_iff.1 hr
  unfold symbol? at h
  split at h
  · next r hf =>
    have := key _ _ hf
    subst this
    split at h
    · simp only [Option.some.injEq, Prod.mk.injEq] at h
      obtain ⟨rfl, rfl⟩ := h
      simp [Symbol.spelling]
    · simp only [Option.some.injEq, Prod.mk.injEq] at h
      obtain ⟨rfl, rfl⟩ := h
      have : Symbol.optionalDot.spelling.length = 2 := rfl
      rw [List.length_append]
      omega
  · have := key _ _ h
    subst this
    have := List.length_pos_iff.2 (Symbol.spelling_ne_nil s)
    rw [List.length_append]
    omega

/-- Every token takes at least one character. -/
theorem length_token_le {c : Char} {rest left : List Char} {t : Token}
    (h : token c rest = .ok (t, left)) : left.length ≤ rest.length := by
  have dropped (p : Char → Bool) (cs : List Char) : (cs.dropWhile p).length ≤ cs.length :=
    (List.dropWhile_sublist _).length_le
  unfold token at h
  split at h
  · next hc =>
    have hpart : isNumberPart c = true := by
      simp only [Bool.or_eq_true, Bool.and_eq_true] at hc
      rcases hc with hc | hc
      · simp [isNumberPart, hc]
      · simp [isNumberPart, hc.1]
    have h1 := dropped isNumberPart rest
    have h2 := length_exponent_le (rest.dropWhile isNumberPart)
    simp only [number, List.dropWhile_cons_of_pos hpart] at h
    split at h
    · simp only [Except.ok.injEq, Prod.mk.injEq] at h
      obtain ⟨-, rfl⟩ := h
      omega
    · simp at h
  · split at h
    · split at h
      · next hs =>
        simp only [Except.ok.injEq, Prod.mk.injEq] at h
        obtain ⟨-, rfl⟩ := h
        exact Nat.le_of_lt (length_string?_lt hs)
      · simp at h
    · split at h
      · simp only [Except.ok.injEq, Prod.mk.injEq] at h
        obtain ⟨-, rfl⟩ := h
        exact dropped ..
      · split at h
        · next hs =>
          simp only [Except.ok.injEq, Prod.mk.injEq] at h
          obtain ⟨-, rfl⟩ := h
          exact Nat.le_of_lt_succ (length_symbol?_lt hs)
        · simp at h

/-- The tokens of a text, or its first fault. -/
def tokens : List Char → Except SyntaxFault (List Token)
  | [] => .ok []
  | c :: rest =>
    if Text.isBlank c then tokens rest
    else match h : token c rest with
      | .error fault => .error fault
      | .ok (t, left) =>
        have := length_token_le h
        match tokens left with
        | .error fault => .error fault
        | .ok ts => .ok (t :: ts)
termination_by cs => cs.length

end Lexer

end Pressroom.Expr
