import Pressroom.Markup.Directive
import Pressroom.Text.Letter

/-!
Heads: how directives start. A head is a keyword in any case, followed where the directive has one
by an id of one or two digits, and by what the directive needs to name before its first expression.
-/

namespace Pressroom.Markup

def isIdDigit (c : Char) : Bool :=
  '1' ≤ c && c ≤ '9'

/-- The id at the start of a text, which may be empty, and what follows it. -/
def takeId (cs : List Char) : List Char × List Char :=
  match cs with
  | a :: b :: rest =>
    if isIdDigit a then
      if isIdDigit b then ([a, b], rest) else ([a], b :: rest)
    else ([], cs)
  | [a] => if isIdDigit a then ([a], []) else ([], cs)
  | [] => ([], [])

/-- What follows a character, blanks before it being skipped. -/
def afterChar? (c : Char) (cs : List Char) : Option (List Char) :=
  match Text.skipBlanks cs with
  | d :: rest => if d = c then some rest else none
  | [] => none

def isVariableStart (c : Char) : Bool :=
  let letter := Text.foldSimple c
  'a' ≤ letter && letter ≤ 'z' || c == '_' || c == '$'

def isVariablePart (c : Char) : Bool :=
  Text.isWordChar c || c == '$'

/-- The name of a loop variable, blanks before it being skipped, and what follows it. -/
def loopVariable? (cs : List Char) : Option (List Char × List Char) :=
  match Text.skipBlanks cs with
  | c :: rest =>
    if isVariableStart c then
      some (c :: rest.takeWhile isVariablePart, rest.dropWhile isVariablePart)
    else none
  | [] => none

/-- The variables of a loop between brackets: one for the elements and perhaps one for their
positions. -/
def variables? (cs : List Char) :
    Option (List Char × Option (List Char) × List Char) := do
  let (element, rest) ← loopVariable? (← afterChar? '[' cs)
  match afterChar? ',' rest with
  | some rest =>
    let (index, rest) ← loopVariable? rest
    return (element, some index, ← afterChar? ']' rest)
  | none => return (element, none, ← afterChar? ']' rest)

/-- What follows a keyword, an equals sign and a quote. -/
def afterAttribute? (keyword : String) (cs : List Char) : Option (List Char) := do
  let rest ← Text.afterWord? keyword (Text.skipBlanks cs)
  let rest ← afterChar? '=' rest
  afterQuote? (Text.skipBlanks rest)

namespace Dialect

/-- The head of an `if`: its id, and what follows it. -/
def ifHead? (cs : List Char) : Dialect → Option (List Char × List Char)
  | bracket => do
    let (id, rest) := takeId (← Text.afterWord? "%%if" cs)
    return (id, ← afterChar? '{' rest)
  | tag => do
    let (id, rest) := takeId (← Text.afterWord? "<a-if" cs)
    return (id, ← afterAttribute? "condition" rest)

/-- The head of a loop: its id and its variables, and what follows it. -/
def loopHead? (cs : List Char) :
    Dialect → Option (List Char × List Char × Option (List Char) × List Char)
  | bracket => do
    let (id, rest) := takeId (← Text.afterWord? "%%for" cs)
    let (element, index, rest) ← variables? rest
    return (id, element, index, ← afterChar? '{' rest)
  | tag => do
    let (id, rest) := takeId (← Text.afterWord? "<a-for" cs)
    let (element, index, rest) ← variables? rest
    return (id, element, index, ← afterAttribute? "array" rest)

/-- What follows the head of an inclusion. Its id means nothing. -/
def inclusionHead? (cs : List Char) : Dialect → Option (List Char)
  | bracket => do afterChar? '[' (takeId (← Text.afterWord? "%%section" cs)).2
  | tag => do afterChar? '[' (takeId (← Text.afterWord? "<a-section" cs)).2

def styleHead? (cs : List Char) : Dialect → Option (List Char)
  | bracket => do return Text.skipBlanks (← Text.afterWord? "%%style" cs)
  | tag => do return Text.skipBlanks (← Text.afterWord? "<a-style" cs)

end Dialect

theorem length_takeId_le (cs : List Char) : (takeId cs).2.length ≤ cs.length := by
  unfold takeId
  split <;> grind

theorem length_afterChar?_lt {c : Char} {cs rest : List Char} (h : afterChar? c cs = some rest) :
    rest.length < cs.length := by
  have := Text.length_skipBlanks_le cs
  unfold afterChar? at h
  split at h <;> grind

theorem length_loopVariable?_lt {cs name rest : List Char} (h : loopVariable? cs = some (name, rest)) :
    rest.length < cs.length := by
  have := Text.length_skipBlanks_le cs
  unfold loopVariable? at h
  split at h
  · next c tail _ =>
    have : (tail.dropWhile isVariablePart).length ≤ tail.length :=
      (List.dropWhile_sublist _).length_le
    grind
  · simp at h

theorem length_variables?_lt {cs element rest : List Char} {index : Option (List Char)}
    (h : variables? cs = some (element, index, rest)) : rest.length < cs.length := by
  simp only [variables?, Option.bind_eq_bind, Option.bind_eq_some_iff, Prod.exists,
    Option.pure_def] at h
  obtain ⟨r1, h1, e, r2, h2, h⟩ := h
  have := length_afterChar?_lt h1
  have := length_loopVariable?_lt h2
  split at h
  · next r3 h3 =>
    simp only [Option.bind_eq_some_iff, Prod.exists, Option.some.injEq, Prod.mk.injEq] at h
    obtain ⟨i, r4, h4, r5, h5, -, -, rfl⟩ := h
    have := length_afterChar?_lt h3
    have := length_loopVariable?_lt h4
    have := length_afterChar?_lt h5
    omega
  · simp only [Option.bind_eq_some_iff, Option.some.injEq, Prod.mk.injEq] at h
    obtain ⟨r5, h5, -, -, rfl⟩ := h
    have := length_afterChar?_lt h5
    omega

theorem length_afterWord? {word : String} {cs rest : List Char}
    (h : Text.afterWord? word cs = some rest) :
    cs.length = word.toList.length + rest.length :=
  Text.length_of_stripFolded? h

theorem length_afterAttribute?_lt {keyword : String} {cs rest : List Char}
    (h : afterAttribute? keyword cs = some rest) : rest.length < cs.length := by
  simp only [afterAttribute?, Option.bind_eq_bind, Option.bind_eq_some_iff] at h
  obtain ⟨r1, h1, r2, h2, h3⟩ := h
  have := Text.length_skipBlanks_le cs
  have := length_afterWord? h1
  have := length_afterChar?_lt h2
  have := Text.length_skipBlanks_le r2
  have := Marker.length_afterQuote? h3
  omega

namespace Dialect

theorem length_ifHead?_lt {d : Dialect} {cs id rest : List Char}
    (h : d.ifHead? cs = some (id, rest)) : rest.length < cs.length := by
  cases d <;>
    simp only [ifHead?, Option.bind_eq_bind, Option.bind_eq_some_iff, Option.pure_def,
      Option.some.injEq, Prod.mk.injEq] at h <;>
    obtain ⟨r1, h1, r2, h2, -, rfl⟩ := h
  · have := length_afterWord? h1
    have := length_takeId_le r1
    have := length_afterChar?_lt h2
    omega
  · have := length_afterWord? h1
    have := length_takeId_le r1
    have := length_afterAttribute?_lt h2
    omega

theorem length_loopHead?_lt {d : Dialect} {cs id element rest : List Char}
    {index : Option (List Char)} (h : d.loopHead? cs = some (id, element, index, rest)) :
    rest.length < cs.length := by
  cases d <;>
    simp only [loopHead?, Option.bind_eq_bind, Option.bind_eq_some_iff, Option.pure_def,
      Option.some.injEq, Prod.mk.injEq, Prod.exists] at h <;>
    obtain ⟨r1, h1, e, i, r2, h2, r3, h3, -, -, -, rfl⟩ := h
  · have := length_afterWord? h1
    have := length_takeId_le r1
    have := length_variables?_lt h2
    have := length_afterChar?_lt h3
    omega
  · have := length_afterWord? h1
    have := length_takeId_le r1
    have := length_variables?_lt h2
    have := length_afterAttribute?_lt h3
    omega

theorem length_inclusionHead?_lt {d : Dialect} {cs rest : List Char}
    (h : d.inclusionHead? cs = some rest) : rest.length < cs.length := by
  cases d <;>
    simp only [inclusionHead?, Option.bind_eq_bind, Option.bind_eq_some_iff] at h <;>
    obtain ⟨r1, h1, h2⟩ := h <;>
    · have := length_afterWord? h1
      have := length_takeId_le r1
      have := length_afterChar?_lt h2
      omega

theorem length_styleHead?_lt {d : Dialect} {cs rest : List Char}
    (h : d.styleHead? cs = some rest) : rest.length < cs.length := by
  cases d <;>
    simp only [styleHead?, Option.bind_eq_bind, Option.bind_eq_some_iff, Option.pure_def,
      Option.some.injEq] at h <;>
    obtain ⟨r1, h1, rfl⟩ := h
  · have := length_afterWord? h1
    have : 0 < "%%style".toList.length := by decide
    have := Text.length_skipBlanks_le r1
    omega
  · have := length_afterWord? h1
    have : 0 < "<a-style".toList.length := by decide
    have := Text.length_skipBlanks_le r1
    omega

end Dialect

end Pressroom.Markup
