import Pressroom.Log

/-!
Patterns that are looked for in a text. The matches are found from the left and do not overlap; what
is between them is kept.
-/

namespace Pressroom.Text

/-- Something to look for: it is recognised at the start of a text, together with what follows it,
and it can be spelled out again. -/
structure Pattern (α : Type) where
  match? : List Char → Option (α × List Char)
  spell : α → List Char
  spell_append_of_match? : ∀ {cs a rest}, match? cs = some (a, rest) → cs = spell a ++ rest
  spell_ne_nil_of_match? : ∀ {cs a rest}, match? cs = some (a, rest) → spell a ≠ []

/-- A part of a text: a match, or a character that no match starts with. -/
inductive Part (α : Type) where
  | char (c : Char)
  | found (a : α)
  deriving Repr

namespace Pattern

variable {α : Type}

theorem length_lt_of_match? (pattern : Pattern α) {cs rest : List Char} {a : α}
    (h : pattern.match? cs = some (a, rest)) : rest.length < cs.length := by
  have hs := congrArg List.length (pattern.spell_append_of_match? h)
  have hn := List.length_pos_iff.2 (pattern.spell_ne_nil_of_match? h)
  rw [List.length_append] at hs
  omega

def parts (pattern : Pattern α) : List Char → List (Part α)
  | [] => []
  | c :: cs =>
    match h : pattern.match? (c :: cs) with
    | some (a, rest) =>
      have := pattern.length_lt_of_match? h
      .found a :: parts pattern rest
    | none => .char c :: parts pattern cs
termination_by cs => cs.length
decreasing_by
  · exact this
  · exact Nat.lt_succ_self _

def occurrences (pattern : Pattern α) (cs : List Char) : List α :=
  (pattern.parts cs).filterMap fun
    | .char _ => none
    | .found a => some a

/-- The first match in a text, with what is before and what is after it. -/
def first? (pattern : Pattern α) : List Char → Option (List Char × α × List Char)
  | [] => none
  | c :: cs =>
    match pattern.match? (c :: cs) with
    | some (a, rest) => some ([], a, rest)
    | none => (first? pattern cs).map fun (before, a, rest) => (c :: before, a, rest)

/-- What comes of putting something in the place of every match, one after the other. -/
def replaceParts {m : Type → Type} [Monad m] (replacement : α → m (Logged (List Char))) :
    List (Part α) → m (Logged (List Char))
  | [] => return .quiet []
  | .char c :: parts => do
    let rest ← replaceParts replacement parts
    return ⟨c :: rest.value, rest.records⟩
  | .found a :: parts => do
    let here ← replacement a
    let rest ← replaceParts replacement parts
    return ⟨here.value ++ rest.value, here.records ++ rest.records⟩

def replace {m : Type → Type} [Monad m] (pattern : Pattern α)
    (replacement : α → m (Logged (List Char))) (cs : List Char) : m (Logged (List Char)) :=
  replaceParts replacement (pattern.parts cs)

end Pattern

end Pressroom.Text
