import Pressroom.Markup.Head

/-!
Markup as a sequence of directives. At each place from the left the directives are tried in turn;
what completes none of them is text. Closing markers are the first ones that match behind the
opener, so directives of one kind that stand inside each other need ids to tell their markers apart.
-/

namespace Pressroom.Markup

/-! ### Conditionals -/

def elseIf? (d : Dialect) (id cs : List Char) : Option (List Char × List Char) := do
  d.elseIfClose.cut? (← (d.elseIfOpen id).strip? cs)

theorem length_elseIf?_lt {d : Dialect} {id cs condition rest : List Char}
    (h : elseIf? d id cs = some (condition, rest)) : rest.length < cs.length := by
  obtain ⟨r, hr, h⟩ := Option.bind_eq_some_iff.1 h
  have h2 := Marker.length_cut?_le h
  cases d <;>
    · obtain ⟨r', hr', hr⟩ := Option.bind_eq_some_iff.1 hr
      have := Text.length_of_stripFolded? hr'
      have := Marker.length_strip?_le hr
      simp at *
      omega

/-- The branches of a conditional between the close of its first condition and its end. `condition`
guards the branch being read, and `body` is what there is of it so far, last character first. The
first `else` ends the branches; what only begins like an `else-if` is part of the body. -/
def branches (d : Dialect) (id condition body : List Char) :
    List Char → List Branch × Option (List Char)
  | [] => ([⟨condition, body.reverse⟩], none)
  | c :: cs =>
    match h : elseIf? d id (c :: cs) with
    | some (next, rest) =>
      have := length_elseIf?_lt h
      let (others, otherwise) := branches d id next [] rest
      (⟨condition, body.reverse⟩ :: others, otherwise)
    | none =>
      match (d.elseMarker id).strip? (c :: cs) with
      | some rest => ([⟨condition, body.reverse⟩], some rest)
      | none => branches d id condition (c :: body) cs
termination_by cs => cs.length
decreasing_by
  · exact this
  · exact Nat.lt_succ_self _

/-- A conditional at the start of a text, and what follows it. -/
def conditional? (d : Dialect) (cs : List Char) : Option (Directive × List Char) := do
  let (id, rest) ← d.ifHead? cs
  let (condition, rest) ← d.expressionClose.cut? rest
  let (chain, rest) ← (d.ifEnd id).cut? rest
  let (branches, otherwise) := branches d id condition [] chain
  return (.conditional branches otherwise, rest)

/-! ### Other directives -/

def loop? (d : Dialect) (cs : List Char) : Option (Directive × List Char) := do
  let (id, element, index, rest) ← d.loopHead? cs
  let (array, rest) ← d.expressionClose.cut? rest
  let (body, rest) ← (d.loopEnd id).cut? rest
  return (.loop (String.ofList element) (index.map String.ofList) array body, rest)

/-- An inclusion at the start of a text, and what follows it. Its expression is on one line. -/
def inclusion? (d : Dialect) (cs : List Char) : Option (Directive × List Char) := do
  let (source, rest) ← d.inclusionClose.cut? (← d.inclusionHead? cs)
  if source.any fun c => c == '\n' || c == '\r' then none
  else return (.inclusion source, rest)

def splitLastComma? (cs : List Char) : Option (List Char × List Char) :=
  let after := cs.reverse.takeWhile (· != ',')
  match cs.reverse.dropWhile (· != ',') with
  | _ :: before => some (before.reverse, after.reverse)
  | [] => none

/-- The flag that a text between blanks spells. -/
def flag? (cs : List Char) : Option Bool :=
  let word := (Text.trim cs).map Text.foldSimple
  if word = "true".toList then some true
  else if word = "false".toList then some false
  else none

/-- The parameters of a style directive: a selector, and perhaps a flag behind the last comma. -/
def styleParams (cs : List Char) : List Char × Bool :=
  match splitLastComma? cs with
  | some (selector, flag) =>
    match flag? flag with
    | some spread => (selector, spread)
    | none => (cs, false)
  | none => (cs, false)

/-- A selector without blanks around it, if there is anything to it. -/
def selector? (cs : List Char) : Option (List Char) :=
  match Text.trim cs with
  | [] => none
  | c :: rest => some (c :: rest)

def style? (d : Dialect) (cs : List Char) : Option (Directive × List Char) := do
  let rest ← d.styleHead? cs
  match d.styleClose.strip? rest, rest with
  | some rest, _ => return (.style none false, rest)
  | none, '[' :: rest =>
    let (params, rest) ← d.styleParamsClose.cut? rest
    let (selector, spread) := styleParams params
    return (.style (selector? selector) spread, rest)
  | none, _ => none

/-- A directive of one dialect at the start of a text, and what follows it. -/
def dialect? (d : Dialect) (cs : List Char) : Option (Directive × List Char) :=
  conditional? d cs <|> loop? d cs <|> inclusion? d cs <|> style? d cs

def directive? (cs : List Char) : Option (Directive × List Char) :=
  match cs with
  | '%' :: '%' :: _ => dialect? .bracket cs
  | '<' :: c :: _ => if c = 'a' || c = 'A' then dialect? .tag cs else none
  | '{' :: '{' :: rest =>
    (Text.cut? ['}', '}'] rest).map fun (source, rest) => (.expression source, rest)
  | _ => none

/-! ### Directives take text, and their bodies are shorter than they are -/

theorem length_branches_lt {d : Dialect} {id condition body cs b : List Char}
    (h : b ∈ (Directive.conditional (branches d id condition body cs).1
      (branches d id condition body cs).2).bodies) : b.length ≤ body.length + cs.length := by
  induction hn : cs.length using Nat.strongRecOn generalizing condition body cs with
  | ind n ih =>
    cases cs with
    | nil =>
      simp [branches, Directive.bodies] at h
      subst h; simp
    | cons c cs =>
      rw [branches] at h
      split at h
      · next next rest he =>
        have hlt := length_elseIf?_lt he
        simp only [Directive.bodies, List.map_cons, List.cons_append, List.mem_cons] at h
        rcases h with rfl | h
        · simp
        · have := @ih rest.length (by omega) next [] rest h rfl
          simp at this hlt hn ⊢
          omega
      · split at h
        · next rest hs =>
          have := Marker.length_strip?_le hs
          simp [Directive.bodies] at h
          rcases h with rfl | rfl
          · simp
          · simp at this hn; omega
        · have := @ih cs.length (by simp at hn; omega) condition (c :: body) cs h rfl
          simp at this hn
          omega

theorem conditional?_shrinks {d : Dialect} {cs rest : List Char} {directive : Directive}
    (h : conditional? d cs = some (directive, rest)) :
    rest.length < cs.length ∧ ∀ b ∈ directive.bodies, b.length < cs.length := by
  simp only [conditional?, Option.bind_eq_bind, Option.bind_eq_some_iff, Prod.exists,
    Option.pure_def, Option.some.injEq, Prod.mk.injEq] at h
  obtain ⟨id, r1, h1, condition, r2, h2, chain, r3, h3, rfl, rfl⟩ := h
  have := Dialect.length_ifHead?_lt h1
  have := Marker.length_cut?_le h2
  have := Marker.length_cut?_le h3
  refine ⟨by omega, fun b hb => ?_⟩
  have := length_branches_lt hb
  simp at this
  omega

theorem loop?_shrinks {d : Dialect} {cs rest : List Char} {directive : Directive}
    (h : loop? d cs = some (directive, rest)) :
    rest.length < cs.length ∧ ∀ b ∈ directive.bodies, b.length < cs.length := by
  simp only [loop?, Option.bind_eq_bind, Option.bind_eq_some_iff, Prod.exists,
    Option.pure_def, Option.some.injEq, Prod.mk.injEq] at h
  obtain ⟨id, element, index, r1, h1, array, r2, h2, body, r3, h3, rfl, rfl⟩ := h
  have := Dialect.length_loopHead?_lt h1
  have := Marker.length_cut?_le h2
  have := Marker.length_cut?_le h3
  refine ⟨by omega, fun b hb => ?_⟩
  simp [Directive.bodies] at hb
  subst hb
  omega

theorem inclusion?_shrinks {d : Dialect} {cs rest : List Char} {directive : Directive}
    (h : inclusion? d cs = some (directive, rest)) :
    rest.length < cs.length ∧ ∀ b ∈ directive.bodies, b.length < cs.length := by
  simp only [inclusion?, Option.bind_eq_bind, Option.bind_eq_some_iff, Prod.exists,
    Option.pure_def] at h
  obtain ⟨r1, h1, source, r2, h2, h⟩ := h
  have := Dialect.length_inclusionHead?_lt h1
  have := Marker.length_cut?_le h2
  split at h
  · simp at h
  · simp only [Option.some.injEq, Prod.mk.injEq] at h
    obtain ⟨rfl, rfl⟩ := h
    exact ⟨by omega, by simp [Directive.bodies]⟩

theorem style?_shrinks {d : Dialect} {cs rest : List Char} {directive : Directive}
    (h : style? d cs = some (directive, rest)) :
    rest.length < cs.length ∧ ∀ b ∈ directive.bodies, b.length < cs.length := by
  simp only [style?, Option.bind_eq_bind, Option.bind_eq_some_iff] at h
  obtain ⟨r1, h1, h⟩ := h
  have := Dialect.length_styleHead?_lt h1
  split at h
  · next r2 h2 =>
    have := Marker.length_strip?_le h2
    simp only [Option.pure_def, Option.some.injEq, Prod.mk.injEq] at h
    obtain ⟨rfl, rfl⟩ := h
    exact ⟨by omega, by simp [Directive.bodies]⟩
  · next r2 _ =>
    simp only [Option.bind_eq_some_iff, Prod.exists, Option.pure_def, Option.some.injEq,
      Prod.mk.injEq] at h
    obtain ⟨params, r3, h3, rfl, rfl⟩ := h
    have := Marker.length_cut?_le h3
    exact ⟨by simp at *; omega, by simp [Directive.bodies]⟩
  · simp at h

theorem directive?_shrinks {cs rest : List Char} {directive : Directive}
    (h : directive? cs = some (directive, rest)) :
    rest.length < cs.length ∧ ∀ b ∈ directive.bodies, b.length < cs.length := by
  have key (d : Dialect) (cs) (h : dialect? d cs = some (directive, rest)) :
      rest.length < cs.length ∧ ∀ b ∈ directive.bodies, b.length < cs.length := by
    simp only [dialect?, Option.orElse_eq_orElse, Option.orElse_eq_or, Option.or_eq_some_iff] at h
    rcases h with h | ⟨-, h | ⟨-, h | ⟨-, h⟩⟩⟩
    · exact conditional?_shrinks h
    · exact loop?_shrinks h
    · exact inclusion?_shrinks h
    · exact style?_shrinks h
  unfold directive? at h
  split at h
  · exact key _ _ h
  · split at h
    · exact key _ _ h
    · simp at h
  · next tail =>
    simp only [Option.map_eq_some_iff, Prod.mk.injEq, Prod.exists] at h
    obtain ⟨source, r, hr, rfl, rfl⟩ := h
    have := congrArg List.length (Text.append_of_cut? hr)
    simp at this
    exact ⟨by simp; omega, by simp [Directive.bodies]⟩
  · simp at h

/-! ### Whole markup -/

/-- A character of text in front of directives. -/
def prepend (c : Char) : List Directive → List Directive
  | .text t :: rest => .text (c :: t) :: rest
  | rest => .text [c] :: rest

/-- The directives of a markup and the text between them. -/
def directives : List Char → List Directive
  | [] => []
  | c :: cs =>
    match h : directive? (c :: cs) with
    | some (directive, rest) =>
      have := (directive?_shrinks h).1
      directive :: directives rest
    | none => prepend c (directives cs)
termination_by cs => cs.length
decreasing_by
  · exact this
  · exact Nat.lt_succ_self _

/-- Bodies of directives are shorter than the markup they stand in. -/
theorem length_body_lt {cs b : List Char} {directive : Directive}
    (hd : directive ∈ directives cs) (hb : b ∈ directive.bodies) : b.length < cs.length := by
  induction hn : cs.length using Nat.strongRecOn generalizing cs with
  | ind n ih =>
    subst hn
    cases cs with
    | nil => simp [directives] at hd
    | cons c cs =>
      rw [directives] at hd
      split at hd
      · next d rest h =>
        have hs := directive?_shrinks h
        rcases List.mem_cons.1 hd with rfl | hd
        · exact hs.2 b hb
        · exact Nat.lt_trans (ih rest.length hs.1 hd rfl) hs.1
      · have hd' : directive ∈ directives cs ∨ ∃ t, directive = .text t := by
          revert hd
          cases directives cs with
          | nil => simp +contextual [prepend]
          | cons x xs => cases x <;> simp [prepend] <;> grind
        rcases hd' with hd | ⟨t, rfl⟩
        · exact Nat.lt_trans (ih cs.length (by simp) hd rfl) (by simp)
        · simp [Directive.bodies] at hb

end Pressroom.Markup
