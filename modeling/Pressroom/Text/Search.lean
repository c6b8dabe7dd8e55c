/-!
Looking for one text inside another. Occurrences are found from the left, and they are reported by
what stands before and after them, so that no position has to be kept.
-/

namespace Pressroom.Text

/-- What follows `pattern` at the start of the text. -/
def strip? : (pattern : List Char) → List Char → Option (List Char)
  | [], cs => some cs
  | _ :: _, [] => none
  | p :: pattern, c :: cs => if c = p then strip? pattern cs else none

/-- What follows `pattern` at the start of the text, letters being compared after folding. -/
def stripFolded? (fold : Char → Char) : (pattern : List Char) → List Char → Option (List Char)
  | [], cs => some cs
  | _ :: _, [] => none
  | p :: pattern, c :: cs =>
    if fold c = fold p then stripFolded? fold pattern cs else none

/-- The text before and the text after the first occurrence of `pattern`. -/
def cut? (pattern : List Char) : List Char → Option (List Char × List Char)
  | [] => (strip? pattern []).map ([], ·)
  | c :: cs =>
    match strip? pattern (c :: cs) with
    | some rest => some ([], rest)
    | none => (cut? pattern cs).map fun (before, rest) => (c :: before, rest)

def occursIn (pattern cs : List Char) : Bool :=
  (cut? pattern cs).isSome

/-- The parts of the text between successive occurrences of a separator that is not empty. -/
def pieces (separator text : List Char) : List (List Char) :=
  match cut? separator text with
  | none => [text]
  | some (before, rest) =>
    if rest.length < text.length then before :: pieces separator rest else [text]
termination_by text.length

/-- The parts one after the other with the separator between them. -/
def join (separator : List Char) (parts : List (List Char)) : List Char :=
  (parts.intersperse separator).flatten

/-- The text in front of its end `rest`. -/
def upTo (cs rest : List Char) : List Char :=
  cs.take (cs.length - rest.length)

theorem strip?_eq_some_iff {pattern cs rest : List Char} :
    strip? pattern cs = some rest ↔ cs = pattern ++ rest := by
  induction pattern generalizing cs with
  | nil => simp [strip?]
  | cons p pattern ih =>
    cases cs with
    | nil => simp [strip?]
    | cons c cs =>
      by_cases h : c = p
      · simp [strip?, h, ih]
      · simp [strip?, h]

theorem length_of_stripFolded? {fold : Char → Char} {pattern cs rest : List Char}
    (h : stripFolded? fold pattern cs = some rest) :
    cs.length = pattern.length + rest.length := by
  induction pattern generalizing cs with
  | nil => simp [stripFolded?] at h; simp [h]
  | cons p pattern ih =>
    cases cs with
    | nil => simp [stripFolded?] at h
    | cons c cs =>
      simp only [stripFolded?] at h
      split at h
      · simp [ih h]; omega
      · simp at h

theorem append_of_cut? {pattern cs before rest : List Char}
    (h : cut? pattern cs = some (before, rest)) : cs = before ++ pattern ++ rest := by
  induction cs generalizing before with
  | nil =>
    simp only [cut?, Option.map_eq_some_iff, Prod.mk.injEq] at h
    obtain ⟨r, hr, rfl, rfl⟩ := h
    simpa using strip?_eq_some_iff.1 hr
  | cons c cs ih =>
    simp only [cut?] at h
    split at h
    · next r hr =>
      simp only [Option.some.injEq, Prod.mk.injEq] at h
      obtain ⟨rfl, rfl⟩ := h
      simpa using strip?_eq_some_iff.1 hr
    · simp only [Option.map_eq_some_iff, Prod.mk.injEq, Prod.exists] at h
      obtain ⟨b, r, hb, rfl, rfl⟩ := h
      simp [ih hb]

theorem stripFolded?_suffix {fold : Char → Char} {pattern cs rest : List Char}
    (h : stripFolded? fold pattern cs = some rest) : rest <:+ cs := by
  induction pattern generalizing cs with
  | nil => simp [stripFolded?] at h; simp [h]
  | cons p pattern ih =>
    cases cs with
    | nil => simp [stripFolded?] at h
    | cons c cs =>
      simp only [stripFolded?] at h
      split at h
      · exact (ih h).trans (List.suffix_cons c cs)
      · simp at h

theorem upTo_append {cs rest : List Char} (h : rest <:+ cs) : upTo cs rest ++ rest = cs := by
  obtain ⟨before, rfl⟩ := h
  simp [upTo]

theorem upTo_ne_nil {cs rest : List Char} (h : rest <:+ cs) (hl : rest.length < cs.length) :
    upTo cs rest ≠ [] := by
  intro hn
  have := congrArg List.length (upTo_append h)
  simp [hn] at this
  omega

end Pressroom.Text
