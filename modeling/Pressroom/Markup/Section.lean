import Pressroom.Data.Keyed
import Pressroom.Log
import Pressroom.Markup.Head

/-!
Sections: named pieces of markup that a template defines. A definition is an opener with the name, a
body, and the first closer with that name behind the opener. Definitions are found from the left and
do not overlap; of several definitions of one name the last one counts, and definitions without a
name or a body do not count.
-/

namespace Pressroom.Markup

/-! ### Definitions -/

/-- A definition as it stands in a template. -/
structure Definition where
  name : List Char
  body : List Char
  deriving Repr, DecidableEq

def onOneLine (cs : List Char) : Bool :=
  cs.all (· != '\n')

/-- The opener of a definition with signs at the start of a text: its name, and what follows it. -/
def signOpener? (cs : List Char) : Option (List Char × List Char) := do
  let (name, rest) ← Text.cut? "]$$".toList (← Text.strip? "$$[".toList cs)
  if onOneLine name then some (name, rest) else none

def signCloser (name : List Char) : Marker :=
  [.text ("!![".toList ++ name ++ "]!!".toList)]

/-- The opener of a definition with tags at the start of a text: its name, and what follows it. -/
def tagOpener? (cs : List Char) : Option (List Char × List Char) := do
  let rest ← afterChar? '[' (← Text.afterWord? "<a-define-section" cs)
  let (name, rest) ← Marker.cut? [.text [']'], .blanks, .text ['>']] rest
  if onOneLine name then some (name, rest) else none

def tagCloser (name : List Char) : Marker :=
  [.text "</a-define-section".toList, .blanks, .text ('[' :: name ++ [']']), .blanks, .text ['>']]

def definition? (cs : List Char) : Option (Definition × List Char) :=
  match signOpener? cs, tagOpener? cs with
  | some (name, rest), _ =>
    (Marker.cut? (signCloser name) rest).map fun (body, rest) => (⟨name, body⟩, rest)
  | none, some (name, rest) =>
    (Marker.cut? (tagCloser name) rest).map fun (body, rest) => (⟨name, body⟩, rest)
  | none, none => none

theorem length_signOpener?_lt {cs name rest : List Char}
    (h : signOpener? cs = some (name, rest)) : rest.length < cs.length := by
  simp only [signOpener?, Option.bind_eq_bind, Option.bind_eq_some_iff, Prod.exists,
    Option.ite_none_right_eq_some, Option.some.injEq, Prod.mk.injEq] at h
  obtain ⟨r1, h1, n, r2, h2, -, -, rfl⟩ := h
  have h1 := congrArg List.length (Text.strip?_eq_some_iff.1 h1)
  have h2 := congrArg List.length (Text.append_of_cut? h2)
  simp at h1 h2
  omega

theorem length_tagOpener?_lt {cs name rest : List Char}
    (h : tagOpener? cs = some (name, rest)) : rest.length < cs.length := by
  simp only [tagOpener?, Option.bind_eq_bind, Option.bind_eq_some_iff, Prod.exists,
    Option.ite_none_right_eq_some, Option.some.injEq, Prod.mk.injEq] at h
  obtain ⟨r1, h1, r2, h2, n, r3, h3, -, -, rfl⟩ := h
  have := length_afterWord? h1
  have := length_afterChar?_lt h2
  have := Marker.length_cut?_le h3
  omega

theorem length_definition?_lt {cs rest : List Char} {d : Definition}
    (h : definition? cs = some (d, rest)) : rest.length < cs.length := by
  unfold definition? at h
  split at h
  · next h1 =>
    have := length_signOpener?_lt h1
    simp only [Option.map_eq_some_iff, Prod.mk.injEq, Prod.exists] at h
    obtain ⟨b, r, h2, -, rfl⟩ := h
    have := Marker.length_cut?_le h2
    omega
  · next h1 =>
    have := length_tagOpener?_lt h1
    simp only [Option.map_eq_some_iff, Prod.mk.injEq, Prod.exists] at h
    obtain ⟨b, r, h2, -, rfl⟩ := h
    have := Marker.length_cut?_le h2
    omega
  · simp at h

/-- The definitions of a markup from left to right. -/
def definitions : List Char → List Definition
  | [] => []
  | c :: cs =>
    match h : definition? (c :: cs) with
    | some (d, rest) =>
      have := length_definition?_lt h
      d :: definitions rest
    | none => definitions cs
termination_by cs => cs.length
decreasing_by
  · exact this
  · exact Nat.lt_succ_self _

/-- What there is to say about a definition that does not count. -/
def Definition.complaint? (d : Definition) : Option Record :=
  if d.name.isEmpty then some (.warning "ignoring section definition with an empty name")
  else if d.body.isEmpty then
    some (.warning s!"ignoring section `{String.ofList d.name}` with an empty body")
  else none

/-! ### Sections by name -/

/-- Markup by section name; every name is there once. -/
structure Sections where
  entries : List (String × List Char)

namespace Sections

def empty : Sections := ⟨[]⟩

/-- The sections with one more, which replaces one of its name. -/
def insert (name : String) (markup : List Char) (sections : Sections) : Sections :=
  ⟨Keyed.write name markup sections.entries⟩

def get? (sections : Sections) (name : String) : Option (List Char) :=
  sections.entries.lookup name

def contains (sections : Sections) (name : String) : Bool :=
  (sections.get? name).isSome

def size (sections : Sections) : Nat :=
  sections.entries.length

def isEmpty (sections : Sections) : Bool :=
  sections.entries.isEmpty

def names (sections : Sections) : List String :=
  (sections.entries.map (·.1)).mergeSort fun a b => !(decide (b < a))

def insertAll (entries : List (String × List Char)) (sections : Sections) : Sections :=
  entries.foldl (fun sections entry => sections.insert entry.1 entry.2) sections

/-- The sections with these names and markups, later ones replacing earlier ones. -/
def ofPairs (entries : List (String × List Char)) : Sections :=
  insertAll entries empty

def extract (markup : List Char) : Logged Sections :=
  let all := definitions markup
  { value := ofPairs ((all.filter (·.complaint?.isNone)).map fun d =>
      (String.ofList d.name, d.body))
    records := all.filterMap (·.complaint?) }

theorem get?_insert (sections : Sections) (name other : String) (markup : List Char) :
    (sections.insert name markup).get? other =
      if other = name then some markup else sections.get? other := by
  simpa [get?, insert] using Keyed.lookup_write name other markup sections.entries

end Sections

end Pressroom.Markup
