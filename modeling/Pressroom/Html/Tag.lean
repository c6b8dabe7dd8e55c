import Pressroom.Text.Blank
import Pressroom.Text.Fold
import Pressroom.Text.Letter
import Pressroom.Text.Pattern

/-!
Tags and attributes in a page. A page is looked at as text: a tag is what stands between its name
and the next `>`, whatever else is around it. Names are compared without regard to case.
-/

namespace Pressroom.Html

open Text

/-! ### Tags -/

/-- What follows the name of an opening tag. -/
def afterTagName? (name : String) (cs : List Char) : Option (List Char) :=
  match strip? ['<'] cs with
  | none => none
  | some rest => (afterWord? name rest).filter endsWord

/-- The opening tag at the start of a text, and what follows it. -/
def openTag? (name : String) (cs : List Char) : Option (List Char × List Char) :=
  if (afterTagName? name cs).isNone then none
  else match cs.dropWhile (· != '>') with
    | '>' :: rest => some (upTo cs rest, rest)
    | _ => none

def closeTag? (name : String) (cs : List Char) : Option (List Char × List Char) :=
  match (strip? ['<', '/'] cs).bind (afterWord? name) with
  | none => none
  | some rest =>
    match skipBlanks rest with
    | '>' :: rest => some (upTo cs rest, rest)
    | _ => none

theorem suffix_of_afterWord? {word : String} {cs rest : List Char}
    (h : afterWord? word cs = some rest) : rest <:+ cs :=
  stripFolded?_suffix h

theorem suffix_of_strip? {pattern cs rest : List Char} (h : strip? pattern cs = some rest) :
    rest <:+ cs := by
  rw [strip?_eq_some_iff.1 h]
  exact List.suffix_append _ _

theorem suffix_of_openTag? {name : String} {cs tag rest : List Char}
    (h : openTag? name cs = some (tag, rest)) :
    tag = upTo cs rest ∧ ('>' :: rest) <:+ cs := by
  unfold openTag? at h
  split at h
  · simp at h
  · split at h
    · next r hr =>
      simp only [Option.some.injEq, Prod.mk.injEq] at h
      obtain ⟨rfl, rfl⟩ := h
      exact ⟨rfl, hr ▸ List.dropWhile_suffix _⟩
    · simp at h

theorem suffix_of_closeTag? {name : String} {cs tag rest : List Char}
    (h : closeTag? name cs = some (tag, rest)) :
    tag = upTo cs rest ∧ ('>' :: rest) <:+ cs := by
  unfold closeTag? at h
  split at h
  · simp at h
  · next r hr =>
    split at h
    · next s hs =>
      simp only [Option.some.injEq, Prod.mk.injEq] at h
      obtain ⟨rfl, rfl⟩ := h
      obtain ⟨t, ht, hw⟩ := Option.bind_eq_some_iff.1 hr
      refine ⟨rfl, ?_⟩
      rw [← hs]
      exact (skipBlanks_suffix r).trans ((suffix_of_afterWord? hw).trans (suffix_of_strip? ht))
    · simp at h

theorem suffix_of_cons_suffix {c : Char} {cs rest : List Char} (h : (c :: rest) <:+ cs) :
    rest <:+ cs ∧ rest.length < cs.length := by
  have hl := h.length_le
  rw [List.length_cons] at hl
  exact ⟨(List.suffix_cons c rest).trans h, by omega⟩

def openTag (name : String) : Pattern (List Char) where
  match? := openTag? name
  spell := id
  spell_append_of_match? h := by
    obtain ⟨rfl, hs⟩ := suffix_of_openTag? h
    exact (upTo_append (suffix_of_cons_suffix hs).1).symm
  spell_ne_nil_of_match? h := by
    obtain ⟨rfl, hs⟩ := suffix_of_openTag? h
    exact upTo_ne_nil (suffix_of_cons_suffix hs).1 (suffix_of_cons_suffix hs).2

def closeTag (name : String) : Pattern (List Char) where
  match? := closeTag? name
  spell := id
  spell_append_of_match? h := by
    obtain ⟨rfl, hs⟩ := suffix_of_closeTag? h
    exact (upTo_append (suffix_of_cons_suffix hs).1).symm
  spell_ne_nil_of_match? h := by
    obtain ⟨rfl, hs⟩ := suffix_of_closeTag? h
    exact upTo_ne_nil (suffix_of_cons_suffix hs).1 (suffix_of_cons_suffix hs).2

/-! ### Attributes -/

def afterEquals? (cs : List Char) : Option (List Char) :=
  (strip? ['='] (skipBlanks cs)).map skipBlanks

/-- A text in quotes at the start of a text: the quote, what it encloses, and what follows. -/
def quoted? (cs : List Char) : Option (Char × List Char × List Char) :=
  match cs with
  | [] => none
  | q :: rest =>
    if q = '"' ∨ q = '\'' then
      match rest.dropWhile (· != q) with
      | [] => none
      | _ :: after => some (q, rest.takeWhile (· != q), after)
    else none

/-- A character that a value without quotes may hold. -/
def isBare (c : Char) : Bool :=
  !(isBlank c || c == '"' || c == '\'' || c == '>')

/-- The value of an attribute at the start of a text, and what follows it. -/
def attributeValue? (cs : List Char) : Option (List Char × List Char) :=
  match quoted? cs with
  | some (_, value, rest) => some (value, rest)
  | none =>
    let value := cs.takeWhile isBare
    if value.isEmpty then none else some (value, cs.dropWhile isBare)

def isNameChar (c : Char) : Bool :=
  let letter := foldSimple c
  'a' ≤ letter && letter ≤ 'z' || c == '-'

structure Attribute where
  /-- The attribute as it stands in the tag, with the blank in front of it. -/
  spelling : List Char
  name : List Char
  value : List Char
  deriving Repr, DecidableEq

/-- The attribute at the start of a text, and what follows it. -/
def attribute? (cs : List Char) : Option (Attribute × List Char) :=
  match cs with
  | [] => none
  | c :: inner =>
    let name := inner.takeWhile isNameChar
    if isBlank c && !name.isEmpty then
      ((afterEquals? (inner.dropWhile isNameChar)).bind attributeValue?).map
        fun (value, rest) => (⟨upTo cs rest, name, value⟩, rest)
    else none

theorem suffix_of_afterEquals? {cs rest : List Char} (h : afterEquals? cs = some rest) :
    rest <:+ cs := by
  obtain ⟨r, hr, rfl⟩ := Option.map_eq_some_iff.1 h
  exact (skipBlanks_suffix r).trans ((suffix_of_strip? hr).trans (skipBlanks_suffix cs))

theorem eq_of_quoted? {cs value rest : List Char} {q : Char}
    (h : quoted? cs = some (q, value, rest)) : cs = q :: value ++ q :: rest := by
  unfold quoted? at h
  split at h
  · simp at h
  · next c inner =>
    split at h
    · split at h
      · simp at h
      · next d after hd =>
        simp only [Option.some.injEq, Prod.mk.injEq] at h
        obtain ⟨rfl, rfl, rfl⟩ := h
        have hq : d = c := by
          have := List.head_dropWhile_not (· != c) (l := inner) (by simp [hd])
          simpa [hd] using this
        have := List.takeWhile_append_dropWhile (p := (· != c)) (l := inner)
        rw [hd, hq] at this
        simp [this]
    · simp at h

theorem suffix_of_attributeValue? {cs value rest : List Char}
    (h : attributeValue? cs = some (value, rest)) : rest <:+ cs := by
  unfold attributeValue? at h
  split at h
  · next q v r hq =>
    simp only [Option.some.injEq, Prod.mk.injEq] at h
    obtain ⟨rfl, rfl⟩ := h
    rw [eq_of_quoted? hq]
    exact (List.suffix_cons q r).trans (List.suffix_append _ _)
  · simp only at h
    split at h
    · simp at h
    · simp only [Option.some.injEq, Prod.mk.injEq] at h
      rw [← h.2]
      exact List.dropWhile_suffix _

theorem suffix_of_attribute? {cs rest : List Char} {a : Attribute}
    (h : attribute? cs = some (a, rest)) :
    a.spelling = upTo cs rest ∧ rest <:+ cs ∧ rest.length < cs.length := by
  unfold attribute? at h
  split at h
  · simp at h
  · next c inner =>
    simp only at h
    split at h
    · simp only [Option.map_eq_some_iff, Prod.exists, Prod.mk.injEq] at h
      obtain ⟨v, r, hv, rfl, rfl⟩ := h
      obtain ⟨s, hs, hv⟩ := Option.bind_eq_some_iff.1 hv
      have hr : r <:+ inner := (suffix_of_attributeValue? hv).trans
        ((suffix_of_afterEquals? hs).trans (List.dropWhile_suffix _))
      have := hr.length_le
      exact ⟨rfl, hr.trans (List.suffix_cons c inner), by simp; omega⟩
    · simp at h

/-- Attributes with a value. -/
def attributes : Pattern Attribute where
  match? := attribute?
  spell := Attribute.spelling
  spell_append_of_match? h := by
    obtain ⟨hs, hr, -⟩ := suffix_of_attribute? h
    exact hs ▸ (upTo_append hr).symm
  spell_ne_nil_of_match? h := by
    obtain ⟨hs, hr, hl⟩ := suffix_of_attribute? h
    exact hs ▸ upTo_ne_nil hr hl

/-- The trimmed value of the last attribute of a tag with a name in small letters. -/
def attributeOf? (name : String) (tag : List Char) : Option (List Char) :=
  ((attributes.occurrences tag).filter fun a => a.name.map foldAscii == name.toList).getLast?.map
    fun a => trim a.value

end Pressroom.Html
