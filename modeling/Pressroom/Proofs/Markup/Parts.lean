import Pressroom.Proofs.Markup.Local

/-!
The markers that directives are written with, and how they are looked for. One marker is not taken
for another: their words differ, and where one word begins the other or the words are the same, what
the ids go on with tells them apart.
-/

namespace Pressroom.Markup

open Text

/-- The markers that directives are written with. -/
inductive Part where
  | style | inclusion | loop | loopEnd | conditional | elseIf | otherwise | conditionalEnd
  deriving DecidableEq

namespace Dialect

/-- What a marker starts with. -/
def start : Dialect → Part → String
  | bracket, .style => "%%style"
  | bracket, .inclusion => "%%section"
  | bracket, .loop => "%%for"
  | bracket, .loopEnd => "%%endfor"
  | bracket, .conditional => "%%if"
  | bracket, .elseIf => "%%else-if"
  | bracket, .otherwise => "%%else"
  | bracket, .conditionalEnd => "%%endif"
  | tag, .style => "<a-style"
  | tag, .inclusion => "<a-section"
  | tag, .loop => "<a-for"
  | tag, .loopEnd => "</a-for"
  | tag, .conditional => "<a-if"
  | tag, .elseIf => "<a-else-if"
  | tag, .otherwise => "<a-else"
  | tag, .conditionalEnd => "</a-if"

def finish : Dialect → Part → String
  | bracket, _ => "%%"
  | tag, .style | tag, .inclusion | tag, .elseIf | tag, .otherwise => "/>"
  | tag, _ => ">"

/-- What ends a marker behind its word and its id, as it is looked for. -/
def ends : Dialect → Part → Marker
  | bracket, .elseIf => [.blanks, .text ['{']]
  | bracket, _ => [.blanks, .text ['%', '%']]
  | tag, .elseIf => [.blanks, .text "condition".toList, .blanks, .text ['='], .blanks, .quote]
  | tag, .otherwise => [.blanks, .slash, .text ['>']]
  | tag, _ => [.blanks, .text ['>']]

/-- A marker as it is looked for. -/
def seek (d : Dialect) (part : Part) (id : List Char) : Marker :=
  .text ((d.start part).toList ++ id) :: d.ends part

end Dialect

lemma loopEnd_eq (d : Dialect) (id : List Char) : d.loopEnd id = d.seek .loopEnd id := by
  cases d <;> rfl

lemma ifEnd_eq (d : Dialect) (id : List Char) : d.ifEnd id = d.seek .conditionalEnd id := by
  cases d <;> rfl

lemma elseMarker_eq (d : Dialect) (id : List Char) : d.elseMarker id = d.seek .otherwise id := by
  cases d <;> rfl

lemma elseIfOpen_eq (d : Dialect) (id : List Char) : d.elseIfOpen id = d.seek .elseIf id := by
  cases d <;> rfl

lemma strip?_seek (d : Dialect) (part : Part) (id cs : List Char) :
    (d.seek part id).strip? cs =
      ((stripFolded? foldAscii (d.start part).toList cs).bind (stripFolded? foldAscii id)).bind
        (d.ends part).strip? := by
  rw [Dialect.seek, Marker.strip?_text, stripFolded?_append]

lemma start_isPrefix {d d' : Dialect} {part part' : Part}
    (h : (d.start part).toList.map foldAscii <+: (d'.start part').toList.map foldAscii) :
    (d = d' ∧ part = part') ∨ (d = d' ∧ part = .otherwise ∧ part' = .elseIf) := by
  revert h
  cases d <;> cases d' <;> cases part <;> cases part' <;> decide

/-- A character that an id goes on with, or the word of an `else-if` behind that of an `else`. -/
def isIdLike (c : Char) : Bool :=
  isIdDigit c || c == '-'

lemma mem_of_isIdLike {c : Char} (h : isIdLike c = true) : c ∈ "-123456789".toList := by
  simp only [isIdLike, isIdDigit, Bool.or_eq_true, Bool.and_eq_true, decide_eq_true_eq,
    beq_iff_eq] at h
  rcases h with ⟨h1, h2⟩ | rfl
  · have h1 : 49 ≤ c.toNat := UInt32.le_iff_toNat_le.1 h1
    have h2 : c.toNat ≤ 57 := UInt32.le_iff_toNat_le.1 h2
    have hall : ∀ n ∈ List.range' 49 9, Char.ofNat n ∈ "-123456789".toList := by decide
    have hc := hall c.toNat (List.mem_range'_1.2 ⟨h1, by omega⟩)
    rwa [Char.ofNat_toNat] at hc
  · decide

lemma eq_of_fold_idLike {c p : Char} (hp : isIdLike p = true) (h : foldAscii c = foldAscii p) :
    c = p := by
  have hall : ∀ p ∈ "-123456789".toList, p.isAlpha = false := by decide
  exact (foldAscii_eq_iff (hall p (mem_of_isIdLike hp))).1 h

lemma strip?_ends (d : Dialect) (part : Part) {c : Char} (h : isIdLike c = true) (cs : List Char) :
    (d.ends part).strip? (c :: cs) = none := by
  have hall : ∀ c ∈ "-123456789".toList, isBlank c = false ∧ c ≠ '/' ∧
      foldAscii c ≠ foldAscii '{' ∧ foldAscii c ≠ foldAscii '%' ∧ foldAscii c ≠ foldAscii '>' ∧
      foldAscii c ≠ foldAscii 'c' := by decide
  obtain ⟨hblank, hslash, h1, h2, h3, h4⟩ := hall c (mem_of_isIdLike h)
  have hskip : skipBlanks (c :: cs) = c :: cs := by simp [skipBlanks, hblank]
  cases d <;> cases part <;>
    simp [Dialect.ends, Marker.strip?, stripFolded?, hskip, skipSlash, hslash, h1, h2, h3, h4]

lemma not_isIdLike_of_ends {d : Dialect} {part : Part} {cs r : List Char}
    (h : (d.ends part).strip? cs = some r) : ∀ c ∈ cs.head?, isIdLike c = false := by
  intro c hc
  obtain ⟨tail, rfl⟩ := List.head?_eq_some_iff.1 hc
  by_contra hlike
  simp [strip?_ends d part (by simpa using hlike) tail] at h

lemma takeWhile_id {id rest : List Char} (hid : IsId id)
    (h : ∀ c ∈ rest.head?, isIdLike c = false) : (id ++ rest).takeWhile isIdDigit = id :=
  (span_append hid.1 fun c hc => (Bool.or_eq_false_iff.1 (h c hc)).1).1

lemma id_eq_of_strip {id id' rest r : List Char} (hid : IsId id) (hid' : IsId id')
    (hrest : ∀ c ∈ rest.head?, isIdLike c = false) (hr : ∀ c ∈ r.head?, isIdLike c = false)
    (h : stripFolded? foldAscii id (id' ++ rest) = some r) : id = id' := by
  have hexact : ∀ p ∈ id, ∀ c, foldAscii c = foldAscii p → c = p :=
    fun p hp c => eq_of_fold_idLike (by simp [isIdLike, hid.1 p hp])
  rw [stripFolded?_eq_strip? hexact, strip?_eq_some_iff] at h
  rw [← takeWhile_id hid hr, ← h, takeWhile_id hid' hrest]

lemma start_elseIf (d : Dialect) :
    (d.start .elseIf).toList = (d.start .otherwise).toList ++ "-if".toList := by
  cases d <;> rfl

lemma head_of_strip_id {id cs r : List Char} (hid : IsId id)
    (h : stripFolded? foldAscii id ('-' :: cs) = some r) : r.head? = some '-' := by
  cases id with
  | nil =>
    obtain rfl := Option.some.inj h
    rfl
  | cons i id =>
    have hi : isIdDigit i = true := hid.1 i (by simp)
    have hdash : foldAscii '-' ≠ foldAscii i := by
      intro he
      have he : '-' = i := eq_of_fold_idLike (by simp [isIdLike, hi]) he
      rw [← he] at hi
      exact absurd hi (by decide)
    simp [stripFolded?, hdash] at h

lemma head_of_strip_dash {cs r : List Char} (h : stripFolded? foldAscii "-if".toList cs = some r) :
    cs.head? = some '-' := by
  obtain ⟨word, rfl, hfold⟩ := stripFolded?_eq_some_iff.1 h
  obtain ⟨c, word, rfl⟩ := List.exists_cons_of_ne_nil
    (show word ≠ [] by rintro rfl; simp at hfold)
  obtain rfl : c = '-' := eq_of_fold_idLike (by decide) (List.cons.inj hfold).1
  rfl

/-- Where the word of a marker stands with its id, no marker with another word or id matches. -/
lemma strip?_seek_apart {d d' : Dialect} {part part' : Part} {id id' cs rest : List Char}
    (hid : IsId id) (hid' : IsId id') (hrest : ∀ c ∈ rest.head?, isIdLike c = false)
    (hself : stripFolded? foldAscii (d'.start part').toList cs = some (id' ++ rest))
    (hne : ¬ (d = d' ∧ part = part' ∧ id = id')) : (d.seek part id).strip? cs = none := by
  cases hs : (d.seek part id).strip? cs with
  | none => rfl
  | some r =>
    exfalso
    rw [strip?_seek] at hs
    obtain ⟨r1, hr1, hends⟩ := Option.bind_eq_some_iff.1 hs
    obtain ⟨u, hu, hr⟩ := Option.bind_eq_some_iff.1 hr1
    have hhead := not_isIdLike_of_ends hends
    have hsame (hd : d = d') (hpart : part = part') : False := by
      subst hd hpart
      obtain rfl := Option.some.inj (hself.symm.trans hu)
      exact hne ⟨rfl, rfl, id_eq_of_strip hid hid' hrest hhead hr⟩
    rcases stripFolded?_comparable hu hself with hprefix | hprefix
    · rcases start_isPrefix hprefix with ⟨hd, hpart⟩ | ⟨rfl, rfl, rfl⟩
      · exact hsame hd hpart
      · -- an `else` is looked for at an `else-if`, the dash of which is left
        rw [start_elseIf, stripFolded?_append, hu, Option.bind_some] at hself
        obtain ⟨tail, rfl⟩ := List.head?_eq_some_iff.1 (head_of_strip_dash hself)
        exact absurd (hhead '-' (head_of_strip_id hid hr)) (by decide)
    · rcases start_isPrefix hprefix with ⟨hd, hpart⟩ | ⟨rfl, rfl, rfl⟩
      · exact hsame hd.symm hpart.symm
      · -- an `else-if` is looked for at an `else`, behind which there is no dash
        rw [start_elseIf, stripFolded?_append, hself, Option.bind_some] at hu
        have hdash := head_of_strip_dash hu
        cases id' with
        | nil => exact absurd (hrest '-' hdash) (by decide)
        | cons i id' =>
          have hi : isIdDigit i = true := hid'.1 i (by simp)
          rw [Option.some.inj hdash] at hi
          exact absurd hi (by decide)

lemma strip?_seek_other {d d' : Dialect} {part part' : Part} {id id' rest : List Char}
    (hid : IsId id) (hid' : IsId id') (hrest : ∀ c ∈ rest.head?, isIdLike c = false)
    (hne : ¬ (d = d' ∧ part = part' ∧ id = id')) :
    (d.seek part id).strip? ((d'.start part').toList ++ (id' ++ rest)) = none :=
  strip?_seek_apart hid hid' hrest (stripFolded?_self _ _) hne

/-- At most one marker matches at a place. -/
theorem seek_unique {d d' : Dialect} {part part' : Part} {id id' cs rest rest' : List Char}
    (hid : IsId id) (hid' : IsId id') (h : (d.seek part id).strip? cs = some rest)
    (h' : (d'.seek part' id').strip? cs = some rest') : d = d' ∧ part = part' ∧ id = id' := by
  by_contra hne
  rw [strip?_seek] at h'
  obtain ⟨behind, hbehind, hends⟩ := Option.bind_eq_some_iff.1 h'
  obtain ⟨u, hu, hstrip⟩ := Option.bind_eq_some_iff.1 hbehind
  have hexact : ∀ p ∈ id', ∀ c, foldAscii c = foldAscii p → c = p :=
    fun p hp c => eq_of_fold_idLike (by simp [isIdLike, hid'.1 p hp])
  rw [stripFolded?_eq_strip? hexact, strip?_eq_some_iff] at hstrip
  subst hstrip
  rw [strip?_seek_apart hid hid' (not_isIdLike_of_ends hends) hu hne] at h
  cases h

end Pressroom.Markup
