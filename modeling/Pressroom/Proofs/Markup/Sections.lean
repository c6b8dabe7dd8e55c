import Pressroom.Proofs.Markup.Definitions

/-!
The sections of a markup. Every name has the body of the last of its definitions that counts, and
definitions that are written one after the other are all found.
-/

namespace Pressroom.Markup

open Text

/-! ### Sections by name -/

namespace Sections

lemma insertAll_cons (entry : String × List Char) (entries : List (String × List Char))
    (sections : Sections) :
    insertAll (entry :: entries) sections =
      insertAll entries (sections.insert entry.1 entry.2) := rfl

lemma get?_insertAll (entries : List (String × List Char)) (sections : Sections) (name : String) :
    (insertAll entries sections).get? name =
      ((entries.filter (·.1 = name)).getLast?.map (·.2)).or (sections.get? name) := by
  induction entries generalizing sections with
  | nil => rfl
  | cons entry entries ih =>
    rw [insertAll_cons, ih, get?_insert]
    by_cases h : entry.1 = name
    · rw [List.filter_cons_of_pos (by simpa using h), if_pos h.symm, List.getLast?_cons]
      cases (entries.filter (·.1 = name)).getLast? <;> rfl
    · rw [List.filter_cons_of_neg (by simpa using h), if_neg fun he => h he.symm]

lemma nodup_insertAll (entries : List (String × List Char)) {sections : Sections}
    (h : (sections.entries.map (·.1)).Nodup) :
    ((insertAll entries sections).entries.map (·.1)).Nodup := by
  induction entries generalizing sections with
  | nil => exact h
  | cons entry entries ih => exact ih (Keyed.nodup_keys_write entry.1 entry.2 h)

end Sections

/-- Whether a definition is one of this name that counts: with a name and a body. -/
def Section.countsFor (s : Section) (name : String) : Bool :=
  s.name = name.toList && !s.name.isEmpty && !s.body.isEmpty

lemma counts_iff (x : Definition) :
    x.complaint?.isNone = (!x.name.isEmpty && !x.body.isEmpty) := by
  unfold Definition.complaint?
  cases x.name.isEmpty <;> cases x.body.isEmpty <;> rfl

lemma get?_extract {markup : List Char} {ss : List Section} (h : Sectioned markup ss)
    (name : String) :
    (Sections.extract markup).value.get? name =
      ((ss.filter (·.countsFor name)).getLast?).map (·.body) := by
  have hkey (s : Section) : (s.countsFor name : Bool) =
      (decide (String.ofList s.definition.name = name) && s.definition.complaint?.isNone) := by
    have hname : String.ofList s.definition.name = name ↔ s.name = name.toList := by
      rw [← String.toList_inj, String.toList_ofList]
      rfl
    simp only [Section.countsFor, counts_iff, hname, Bool.and_assoc]
    rfl
  have hempty : Sections.empty.get? name = none := rfl
  rw [Sections.extract, Sections.ofPairs, Sections.get?_insertAll, hempty, Option.or_none,
    definitions_eq h]
  simp only [List.filter_map, List.filter_filter, List.getLast?_map, Option.map_map,
    List.filter_congr fun s _ => hkey s]
  rfl

/-! ### Definitions that are written one after the other -/

/-- A text in which no definition can open. -/
structure Interlude where
  chars : List Char
  sign_free : '$' ∉ chars
  angle_free : '<' ∉ chars

/-- What every closer of a dialect starts with. -/
def Dialect.closerLead : Dialect → List Char
  | bracket => "!![".toList
  | tag => "</a-define-section".toList

/-- A definition whose opener ends behind its name, and in whose body no closer can start. -/
structure PlainSection extends Section where
  named : name ≠ []
  name_free : ']' ∉ name
  filled : body ≠ []
  body_free : ∀ word, word <:+: body → word.map foldAscii ≠ dialect.closerLead

example : ∃ s : PlainSection, s.text = "$$[a]$$first!![a]!!".toList :=
  ⟨{ dialect := .bracket
     name := ['a']
     body := "first".toList
     start := "$$[".toList
     finish := "]$$".toList
     closer := "!![a]!!".toList
     starts := .bracket
     finishes := .bracket
     oneLine := by decide
     closes := .bracket (by decide)
     named := by decide
     name_free := by decide
     filled := by decide
     body_free := by
       intro word hin hword
       obtain rfl := eq_of_map_foldAscii (t := "!![".toList) (by decide) hword
       exact absurd hin (by decide) },
    rfl⟩

/-- Definitions with texts in front of them, and a text behind them. -/
def layout : List (Interlude × PlainSection) → Interlude → List Char
  | [], last => last.chars
  | (gap, s) :: parts, last => gap.chars ++ (s.text ++ layout parts last)

/-- A text that does not hold the lead of a kind ends where the kind first starts, unless an end of
the lead is also a start of it. -/
lemma shortest_of_lead {kind : List Char → Prop} {lead before tail : List Char}
    (hkind : ∀ text, kind text → ∃ word more, text = word ++ more ∧ word.map foldAscii = lead)
    (htail : ∃ word more, tail = word ++ more ∧ word.map foldAscii = lead)
    (hborder : ∀ n < lead.length, 0 < n → ¬ lead.drop n <+: lead)
    (hbefore : ∀ word, word <:+: before → word.map foldAscii ≠ lead) :
    Shortest kind before tail := by
  intro before' text rest htext heq
  obtain ⟨word, more, rfl, hword⟩ := hkind text htext
  obtain ⟨word', more', rfl, hword'⟩ := htail
  by_contra hlt
  rcases List.append_eq_append_iff.1 heq with ⟨t, rfl, -⟩ | ⟨t, rfl, ht⟩
  · simp at hlt
  have hinside (h : word <+: t) : False :=
    hbefore word (h.isInfix.trans (List.suffix_append before' t).isInfix) hword
  rw [List.append_assoc] at ht
  rcases List.append_eq_append_iff.1 ht with ⟨u, rfl, -⟩ | ⟨u, rfl, hu⟩
  · exact hinside (List.prefix_append _ _)
  · -- the word starts in the text and ends with a start of the word behind it
    cases u with
    | nil => exact hinside (by simp)
    | cons x u =>
      have hlength : (word'.map foldAscii).length = ((t ++ x :: u).map foldAscii).length := by
        rw [hword, hword']
      simp only [List.length_map, List.length_append, List.length_cons] at hlength hlt
      have hbegins : x :: u <+: word' :=
        List.prefix_of_prefix_length_le ⟨_, hu.symm⟩ (List.prefix_append _ _)
          (by simp only [List.length_cons]; omega)
      have hdrop : lead.drop t.length = (x :: u).map foldAscii := by
        rw [← hword, List.map_append]
        exact List.drop_left' (by rw [List.length_map])
      refine hborder t.length ?_ (by omega) ?_
      · rw [← hword', List.length_map]
        omega
      · rw [hdrop, ← hword']
        exact hbegins.map foldAscii

lemma exists_closerLead {name text : List Char} {d : Dialect} (h : CloserOf name d text) :
    ∃ word more, text = word ++ more ∧ word.map foldAscii = d.closerLead := by
  cases h with
  | bracket htext =>
    refine ⟨text.take 3, text.drop 3, (List.take_append_drop 3 text).symm, ?_⟩
    rw [List.map_take, htext]
    rfl
  | tag hword => exact ⟨_, _, rfl, hword⟩

lemma exists_bracket_of_openerFinish {d : Dialect} {finish : List Char}
    (h : OpenerFinish d finish) :
    ∃ word more, finish = word ++ more ∧ word.map foldAscii = [']'] := by
  cases h with
  | bracket => exact ⟨[']'], _, rfl, rfl⟩
  | tag => exact ⟨[']'], _, rfl, rfl⟩

namespace PlainSection

variable (s : PlainSection)

lemma nameShortest (rest : List Char) : s.NameShortest rest := by
  refine shortest_of_lead (fun _ => exists_bracket_of_openerFinish) ?_ ?_ ?_
  · obtain ⟨word, more, hfinish, hword⟩ := exists_bracket_of_openerFinish s.finishes
    exact ⟨word, _, by rw [hfinish, List.append_assoc], hword⟩
  · intro n hlt hpos
    simp only [List.length_cons, List.length_nil] at hlt
    omega
  · intro word hin hword
    obtain rfl := eq_of_map_foldAscii (t := [']']) (by decide) hword
    exact s.name_free (hin.subset List.mem_cons_self)

lemma bodyShortest (rest : List Char) : s.BodyShortest rest := by
  refine shortest_of_lead (fun _ => exists_closerLead) ?_ ?_ s.body_free
  · obtain ⟨word, more, hcloser, hword⟩ := exists_closerLead s.closes
    exact ⟨word, _, by rw [hcloser, List.append_assoc], hword⟩
  · cases s.dialect <;> decide

end PlainSection

lemma Interlude.quiet (gap : Interlude) {t : List Char} (ht : t <:+ gap.chars) (hne : t ≠ [])
    (rest : List Char) : ¬ SectionOpens (t ++ rest) := by
  rintro ⟨s, more, heq, -⟩
  obtain ⟨c, t, rfl⟩ := List.exists_cons_of_ne_nil hne
  obtain ⟨tail, htail⟩ := exists_cons_of_openerStart s.starts
  rw [Section.text, htail] at heq
  obtain rfl := (List.cons.inj heq).1
  have hmem : s.dialect.openerSign ∈ gap.chars := ht.subset List.mem_cons_self
  cases hd : s.dialect <;> rw [hd] at hmem
  · exact gap.sign_free hmem
  · exact gap.angle_free hmem

lemma sectioned_layout (parts : List (Interlude × PlainSection)) (last : Interlude) :
    Sectioned (layout parts last) (parts.map (·.2.toSection)) := by
  induction parts with
  | nil =>
    refine .done fun t ht hne => ?_
    have hquiet := last.quiet ht hne []
    rwa [List.append_nil] at hquiet
  | cons part parts ih =>
    obtain ⟨gap, s⟩ := part
    exact .more (fun t ht hne => gap.quiet ht hne _) (s.nameShortest _) (s.bodyShortest _) ih

/-! ### All markups -/

/-- **The sections of a markup are its definitions**, the last one of a name that has a name and a
body. If no name and no body holds what ends it, and no text between the definitions what opens one,
these are the names and bodies as they were written. -/
theorem extract_definitions :
    (∀ markup : List Char, ∃ ss, Sectioned markup ss ∧
      ((Sections.extract markup).value.entries.map (·.1)).Nodup ∧
        ∀ name, (Sections.extract markup).value.get? name =
          ((ss.filter (·.countsFor name)).getLast?).map (·.body)) ∧
      ∀ (parts : List (Interlude × PlainSection)) (last : Interlude),
        (Sections.extract (layout parts last)).value =
          .ofPairs (parts.map fun part => (String.ofList part.2.name, part.2.body)) := by
  refine ⟨fun markup => ?_, fun parts last => ?_⟩
  · obtain ⟨ss, hss⟩ := exists_sectioned markup
    exact ⟨ss, hss, Sections.nodup_insertAll _ List.nodup_nil, get?_extract hss⟩
  · have hcounts : ∀ x ∈ (parts.map (·.2.toSection)).map Section.definition,
        x.complaint?.isNone = true := by
      intro x hx
      simp only [List.map_map, List.mem_map, Function.comp_apply] at hx
      obtain ⟨⟨gap, s⟩, -, rfl⟩ := hx
      simp [counts_iff, Section.definition, s.named, s.filled]
    rw [Sections.extract, definitions_eq (sectioned_layout parts last)]
    simp only [List.filter_eq_self.2 hcounts]
    rw [List.map_map, List.map_map]
    rfl

/-- A closer in another case ends a definition as well, so a body has to be free of those too. -/
theorem extract_otherCase :
    ∃ s : Section, s.text =
        "<a-define-section [n]>x</A-Define-Section [n]>y</a-define-section [n]>".toList ∧
      s.name ≠ [] ∧ ']' ∉ s.name ∧ s.body ≠ [] ∧ ¬ "</a-define-section".toList <:+: s.body ∧
        (Sections.extract s.text).value ≠ .ofPairs [(String.ofList s.name, s.body)] := by
  let s : Section :=
    { dialect := .tag
      name := ['n']
      body := "x</A-Define-Section [n]>y".toList
      start := "<a-define-section".toList ++ ([' '] ++ ['['])
      finish := ']' :: ([] ++ ['>'])
      closer := "</a-define-section".toList ++ ([' '] ++ ("[n]".toList ++ ([] ++ ['>'])))
      starts := .tag (by decide) (by decide)
      finishes := .tag (by decide)
      oneLine := by decide
      closes := .tag (by decide) (by decide) (by decide) (by decide) }
  let left : List Char := "y</a-define-section [n]>".toList
  have hfirst : definition? s.text = some (⟨['n'], ['x']⟩, left) := by decide
  have hnone : ∀ t ∈ left.tails, definition? t = none := by decide
  have hleft : definitions (left ++ []) = definitions [] := definitions_gap fun t ht _ => by
    rw [List.append_nil]
    exact definition?_eq_none_iff.1 (hnone t ((List.mem_tails t left).2 ht))
  rw [List.append_nil] at hleft
  refine ⟨s, rfl, by decide, by decide, by decide, by decide, fun heq => ?_⟩
  have hget := congrArg (·.get? "n") heq
  rw [Sections.extract, definitions_of_some hfirst, hleft, definitions] at hget
  revert hget
  decide

end Pressroom.Markup
