import Pressroom.Proofs.Markup.Branches
import Pressroom.Proofs.Markup.Sound

/-!
Reading markers back. A marker that is written down is read as what it carries: its id and its
names are followed by what is no part of them, and its expression ends at the end of the marker,
because no match comes over the wall behind the expression.
-/

namespace Pressroom.Markup

open Text

/-! ### Heads -/

lemma afterWord?_self (word : String) (rest : List Char) :
    afterWord? word (word.toList ++ rest) = some rest :=
  stripFolded?_self word.toList rest

lemma takeId_append {id : List Char} (hid : IsId id) {c : Char} (hc : isIdDigit c = false)
    (rest : List Char) : takeId (id ++ c :: rest) = (id, c :: rest) :=
  takeId_eq_iff.2 ⟨rfl, hid, fun _ x hx => by rwa [← Option.some.inj hx]⟩

lemma afterChar?_self {c : Char} (hc : isBlank c = false) (rest : List Char) :
    afterChar? c (c :: rest) = some rest := by
  rw [afterChar?_eq_some_iff]
  simp [skipBlanks, hc]

lemma afterAttribute?_self {keyword : String} {c : Char} {word : List Char}
    (hk : keyword.toList = c :: word) (hc : isBlank c = false) (rest : List Char) :
    afterAttribute? keyword (' ' :: (keyword.toList ++ '=' :: '"' :: rest)) = some rest := by
  have hblank : isBlank ' ' = true := rfl
  have hskip : skipBlanks (' ' :: (keyword.toList ++ '=' :: '"' :: rest)) =
      keyword.toList ++ '=' :: '"' :: rest := by
    simp [skipBlanks, hk, hc, hblank]
  have hquote : isBlank '"' = false := rfl
  rw [afterAttribute?, hskip, afterWord?_self]
  simp only [Option.bind_eq_bind, Option.bind_some]
  rw [afterChar?_self rfl]
  simp [skipBlanks, hquote, afterQuote?, isQuote]

lemma ifHead?_self (d : Dialect) {id : List Char} (hid : IsId id) (rest : List Char) :
    d.ifHead? ((d.start .conditional).toList ++ (id ++ (d.carryStart "condition" ++ rest))) =
      some (id, rest) := by
  cases d with
  | bracket =>
    have hword := afterWord?_self "%%if" (id ++ (Dialect.bracket.carryStart "condition" ++ rest))
    rw [Dialect.start, Dialect.ifHead?, hword]
    simp only [Option.bind_eq_bind, Option.bind_some, Dialect.carryStart, List.cons_append,
      List.nil_append]
    rw [takeId_append hid rfl, afterChar?_self rfl]
    rfl
  | tag =>
    have hword := afterWord?_self "<a-if" (id ++ (Dialect.tag.carryStart "condition" ++ rest))
    have hname : "condition".toList = 'c' :: "ondition".toList := rfl
    rw [Dialect.start, Dialect.ifHead?, hword]
    simp only [Option.bind_eq_bind, Option.bind_some, Dialect.carryStart, List.cons_append,
      List.append_assoc, List.nil_append]
    rw [takeId_append hid rfl, afterAttribute?_self hname rfl]
    rfl

lemma isBlank_eq_false_of_isName {name : List Char} (h : IsName name) :
    ∃ c tail, name = c :: tail ∧ isBlank c = false ∧ isVariableStart c = true ∧
      ∀ x ∈ tail, isVariablePart x = true := by
  obtain ⟨c, tail, hskip, hc, rfl, htail⟩ := loopVariable?_eq_some_iff.1 h
  have hblank : isBlank c = false := by
    have hhead := List.head?_dropWhile_not isBlank (c :: tail.takeWhile isVariablePart)
    rw [show List.dropWhile isBlank _ = c :: tail from hskip] at hhead
    simpa using hhead
  exact ⟨c, _, rfl, hblank, hc, fun x hx => List.mem_takeWhile_imp hx⟩

lemma loopVariable?_append {name : List Char} (h : IsName name) {c : Char}
    (hc : isVariablePart c = false) (rest : List Char) :
    loopVariable? (name ++ c :: rest) = some (name, c :: rest) := by
  obtain ⟨x, tail, rfl, hblank, hx, htail⟩ := isBlank_eq_false_of_isName h
  rw [loopVariable?_eq_some_iff]
  refine ⟨x, tail ++ c :: rest, ?_, hx, ?_, ?_⟩
  · simp [skipBlanks, hblank]
  · rw [List.takeWhile_append_of_pos htail]
    simp [hc]
  · rw [List.dropWhile_append_of_pos htail]
    simp [hc]

lemma variables?_carryNames {element : List Char} {index : Option (List Char)}
    (he : IsName element) (hi : ∀ name ∈ index, IsName name) (rest : List Char) :
    variables? (carryNames element index ++ rest) = some (element, index, rest) := by
  cases index with
  | none =>
    have heq : carryNames element none ++ rest = '[' :: (element ++ ']' :: rest) := by
      simp [carryNames]
    rw [heq, variables?, afterChar?_self rfl]
    simp only [Option.bind_eq_bind, Option.bind_some]
    rw [loopVariable?_append he rfl]
    simp only [Option.bind_some]
    rfl
  | some index =>
    have heq : carryNames element (some index) ++ rest =
        '[' :: (element ++ ',' :: (index ++ ']' :: rest)) := by
      simp [carryNames]
    rw [heq, variables?, afterChar?_self rfl]
    simp only [Option.bind_eq_bind, Option.bind_some]
    rw [loopVariable?_append he rfl]
    simp only [Option.bind_some, afterChar?_self (c := ',') rfl]
    rw [loopVariable?_append (hi index rfl) rfl]
    simp only [Option.bind_some]
    rfl

lemma loopHead?_self (d : Dialect) {id element : List Char} {index : Option (List Char)}
    (hid : IsId id) (he : IsName element) (hi : ∀ name ∈ index, IsName name) (rest : List Char) :
    d.loopHead? ((d.start .loop).toList ++ (id ++ (carryNames element index ++
      (d.carryStart "array" ++ rest)))) = some (id, element, index, rest) := by
  obtain ⟨tail, hnames⟩ : ∃ tail, carryNames element index = '[' :: tail := by
    cases index <;> exact ⟨_, rfl⟩
  have htake (more : List Char) : takeId (id ++ (carryNames element index ++ more)) =
      (id, carryNames element index ++ more) := by
    rw [hnames]
    exact takeId_append hid rfl _
  cases d with
  | bracket =>
    have hword := afterWord?_self "%%for" (id ++ (carryNames element index ++
      (Dialect.bracket.carryStart "array" ++ rest)))
    rw [Dialect.start, Dialect.loopHead?, hword]
    simp only [Option.bind_eq_bind, Option.bind_some, htake, variables?_carryNames he hi,
      Dialect.carryStart, List.cons_append, List.nil_append]
    rw [afterChar?_self rfl]
    rfl
  | tag =>
    have hword := afterWord?_self "<a-for" (id ++ (carryNames element index ++
      (Dialect.tag.carryStart "array" ++ rest)))
    have hname : "array".toList = 'a' :: "rray".toList := rfl
    rw [Dialect.start, Dialect.loopHead?, hword]
    simp only [Option.bind_eq_bind, Option.bind_some, htake, variables?_carryNames he hi,
      Dialect.carryStart, List.cons_append, List.append_assoc, List.nil_append]
    rw [afterAttribute?_self hname rfl]
    rfl

lemma strip?_elseIfOpen (d : Dialect) (id rest : List Char) :
    (d.elseIfOpen id).strip? ((d.start .elseIf).toList ++ id ++
      (d.carryStart "condition" ++ rest)) = some rest := by
  cases d with
  | bracket =>
    rw [Dialect.elseIfOpen, Dialect.start, Marker.strip?_text, stripFolded?_self]
    rfl
  | tag =>
    rw [Dialect.elseIfOpen, Dialect.start, Marker.strip?_text, stripFolded?_self]
    rfl

lemma inclusionHead?_self (d : Dialect) (rest : List Char) :
    d.inclusionHead? ((d.start .inclusion).toList ++ '[' :: rest) = some rest := by
  have htake : takeId ('[' :: rest) = ([], '[' :: rest) :=
    takeId_append isId_nil (c := '[') rfl rest
  cases d with
  | bracket =>
    rw [Dialect.inclusionHead?, Dialect.start, afterWord?_self, Option.bind_eq_bind,
      Option.bind_some, htake, afterChar?_self rfl]
  | tag =>
    rw [Dialect.inclusionHead?, Dialect.start, afterWord?_self, Option.bind_eq_bind,
      Option.bind_some, htake, afterChar?_self rfl]

lemma styleHead?_self (d : Dialect) (rest : List Char) :
    d.styleHead? ((d.start .style).toList ++ '[' :: rest) = some ('[' :: rest) := by
  cases d with
  | bracket =>
    rw [Dialect.styleHead?, Dialect.start, afterWord?_self]
    rfl
  | tag =>
    rw [Dialect.styleHead?, Dialect.start, afterWord?_self]
    rfl

/-! ### Expressions -/

lemma cut?_expressionClose {d : Dialect} {e : List Char} (h : Embedded d.expressionClose e)
    {part : Part} (hpart : part = .loop ∨ part = .conditional) (rest : List Char) :
    d.expressionClose.cut? (e ++ d.carryEnd :: ((d.finish part).toList ++ rest)) =
      some (e, rest) := by
  cases d with
  | bracket =>
    refine Marker.cut?_wall (Marker.leads_text '}' [] _) (by decide) h.close ?_
    rcases hpart with rfl | rfl <;> rfl
  | tag =>
    refine Marker.cut?_wall (Marker.leads_quote _) (by decide) h.close ?_
    rcases hpart with rfl | rfl <;> rfl

lemma cut?_elseIfClose {d : Dialect} {e : List Char} (h : Embedded d.elseIfClose e)
    (rest : List Char) :
    d.elseIfClose.cut? (e ++ d.carryEnd :: ((d.finish .elseIf).toList ++ rest)) =
      some (e, rest) := by
  cases d with
  | bracket => exact Marker.cut?_wall (Marker.leads_text '}' [] _) (by decide) h.close rfl
  | tag => exact Marker.cut?_wall (Marker.leads_quote _) (by decide) h.close rfl

lemma cut?_inclusionClose {d : Dialect} {e : List Char} (h : Embedded d.inclusionClose e) :
    d.inclusionClose.cut? (e ++ ']' :: (d.finish .inclusion).toList) = some (e, []) := by
  cases d with
  | bracket => exact Marker.cut?_wall (Marker.leads_text ']' [] _) (by decide) h.close rfl
  | tag => exact Marker.cut?_wall (Marker.leads_text ']' [] _) (by decide) h.close rfl

lemma cut?_styleParamsClose {d : Dialect} {e : List Char} (h : d.styleParamsClose.cut? e = none) :
    d.styleParamsClose.cut? (e ++ ']' :: (d.finish .style).toList) = some (e, []) := by
  cases d with
  | bracket => exact Marker.cut?_wall (Marker.leads_text ']' [] _) (by decide) h rfl
  | tag => exact Marker.cut?_wall (Marker.leads_text ']' [] _) (by decide) h rfl

/-! ### Openers -/

lemma ifHead?_opener {d : Dialect} {id condition : List Char} (hid : IsId id)
    (h : Embedded d.expressionClose condition) (rest : List Char) :
    ∃ r, d.ifHead? ((Token.marker d .conditional id
        (d.carry "condition" condition)).spelling ++ rest) =
      some (id, r) ∧ d.expressionClose.cut? r = some (condition, rest) := by
  refine ⟨_, ?_, cut?_expressionClose h (.inr rfl) rest⟩
  rw [← ifHead?_self d hid]
  simp [Token.spelling, Dialect.carry_eq]

lemma loopHead?_opener {d : Dialect} {id element array : List Char} {index : Option (List Char)}
    (hid : IsId id) (he : IsName element) (hi : ∀ name ∈ index, IsName name)
    (h : Embedded d.expressionClose array) (rest : List Char) :
    ∃ r, d.loopHead? ((Token.marker d .loop id
        (carryNames element index ++ d.carry "array" array)).spelling ++ rest) =
      some (id, element, index, r) ∧ d.expressionClose.cut? r = some (array, rest) := by
  refine ⟨_, ?_, cut?_expressionClose h (.inl rfl) rest⟩
  rw [← loopHead?_self d hid he hi]
  simp [Token.spelling, Dialect.carry_eq]

lemma elseIf?_opener {d : Dialect} {condition : List Char} (id : List Char)
    (h : Embedded d.elseIfClose condition) (rest : List Char) :
    elseIf? d id ((Token.marker d .elseIf id (d.carry "condition" condition)).spelling ++ rest) =
      some (condition, rest) := by
  have heq : (Token.marker d .elseIf id (d.carry "condition" condition)).spelling ++ rest =
      (d.start .elseIf).toList ++ id ++ (d.carryStart "condition" ++
        (condition ++ d.carryEnd :: ((d.finish .elseIf).toList ++ rest))) := by
    simp [Token.spelling, Dialect.carry_eq]
  rw [heq, elseIf?, strip?_elseIfOpen]
  exact cut?_elseIfClose h rest

/-! ### Directives without a body -/

lemma expression_readback {e : List Char} (h : Embedded [.text ['}', '}']] e)
    (hlast : e.getLast? ≠ some '}') :
    directive? (Token.expression e).spelling = some (.expression e, []) := by
  rw [directive?_eq_some_iff]
  refine .inr ⟨e ++ ['}', '}'], e, rfl, Marker.cut?_eq_some_iff.2
    ⟨['}', '}'], rfl, by simp, rfl, fun t ht hne => ?_⟩, rfl⟩
  -- a brace of the expression and one behind it would need the expression to end in a brace
  have hsilent := Marker.cut?_eq_none_iff.1 h.close t ht hne
  rw [strip?_word] at hsilent ⊢
  rw [List.append_nil] at hsilent
  cases t with
  | nil => exact absurd rfl hne
  | cons c t =>
    cases t with
    | cons x t => simpa [stripFolded?] using hsilent
    | nil =>
      have hc : c ≠ '}' := by
        rintro rfl
        obtain ⟨pre, rfl⟩ := ht
        exact hlast (by simp)
      have hfold : foldAscii c ≠ foldAscii '}' := mt (foldAscii_eq_iff rfl).1 hc
      simp [stripFolded?, hfold]

lemma inclusion?_readback {d : Dialect} {e : List Char} (h : Embedded d.inclusionClose e)
    (hline : ∀ c ∈ e, c ≠ '\n' ∧ c ≠ '\r') :
    inclusion? d (Token.marker d .inclusion [] ('[' :: e ++ [']'])).spelling =
      some (.inclusion e, []) := by
  have hany : (e.any fun c => c == '\n' || c == '\r') = false := by
    rw [List.any_eq_false]
    intro c hc
    simp [hline c hc]
  have heq : (Token.marker d .inclusion [] ('[' :: e ++ [']'])).spelling =
      (d.start .inclusion).toList ++ '[' :: (e ++ ']' :: (d.finish .inclusion).toList) := by
    simp [Token.spelling]
  rw [heq, inclusion?, inclusionHead?_self]
  simp only [Option.bind_eq_bind, Option.bind_some, cut?_inclusionClose h, hany]
  rfl

lemma splitLastComma?_append {a b : List Char} (hb : ',' ∉ b) :
    splitLastComma? (a ++ ',' :: b) = some (a, b) := by
  have hpos : ∀ c ∈ b.reverse, (c != ',') = true := by
    intro c hc
    have hne : c ≠ ',' := by
      rintro rfl
      exact hb (List.mem_reverse.1 hc)
    simpa using hne
  have heq : (a ++ ',' :: b).reverse = b.reverse ++ ',' :: a.reverse := by simp
  rw [splitLastComma?, heq, List.takeWhile_append_of_pos hpos, List.dropWhile_append_of_pos hpos]
  simp

lemma styleParams_params (selector : Option (List Char)) (spread : Bool) :
    styleParams (params selector spread) = (selector.getD [], spread) := by
  have hcomma : ',' ∉ (if spread then "true" else "false").toList := by
    cases spread <;> decide
  have hflag : flag? (if spread then "true" else "false").toList = some spread := by
    cases spread <;> decide
  rw [styleParams, params, splitLastComma?_append hcomma]
  simp [hflag]

lemma selector?_trimmed {selector : Option (List Char)}
    (h : ∀ s ∈ selector, trim s = s ∧ s ≠ []) : selector? (selector.getD []) = selector := by
  cases selector with
  | none => rfl
  | some s =>
    obtain ⟨htrim, hne⟩ := h s rfl
    rw [Option.getD_some, selector?, htrim]
    cases s with
    | nil => exact absurd rfl hne
    | cons c s => rfl

lemma cut?_params {d : Dialect} {selector : Option (List Char)}
    (h : ∀ s ∈ selector, Embedded d.styleParamsClose s) (spread : Bool) :
    d.styleParamsClose.cut? (params selector spread) = none := by
  have hselector : d.styleParamsClose.cut? (selector.getD []) = none := by
    cases selector with
    | none => rfl
    | some s => exact (h s rfl).close
  have hflag :
      d.styleParamsClose.cut? (',' :: (if spread then "true" else "false").toList) = none := by
    cases d <;> cases spread <;> decide
  rw [Marker.cut?_eq_none_iff] at hflag ⊢
  refine misses_append.2 ⟨?_, hflag⟩
  rw [List.append_nil]
  cases d with
  | bracket => exact Marker.silent_wall (Marker.leads_text ']' [] _) (by decide) hselector _
  | tag => exact Marker.silent_wall (Marker.leads_text ']' [] _) (by decide) hselector _

lemma style?_readback {d : Dialect} {selector : Option (List Char)}
    (h : ∀ s ∈ selector, Embedded d.styleParamsClose s ∧ trim s = s ∧ s ≠ []) (spread : Bool) :
    style? d (Token.marker d .style [] (carryParams selector spread)).spelling =
      some (.style selector spread, []) := by
  by_cases hbare : selector = none ∧ spread = false
  · obtain ⟨rfl, rfl⟩ := hbare
    cases d <;> decide
  · have hcarry : carryParams selector spread = '[' :: params selector spread ++ [']'] := by
      rw [carryParams]
      exact fun hs hspread => hbare ⟨hs, hspread⟩
    have heq : (Token.marker d .style [] (carryParams selector spread)).spelling =
        (d.start .style).toList ++
          '[' :: (params selector spread ++ ']' :: (d.finish .style).toList) := by
      simp [Token.spelling, hcarry]
    have hopen (rest : List Char) : d.styleClose.strip? ('[' :: rest) = none := by
      cases d <;> rfl
    have hclose := cut?_styleParamsClose (cut?_params (fun s hs => (h s hs).1) spread)
    rw [heq, style?, styleHead?_self]
    simp only [Option.bind_eq_bind, Option.bind_some, hopen, hclose, styleParams_params,
      selector?_trimmed fun s hs => (h s hs).2]
    rfl

end Pressroom.Markup
