import Pressroom.Proofs.Data.Spelling

/-!
The lexical units of printed values. Whatever blanks stand between its parts, the text of a value is
read as the same row of units, and what stands behind it is read as it is read on its own. Main
statement: this holds of every value whose numbers are read back.
-/

namespace Pressroom

open Lexeme (ofText isGap next Apart ReadsBack)

/-! ### What a value is made of -/

namespace Value

mutual

def units : Value → List Lexeme
  | .null => [.null]
  | .bool b => [.bool b]
  | .num n => [.num (some n)]
  | .str s => [.str (some s)]
  | .arr [] => [.openArray, .closeArray]
  | .arr (item :: items) =>
    .openArray :: units item ++ itemUnits items ++ [.closeArray]
  | .obj [] => [.openObject, .closeObject]
  | .obj ((key, value) :: fields) =>
    .openObject :: .str (some key) :: .colon :: units value ++ fieldUnits fields ++ [.closeObject]

/-- The units of the items of an array from the second on. -/
def itemUnits : List Value → List Lexeme
  | [] => []
  | item :: items => .comma :: units item ++ itemUnits items

/-- The units of the fields of an object from the second on. -/
def fieldUnits : List (String × Value) → List Lexeme
  | [] => []
  | (key, value) :: fields =>
    .comma :: .str (some key) :: .colon :: units value ++ fieldUnits fields

end

mutual

/-- The numbers in a value. -/
def numerals : Value → List Numeral
  | .num n => [n]
  | .arr items => itemNumerals items
  | .obj fields => fieldNumerals fields
  | _ => []

def itemNumerals : List Value → List Numeral
  | [] => []
  | item :: items => numerals item ++ itemNumerals items

def fieldNumerals : List (String × Value) → List Numeral
  | [] => []
  | (_, value) :: fields => numerals value ++ fieldNumerals fields

end

lemma itemNumerals_eq (items : List Value) : itemNumerals items = items.flatMap numerals := by
  induction items with
  | nil => rfl
  | cons item items ih => rw [itemNumerals, ih, List.flatMap_cons]

lemma fieldNumerals_eq (fields : List (String × Value)) :
    fieldNumerals fields = fields.flatMap (numerals ·.2) := by
  induction fields with
  | nil => rfl
  | cons field fields ih => rw [fieldNumerals, ih, List.flatMap_cons]

end Value

/-! ### Blanks -/

/-- Nothing but blanks stands between the parts of a text. -/
structure Spacing.Blank (spacing : Spacing) : Prop where
  line : ∀ depth, ∀ c ∈ spacing.line depth, isGap c = true
  colon : ∃ gaps, spacing.colon = ':' :: gaps ∧ ∀ c ∈ gaps, isGap c = true

lemma Spacing.blank_indented : Spacing.indented.Blank where
  line depth c hc := by
    rcases List.mem_cons.1 hc with rfl | hc
    · rfl
    · rw [List.eq_of_mem_replicate hc]
      rfl
  colon := ⟨[' '], rfl, by simp [isGap]⟩

namespace Lexeme

lemma ofText_gaps {gaps : List Char} (h : ∀ c ∈ gaps, isGap c = true) (rest : List Char) :
    ofText (gaps ++ rest) = ofText rest := by
  induction gaps with
  | nil => rfl
  | cons c gaps ih =>
    obtain ⟨hc, hgaps⟩ := List.forall_mem_cons.1 h
    rw [List.cons_append, ofText, if_pos hc, ih hgaps]

lemma ofText_next {c : Char} {cs rest : List Char} {unit : Lexeme} (hc : isGap c = false)
    (h : next (c :: cs) = (unit, rest)) : ofText (c :: cs) = unit :: ofText rest := by
  rw [ofText, if_neg (by simp [hc]), h]

lemma Apart.of_gaps {gaps rest : List Char} (h : ∀ c ∈ gaps, isGap c = true) (hrest : Apart rest) :
    Apart (gaps ++ rest) := by
  cases gaps with
  | nil => exact hrest
  | cons c gaps =>
    rintro d ⟨rfl⟩
    exact .inl (h c List.mem_cons_self)

lemma apart_comma (rest : List Char) : Apart (',' :: rest) := by
  simp [Apart]

lemma apart_closeArray (rest : List Char) : Apart (']' :: rest) := by
  simp [Apart]

lemma apart_closeObject (rest : List Char) : Apart ('}' :: rest) := by
  simp [Apart]

/-! ### Single units -/

lemma ofText_jsonString (s : String) (rest : List Char) :
    ofText (jsonString s ++ rest) = .str (some s) :: ofText rest :=
  ofText_next (c := '"') rfl (next_jsonString s rest)

lemma ofText_colon {spacing : Spacing} (h : spacing.Blank) (rest : List Char) :
    ofText (spacing.colon ++ rest) = .colon :: ofText rest := by
  obtain ⟨gaps, hcolon, hgaps⟩ := h.colon
  rw [hcolon, List.cons_append, ofText_next (c := ':') rfl rfl, ofText_gaps hgaps]

lemma isGap_of_isDigit {c : Char} (h : c.isDigit = true) : isGap c = false := by
  refine Bool.eq_false_iff.2 fun hgap => ?_
  simp only [isGap, Bool.or_eq_true, beq_iff_eq] at hgap
  rcases hgap with ((rfl | rfl) | rfl) | rfl <;> cases h

lemma ofText_json {n : Numeral} (h : ReadsBack n) {rest : List Char} (hrest : Apart rest) :
    ofText (n.json ++ rest) = .num (some n) :: ofText rest := by
  have hnext := next_json h hrest
  rcases number?_of_next h with ⟨tail, hjson, -⟩ | hnumber
  · rw [hjson, List.cons_append] at hnext ⊢
    exact ofText_next rfl hnext
  · cases hjson : n.json with
    | nil => rw [hjson] at hnumber; cases hnumber
    | cons c cs =>
      rw [hjson] at hnumber
      rw [hjson, List.cons_append] at hnext
      exact ofText_next (isGap_of_isDigit (isDigit_of_number? hnumber)) hnext

end Lexeme

/-! ### Values -/

namespace Value

open Lexeme

variable {spacing : Spacing}

lemma apart_writeItems (depth : Nat) (items : List Value) {rest : List Char} (hrest : Apart rest) :
    Apart (writeItems spacing depth items ++ rest) := by
  cases items with
  | nil => exact hrest
  | cons item items => exact apart_comma _

lemma apart_writeFields (depth : Nat) (fields : List (String × Value)) {rest : List Char}
    (hrest : Apart rest) : Apart (writeFields spacing depth fields ++ rest) := by
  cases fields with
  | nil => exact hrest
  | cons field fields => exact apart_comma _

mutual

lemma ofText_write (hspacing : spacing.Blank) (depth : Nat) :
    ∀ value : Value, (∀ n ∈ value.numerals, ReadsBack n) → ∀ rest, Apart rest →
      ofText (write spacing depth value ++ rest) = value.units ++ ofText rest
  | .null, _, rest, _ => ofText_next (c := 'n') rfl rfl
  | .bool true, _, rest, _ => ofText_next (c := 't') rfl rfl
  | .bool false, _, rest, _ => ofText_next (c := 'f') rfl rfl
  | .num n, hnumerals, rest, hrest => ofText_json (hnumerals n (by simp [numerals])) hrest
  | .str s, _, rest, _ => ofText_jsonString s rest
  | .arr [], _, rest, _ => by
    rw [write, units, List.cons_append, ofText_next (c := '[') rfl rfl]
    exact congrArg _ (ofText_next (c := ']') rfl rfl)
  | .arr (item :: items), hnumerals, rest, _ => by
    obtain ⟨hitem, hitems⟩ := List.forall_mem_append.1 hnumerals
    have hend : Apart (spacing.line depth ++ ']' :: rest) :=
      .of_gaps (hspacing.line depth) (apart_closeArray rest)
    simp only [write, units, List.cons_append, List.append_assoc, List.nil_append]
    rw [ofText_next (c := '[') rfl rfl, ofText_gaps (hspacing.line _),
      ofText_write hspacing _ item hitem _ (apart_writeItems _ items hend),
      ofText_writeItems hspacing _ items hitems _ hend, ofText_gaps (hspacing.line _),
      ofText_next (c := ']') rfl rfl]
  | .obj [], _, rest, _ => by
    rw [write, units, List.cons_append, ofText_next (c := '{') rfl rfl]
    exact congrArg _ (ofText_next (c := '}') rfl rfl)
  | .obj ((key, value) :: fields), hnumerals, rest, _ => by
    obtain ⟨hvalue, hfields⟩ := List.forall_mem_append.1 hnumerals
    have hend : Apart (spacing.line depth ++ '\x7d' :: rest) :=
      .of_gaps (hspacing.line depth) (apart_closeObject rest)
    simp only [write, units, List.cons_append, List.append_assoc, List.nil_append]
    rw [ofText_next (c := '\x7b') rfl rfl, ofText_gaps (hspacing.line _), ofText_jsonString,
      ofText_colon hspacing,
      ofText_write hspacing _ value hvalue _ (apart_writeFields _ fields hend),
      ofText_writeFields hspacing _ fields hfields _ hend, ofText_gaps (hspacing.line _),
      ofText_next (c := '\x7d') rfl rfl]

lemma ofText_writeItems (hspacing : spacing.Blank) (depth : Nat) :
    ∀ items : List Value, (∀ n ∈ itemNumerals items, ReadsBack n) → ∀ rest, Apart rest →
      ofText (writeItems spacing depth items ++ rest) = itemUnits items ++ ofText rest
  | [], _, rest, _ => rfl
  | item :: items, hnumerals, rest, hrest => by
    obtain ⟨hitem, hitems⟩ := List.forall_mem_append.1 hnumerals
    simp only [writeItems, itemUnits, List.cons_append, List.append_assoc]
    rw [ofText_next (c := ',') rfl rfl, ofText_gaps (hspacing.line _),
      ofText_write hspacing _ item hitem _ (apart_writeItems _ items hrest),
      ofText_writeItems hspacing _ items hitems _ hrest]

lemma ofText_writeFields (hspacing : spacing.Blank) (depth : Nat) :
    ∀ fields : List (String × Value), (∀ n ∈ fieldNumerals fields, ReadsBack n) →
      ∀ rest, Apart rest →
        ofText (writeFields spacing depth fields ++ rest) = fieldUnits fields ++ ofText rest
  | [], _, rest, _ => rfl
  | (key, value) :: fields, hnumerals, rest, hrest => by
    obtain ⟨hvalue, hfields⟩ := List.forall_mem_append.1 hnumerals
    simp only [writeFields, fieldUnits, List.cons_append, List.append_assoc]
    rw [ofText_next (c := ',') rfl rfl, ofText_gaps (hspacing.line _), ofText_jsonString,
      ofText_colon hspacing,
      ofText_write hspacing _ value hvalue _ (apart_writeFields _ fields hrest),
      ofText_writeFields hspacing _ fields hfields _ hrest]

end

/-- **The text of a value is read as the units of the value.** -/
theorem ofText_indented (value : Value) (h : ∀ n ∈ value.numerals, ReadsBack n) :
    ofText value.indented.toList = value.units := by
  have hread := ofText_write Spacing.blank_indented 0 value h [] apart_nil
  rw [List.append_nil, ofText, List.append_nil] at hread
  rw [indented, String.toList_ofList, hread]

end Value

end Pressroom
