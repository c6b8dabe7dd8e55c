import Pressroom.Proofs.Expr.Truth
import Pressroom.Proofs.Render.Slices

/-!
The text of a result. A sum with the empty text, the method `toString` and the page make the same
text of a result; of an array the method `join` makes it too, since an array as a text is the texts
of its items with commas between them.
-/

namespace Pressroom.Expr

open Lexer Markup

def Word.ofChars (c : Char) (cs : List Char) (h : (isNameStart c && cs.all isNamePart) = true) :
    Word where
  first := c
  others := cs
  starts := (Bool.and_eq_true_iff.1 h).1
  goesOn := List.all_eq_true.1 (Bool.and_eq_true_iff.1 h).2

def Word.toText : Word := .ofChars 't' "oString".toList (by decide)

def Word.join : Word := .ofChars 'j' "oin".toList (by decide)

/-! ### Operands as texts -/

namespace Operand

variable {a : Operand}

lemma empty_add (a : Operand) : (value (.str "")).add a = .value (.str a.text) := by
  have hconcat : (value (.str "")).add a = .value (.str ("" ++ a.text)) := if_pos rfl
  rw [hconcat, String.empty_append]

lemma call_toText (hmath : a ≠ .math) (hnull : a.toValue ≠ .null) :
    a.call Word.toText.name [] = .ok (.value (.str a.text)) := by
  have hname : Word.toText.name = "toString" := by decide
  have hcall {v : Value} (hv : v ≠ .null) :
      Method.call v "toString" [] = .ok (.str v.text) := by
    unfold Method.call Method.find?
    cases v with
    | null => exact absurd rfl hv
    | _ => rfl
  rw [hname]
  cases a with
  | math => exact absurd rfl hmath
  | nonFinite x => rfl
  | value v => simp only [call, List.map_nil, hcall hnull, Except.map, text]
  | scope s => simp only [call, List.map_nil, hcall hnull, Except.map, text]

lemma call_join {items : List Value} (hitems : a.toValue = .arr items) {args : List Operand}
    (hargs : args = [] ∨ args = [.value (.str ",")]) :
    a.call Word.join.name args = .ok (.value (.str a.text)) := by
  have hname : Word.join.name = "join" := by decide
  have hjoin : Method.call a.toValue "join" (args.map toValue) = .ok (.str a.text) := by
    rw [text, hitems]
    rcases hargs with rfl | rfl <;> rfl
  rw [hname]
  cases a with
  | math => cases hitems
  | nonFinite x => cases hitems
  | value v => simp only [call, hjoin, Except.map]
  | scope s => simp only [call, hjoin, Except.map]

end Operand

/-! ### Expressions as texts -/

section Texts

variable {source : List Char} {term : Term} (hterm : Term.ofSource source = .ok term)
  {scope : Scope} {a : Operand} (ha : term.eval scope = .ok a)
include hterm ha

lemma evaluate_concatenated : evaluate (concatenated source) scope = .ok (.str a.text) := by
  have heval : (Term.binary (.literal (.str "")) .add term).eval scope =
      .ok (.value (.str a.text)) := by
    rw [Term.eval, Term.eval, ha, ← Operand.empty_add a]
    rfl
  rw [evaluate_eq (ofSource_concatenated hterm), heval]
  rfl

lemma evaluate_called {method : Word} {args : List Char} {us : List Token} {terms : List Term}
    (hargs : tokens args = .ok us) (hderives : Derives (.terms terms) us) {as : List Operand}
    (has : Term.evalAll scope terms = .ok as) :
    evaluate (called source method args) scope = (a.call method.name as).map Operand.toValue := by
  have heval : (Term.call term method.name terms false).eval scope = a.call method.name as := by
    rw [Term.eval, ha, ok_bind, has]
    rfl
  rw [evaluate_eq (ofSource_called hterm method hargs hderives), heval]

lemma evaluate_toText (hmath : a ≠ .math) (hnull : a.toValue ≠ .null) :
    evaluate (called source .toText []) scope = .ok (.str a.text) := by
  have has : Term.evalAll scope [] = .ok [] := by rw [Term.evalAll]
  rw [evaluate_called hterm ha tokens_nil .noTerms has, Operand.call_toText hmath hnull]
  rfl

lemma evaluate_join {items : List Value} (hitems : a.toValue = .arr items) :
    evaluate (called source .join []) scope = .ok (.str a.text) ∧
      evaluate (called source .join "','".toList) scope = .ok (.str a.text) := by
  constructor
  · have has : Term.evalAll scope [] = .ok [] := by rw [Term.evalAll]
    rw [evaluate_called hterm ha tokens_nil .noTerms has, Operand.call_join hitems (.inl rfl)]
    rfl
  · have hcomma : tokens "','".toList = .ok [.str ","] :=
      Lexeme.tokens_spaced [.quoted .single ","]
    have hderives : Derives (.terms [.literal (.str ",")]) [.str ","] :=
      ((Derives.str ",").loosen (by decide)).lastTerm
    have has : Term.evalAll scope [.literal (.str ",")] = .ok [.value (.str ",")] := by
      rw [Term.evalAll, Term.eval, Term.evalAll]
      rfl
    rw [evaluate_called hterm ha hcomma hderives has, Operand.call_join hitems (.inr rfl)]
    rfl

lemma text_renderWithin (press : Press) (hpress : press.evaluator = .standard) (room : Nat)
    {markup : List Char} {s : Span} (hs : s ∈ spans markup)
    (hdirective : s.directive = .expression source) :
    (press.renderWithin room s.source scope).text =
      if a.toValue.rendered?.isSome then a.text.toList else [] := by
  have hvalue : press.evaluator.evaluate source scope = .ok a.toValue := by
    rw [hpress]
    show evaluate source scope = _
    rw [evaluate_eq hterm, ha]
    rfl
  have hshown : (press.renderWithin room s.source scope).text =
      (a.toValue.rendered?.getD "").toList := by
    rw [press.renderWithin_source room hs, hdirective]
    simp only [Node.ofDirective, Render.node, Render.expression, hvalue]
    rfl
  rw [hshown, Operand.text]
  cases a.toValue <;> rfl

end Texts

/-- **Every way to a text leads to the same one.** For a result that is neither null nor the name
`Math`, the sum with the empty text and the method `toString` are its text; on the page it is that
text or nothing, and that text if it is a text or a number. For an array the method `join`, with a
comma as well as without a separator, is that text too. -/
theorem texts_agree {source : List Char} {term : Term} (hterm : Term.ofSource source = .ok term)
    {scope : Scope} {a : Operand} (ha : term.eval scope = .ok a) (hmath : a ≠ .math)
    (hnull : a.toValue ≠ .null) :
    evaluate (concatenated source) scope = .ok (.str a.text) ∧
      evaluate (called source .toText []) scope = .ok (.str a.text) ∧
      (∀ (press : Press), press.evaluator = .standard → ∀ (room : Nat) (markup : List Char),
        ∀ s ∈ spans markup, s.directive = .expression source →
          ((press.renderWithin room s.source scope).text ≠ [] →
            (press.renderWithin room s.source scope).text = a.text.toList) ∧
          (a.toValue.rendered?.isSome →
            (press.renderWithin room s.source scope).text = a.text.toList)) ∧
      ∀ items, a.toValue = .arr items →
        evaluate (called source .join []) scope = .ok (.str a.text) ∧
          evaluate (called source .join "','".toList) scope = .ok (.str a.text) := by
  refine ⟨evaluate_concatenated hterm ha, evaluate_toText hterm ha hmath hnull,
    fun press hpress room markup s hs hdirective => ?_, fun items => evaluate_join hterm ha⟩
  rw [text_renderWithin hterm ha press hpress room hs hdirective]
  constructor
  · intro hsome
    split at hsome
    · next h => rw [if_pos h]
    · exact absurd rfl hsome
  · intro hsome
    rw [if_pos hsome]

/-- An array in an array, with an item that is null. -/
def nestedArray : Draft :=
  .array [.num zero, .array [.null, .str "x"]]

/-- Inside an array null is written as nothing, and an array without its brackets. -/
theorem texts_agree_nestedArray :
    ∃ a, Term.ofSource (nestedArray.written .single) = .ok nestedArray.term ∧
      nestedArray.term.eval (.node .null) = .ok a ∧ a ≠ .math ∧ a.toValue ≠ .null ∧
      evaluate (called (nestedArray.written .single) .toText []) (.node .null) =
        .ok (.str "0,,x") ∧
      evaluate (called (nestedArray.written .single) .join []) (.node .null) =
        .ok (.str "0,,x") := by
  have hterm : Term.ofSource (nestedArray.written .single) = .ok nestedArray.term :=
    ofSource_spaced (nestedArray.derives_lexemes .single)
  have heval : nestedArray.term.eval (.node .null) =
      .ok (.value (.arr [.num (.int 0), .arr [.null, .str "x"]])) := by
    simp only [nestedArray, Draft.term, Draft.terms, ofFloat_zero]
    rfl
  obtain ⟨-, htoText, -, hjoin⟩ := texts_agree hterm heval nofun nofun
  exact ⟨_, hterm, heval, nofun, nofun, htoText, (hjoin _ rfl).1⟩

end Pressroom.Expr
