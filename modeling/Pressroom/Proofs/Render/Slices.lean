import Pressroom.Proofs.Markup.Tiling
import Pressroom.Render.Page

/-!
Pages slice by slice. A markup on the page is made of its slices on the page, one slice for each
directive, so that a directive that fails takes nothing away from what stands around it.
-/

namespace Pressroom

open Markup

namespace Render

namespace Output

lemma append_def (a b : Output) : a ++ b = ⟨a.text ++ b.text, a.events ++ b.events⟩ := rfl

@[simp] lemma text_append (a b : Output) : (a ++ b).text = a.text ++ b.text := rfl

@[simp] lemma empty_append (a : Output) : empty ++ a = a := rfl

@[simp] lemma append_empty (a : Output) : a ++ empty = a := by
  simp [append_def, empty]

lemma append_assoc (a b c : Output) : a ++ b ++ c = a ++ (b ++ c) := by
  simp [append_def]

lemma concat_append (xs ys : List Output) : concat (xs ++ ys) = concat xs ++ concat ys := by
  induction xs with
  | nil => rfl
  | cons x xs ih =>
    have h : concat (x :: (xs ++ ys)) = x ++ concat (xs ++ ys) := rfl
    rw [List.cons_append, h, ih, ← append_assoc]
    rfl

end Output

variable (evaluator : Evaluator) (process? : Option (Value → Output))

lemma nodes_eq_concat (ns : List Node) (scope : Scope) :
    nodes evaluator process? ns scope =
      Output.concat (ns.map fun n => node evaluator process? n scope) := by
  induction ns with
  | nil => rw [nodes]; rfl
  | cons n ns ih => rw [nodes, ih]; rfl

/-- What fails about a directive: an expression of it, or what its value is used for. -/
def Fails (scope : Scope) : Directive → Prop
  | .text _ => False
  | .expression source => ∃ e, evaluator.evaluate source scope = .error e
  | .style none _ => ∃ e, Style.declarations (scope.style?.getD .null) = .error e
  | .style (some source) _ =>
    ∃ e, (evaluator.evaluate source scope).bind Style.declarations = .error e
  | .inclusion source => process? = none ∨ ∃ e, evaluator.evaluate source scope = .error e
  | .loop _ _ source _ =>
    (∃ e, evaluator.evaluate source scope = .error e) ∨
      ∃ value, evaluator.evaluate source scope = .ok value ∧ ∀ items, value ≠ .arr items
  | .conditional branches _ =>
    ∃ before b after e, branches = before ++ b :: after ∧
      (∀ x ∈ before, evaluator.test x.condition scope = .ok false) ∧
      evaluator.test b.condition scope = .error e

lemma text_branch_of_error (otherwise : Unit → Output) {before after : List Branch} {b : Branch}
    {scope : Scope} {e : Expr.EvalError}
    (hbefore : ∀ x ∈ before, evaluator.test x.condition scope = .ok false)
    (hb : evaluator.test b.condition scope = .error e) :
    (branch evaluator process? otherwise
      ((before ++ b :: after).map fun x => (x.condition, Node.ofMarkup x.body)) scope).text =
        [] := by
  induction before with
  | nil =>
    rw [List.nil_append, List.map_cons, branch, hb]
    rfl
  | cons x before ih =>
    rw [List.cons_append, List.map_cons, branch, hbefore x (by simp)]
    exact ih fun y hy => hbefore y (List.mem_cons_of_mem _ hy)

/-- What fails leaves no text. -/
theorem text_node_of_fails {scope : Scope} {directive : Directive}
    (h : Fails evaluator process? scope directive) :
    (node evaluator process? (Node.ofDirective directive) scope).text = [] := by
  cases directive with
  | text t => exact absurd h id
  | expression source =>
    obtain ⟨e, he⟩ := h
    simp only [Node.ofDirective, node, expression, he]
    rfl
  | style selector spread =>
    cases selector with
    | none =>
      obtain ⟨e, he⟩ := h
      simp only [Node.ofDirective, node, style, declarations, Except.bind, he]
      rfl
    | some source =>
      obtain ⟨e, he⟩ := h
      simp only [Node.ofDirective, node, style, declarations, he]
      rfl
  | inclusion source =>
    simp only [Node.ofDirective, node, inclusion]
    rcases h with rfl | ⟨e, he⟩
    · rfl
    · cases process? with
      | none => rfl
      | some process =>
        simp only [he]
        rfl
  | loop element index source body =>
    simp only [Node.ofDirective, node]
    rcases h with ⟨e, he⟩ | ⟨value, hv, hnot⟩
    · rw [he]
      rfl
    · rw [hv]
      cases value with
      | arr items => exact absurd rfl (hnot items)
      | _ => rfl
  | conditional branches otherwise =>
    obtain ⟨before, b, after, e, rfl, hbefore, hb⟩ := h
    cases otherwise with
    | none =>
      simp only [Node.ofDirective, Option.map_none, node]
      exact text_branch_of_error evaluator process? _ hbefore hb
    | some body =>
      simp only [Node.ofDirective, Option.map_some, node]
      exact text_branch_of_error evaluator process? _ hbefore hb

end Render

namespace Press

open Render

/-- How a press processes content that is included, if it still does. -/
def processor (press : Press) : Nat → Option (Value → Output)
  | 0 => none
  | room + 1 => some (press.processWithin room)

lemma renderWithin_eq (press : Press) (room : Nat) (markup : List Char) (scope : Scope) :
    press.renderWithin room markup scope = Output.concat ((directives markup).map fun directive =>
      node press.evaluator (press.processor room) (Node.ofDirective directive) scope) := by
  have hnodes (process? : Option (Value → Output)) :
      nodes press.evaluator process? (Node.ofMarkup markup) scope =
        Output.concat ((directives markup).map fun directive =>
          node press.evaluator process? (Node.ofDirective directive) scope) := by
    rw [nodes_eq_concat, Node.ofMarkup_eq, List.map_map]
    rfl
  cases room with
  | zero => rw [renderWithin, hnodes]; rfl
  | succ room => rw [renderWithin, hnodes]; rfl

end Press

namespace Markup

/-- The source of a directive by itself is that directive. -/
theorem directives_source {cs : List Char} {s : Span} (hs : s ∈ spans cs) :
    directives s.source = [s.directive] := by
  obtain ⟨ss, ts, h⟩ := List.append_of_mem hs
  have h : spans cs = (ss ++ [s]) ++ ts := by simpa using h
  have h1 := (spans_of_append h).1
  have h2 := (spans_of_append h1).2
  have hsource : sources [s] = s.source := by simp
  rw [← map_directive_spans, ← hsource, h2]
  rfl

lemma directives_sources {cs : List Char} {ss ts : List Span} (h : spans cs = ss ++ ts) :
    directives (sources ss) ++ directives (sources ts) = directives cs := by
  obtain ⟨hss, hts⟩ := spans_of_append h
  rw [← map_directive_spans cs, ← map_directive_spans (sources ss),
    ← map_directive_spans (sources ts), hss, hts, h, List.map_append]

end Markup

namespace Press

open Render

lemma renderWithin_source (press : Press) (room : Nat) {cs : List Char} {s : Span}
    (hs : s ∈ spans cs) (scope : Scope) :
    press.renderWithin room s.source scope =
      node press.evaluator (press.processor room) (Node.ofDirective s.directive) scope := by
  rw [renderWithin_eq, directives_source hs]
  exact Output.append_empty _

lemma renderWithin_append (press : Press) (room : Nat) {cs : List Char} {ss ts : List Span}
    (h : spans cs = ss ++ ts) (scope : Scope) :
    press.renderWithin room cs scope =
      press.renderWithin room (sources ss) scope ++ press.renderWithin room (sources ts) scope := by
  rw [renderWithin_eq, renderWithin_eq, renderWithin_eq, ← Output.concat_append, ← List.map_append,
    directives_sources h]

lemma renderWithin_eq_concat (press : Press) (room : Nat) (markup : List Char) (scope : Scope) :
    press.renderWithin room markup scope =
      Output.concat ((spans markup).map fun s => press.renderWithin room s.source scope) := by
  rw [renderWithin_eq, ← map_directive_spans, List.map_map]
  congr 1
  exact List.map_congr_left fun s hs => (press.renderWithin_source room hs scope).symm

/-- **Reading and rendering are local.** A cut between two directives changes neither what stands
before it nor what stands behind it; the source of a directive is that directive alone, and text is
itself on the page. The page of a markup is made of the pages of its slices, and a directive that
fails adds nothing to the text and takes nothing away. -/
theorem renderWithin_local (markup : List Char) :
    (∀ ss ts, spans markup = ss ++ ts →
        directives (sources ss) ++ directives (sources ts) = directives markup) ∧
      (∀ s ∈ spans markup, directives s.source = [s.directive]) ∧
      (∀ s ∈ spans markup, ∀ t, s.directive = .text t → s.source = t ∧
        ∀ (press : Press) room scope, press.renderWithin room s.source scope = .ofText t) ∧
      (∀ (press : Press) room scope, press.renderWithin room markup scope =
        .concat ((spans markup).map fun s => press.renderWithin room s.source scope)) ∧
      ∀ (press : Press) room scope ss s ts, spans markup = ss ++ s :: ts →
        Fails press.evaluator (press.processor room) scope s.directive →
        (press.renderWithin room s.source scope).text = [] ∧
          (press.renderWithin room markup scope).text =
            (press.renderWithin room (sources ss) scope).text ++
              (press.renderWithin room (sources ts) scope).text := by
  refine ⟨fun ss ts => directives_sources, fun s => directives_source, fun s hs t ht => ?_,
    fun press room scope => press.renderWithin_eq_concat room markup scope,
    fun press room scope ss s ts h hfails => ?_⟩
  · refine ⟨(faithful_of_mem_spans hs).verbatim t ht, fun press room scope => ?_⟩
    rw [press.renderWithin_source room hs, ht, Node.ofDirective, node]
  · have hs : s ∈ spans markup := by rw [h]; simp
    have hnone : (press.renderWithin room s.source scope).text = [] := by
      rw [press.renderWithin_source room hs]
      exact text_node_of_fails press.evaluator (press.processor room) hfails
    have hrest : spans (sources (s :: ts)) = [s] ++ ts := (spans_of_append h).2
    have hsource : sources [s] = s.source := by simp
    refine ⟨hnone, ?_⟩
    rw [press.renderWithin_append room h, press.renderWithin_append room hrest, hsource,
      Output.text_append, Output.text_append, hnone, List.nil_append]

end Press

end Pressroom
