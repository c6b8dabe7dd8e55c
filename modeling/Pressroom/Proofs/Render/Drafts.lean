import Pressroom.Proofs.Markup.Readback
import Pressroom.Proofs.Render.Slices

/-!
What drafts mean on the page, by recursion on the draft and without a text in between. Written down
and rendered, a well-formed template is what it means, as long as no text in it reads as a marker.
-/

namespace Pressroom

open Markup

namespace Render

variable (evaluator : Evaluator) (process? : Option (Value → Output))

mutual

def draft : Draft → Scope → Output
  | .text t, _ => .ofText t
  | .expression e, scope => expression evaluator e scope
  | .style _ selector spread, scope => style evaluator selector spread scope
  | .inclusion _ e, scope => inclusion evaluator process? e scope
  | .loop _ _ element index array body, scope =>
    let outcome := evaluator.evaluate array scope
    .after (.evaluated array outcome)
      (match outcome with
        | .ok (.arr items) =>
          rounds (fun item position => drafts body
            (.frame (String.ofList element) item (index.map String.ofList) position scope)) 0 items
        | .ok other => .ofProblem (.loopNotAnArray array other)
        | .error e => .ofProblem (.loopFailed array e))
  | .conditional _ _ condition body rest, scope =>
    let outcome := evaluator.test condition scope
    .after (.tested condition outcome)
      (match outcome with
        | .ok true => drafts body scope
        | .ok false => chain rest scope
        | .error e => .ofProblem (.conditionFailed e))

/-- What comes on the page where the conditions in front of a chain do not hold. -/
def chain : Chain → Scope → Output
  | .done, _ => .empty
  | .otherwise body, scope => drafts body scope
  | .elseIf condition body rest, scope =>
    let outcome := evaluator.test condition scope
    .after (.tested condition outcome)
      (match outcome with
        | .ok true => drafts body scope
        | .ok false => chain rest scope
        | .error e => .ofProblem (.conditionFailed e))

def drafts : List Draft → Scope → Output
  | [], _ => .empty
  | x :: xs, scope => draft x scope ++ drafts xs scope

end

lemma nodes_append (ms ns : List Node) (scope : Scope) :
    nodes evaluator process? (ms ++ ns) scope =
      nodes evaluator process? ms scope ++ nodes evaluator process? ns scope := by
  rw [nodes_eq_concat, nodes_eq_concat, nodes_eq_concat, List.map_append, Output.concat_append]

lemma nodes_singleton (n : Node) (scope : Scope) :
    nodes evaluator process? [n] scope = node evaluator process? n scope := by
  rw [nodes, nodes]
  exact Output.append_empty _

lemma node_conditional (branches : List (List Char × List Node)) (last? : Option (List Node))
    (scope : Scope) :
    node evaluator process? (.conditional branches last?) scope =
      branch evaluator process? (fun _ => nodes evaluator process? (last?.getD []) scope) branches
        scope := by
  cases last? with
  | none => simp only [node, Option.getD_none, nodes]
  | some last => simp only [node, Option.getD_some]

mutual

lemma nodes_trees_draft (x : Draft) (scope : Scope) :
    nodes evaluator process? x.trees scope = draft evaluator process? x scope := by
  cases x with
  | text t =>
    by_cases ht : t = []
    · simp only [Draft.trees, ht, if_true, nodes, draft]
      rfl
    · simp only [Draft.trees, ht, if_false, nodes_singleton, node, draft]
  | expression e => simp only [Draft.trees, nodes_singleton, node, draft]
  | style d selector spread => simp only [Draft.trees, nodes_singleton, node, draft]
  | inclusion d e => simp only [Draft.trees, nodes_singleton, node, draft]
  | loop d id element index array body =>
    have hbody (scope : Scope) := nodes_trees body scope
    cases h : evaluator.evaluate array scope with
    | error e => simp only [Draft.trees, nodes_singleton, node, draft, h]
    | ok value => cases value <;> simp only [Draft.trees, nodes_singleton, node, draft, hbody, h]
  | conditional d id condition body rest =>
    rw [Draft.trees, nodes_singleton, node_conditional]
    cases h : evaluator.test condition scope with
    | error e => simp only [branch, draft, h]
    | ok holds =>
      cases holds <;>
        simp only [branch, draft, h, nodes_trees body scope, nodes_trees_chain rest scope]

lemma nodes_trees_chain (rest : Chain) (scope : Scope) :
    branch evaluator process?
      (fun _ => nodes evaluator process? (rest.lastTree?.getD []) scope) rest.branchTrees scope =
        chain evaluator process? rest scope := by
  cases rest with
  | done =>
    simp only [Chain.branchTrees, Chain.lastTree?, branch, chain, Option.getD_none, nodes]
  | otherwise body =>
    simp only [Chain.branchTrees, Chain.lastTree?, branch, chain, Option.getD_some]
    exact nodes_trees body scope
  | elseIf condition body rest =>
    cases h : evaluator.test condition scope with
    | error e => simp only [Chain.branchTrees, branch, chain, h]
    | ok holds =>
      cases holds <;>
        simp only [Chain.branchTrees, Chain.lastTree?, branch, chain, h, nodes_trees body scope,
          nodes_trees_chain rest scope]

/-- The tree of a template means on the page what the template means. -/
lemma nodes_trees (xs : List Draft) (scope : Scope) :
    nodes evaluator process? (trees xs) scope = drafts evaluator process? xs scope := by
  cases xs with
  | nil => rfl
  | cons x xs =>
    rw [trees, nodes_append, nodes_trees_draft x scope, nodes_trees xs scope, drafts]

end

end Render

namespace Press

open Render

/-- **Well-formed templates mean what they say.** A well-formed template in which no text reads as a
marker comes on the page, when it is written down and rendered, as what it means. -/
theorem renderWithin_write {xs : List Draft} (h : WellFormed xs) (hclear : Clear xs) (press : Press)
    (room : Nat) (scope : Scope) :
    press.renderWithin room (write xs) scope =
      drafts press.evaluator (press.processor room) xs scope := by
  rw [← nodes_trees, ← ofMarkup_write h hclear]
  cases room with
  | zero => rw [renderWithin]; rfl
  | succ room => rw [renderWithin]; rfl

/-- A list of what a loop goes over, in both dialects, with three branches inside. -/
def sampleList : List Draft :=
  [.text "<ul>".toList,
    .loop .bracket ['1'] "x".toList (some "i".toList) "$.xs".toList
      [.conditional .tag [] "x".toList [.text "<li>".toList, .expression "x".toList]
        (.elseIf "i".toList [.style .bracket (some "$.root".toList) true]
          (.otherwise [.inclusion .tag "$.root".toList]))],
    .text "</ul>".toList]

theorem renderWithin_write_sampleList :
    WellFormed sampleList ∧ Clear sampleList ∧
      Press.renderWithin ⟨.empty, .standard⟩ 1 (write sampleList) (.node .null) =
        drafts .standard (Press.processor ⟨.empty, .standard⟩ 1) sampleList (.node .null) :=
  ⟨by decide +kernel, by decide +kernel,
    renderWithin_write (by decide +kernel) (by decide +kernel) ⟨.empty, .standard⟩ 1 (.node .null)⟩

/-- The body of the loop is a word. Written down it stands between two markers, whose signs make an
`else` of it. -/
def strayElse : List Draft :=
  [.conditional .bracket [] "true".toList
    [.loop .bracket [] "x".toList none "$.xs".toList [.text "else".toList]] .done]

/-- Well-formed templates that are not clear may say something else. -/
theorem render_strayElse :
    WellFormed strayElse ∧
      write strayElse = "%%if{true}%%%%for[x]{$.xs}%%else%%endfor%%%%endif%%".toList ∧
      (drafts .standard (Press.processor ⟨.empty, .standard⟩ inclusionLimit) strayElse
        (.node (.obj [("xs", .arr [.num (.int 1), .num (.int 2)])]))).text = "elseelse".toList ∧
      (Press.render ⟨.empty, .standard⟩ (write strayElse)
        (.node (.obj [("xs", .arr [.num (.int 1), .num (.int 2)])]))).text =
          "%%for[x]{$.xs}".toList := by
  decide +kernel

/-- An expression with a marker in it, whose letters are capitals. Markers are found in any case, so
a well-formed template has no such expression. -/
def capitalMarker : List Draft :=
  [.conditional .tag [] "true".toList [.expression "'</A-IF>'".toList] .done]

example : ¬ WellFormed capitalMarker ∧
    (drafts .standard (Press.processor ⟨.empty, .standard⟩ inclusionLimit) capitalMarker
      (.node .null)).text = "</A-IF>".toList ∧
    (Press.render ⟨.empty, .standard⟩ (write capitalMarker) (.node .null)).text =
      "\x7b\x7b''\x7d\x7d</a-if>".toList := by
  decide +kernel

end Press

end Pressroom
