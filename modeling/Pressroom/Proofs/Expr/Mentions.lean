import Mathlib.Tactic.Lemma
import Pressroom.Expr.Eval

/-!
The names that an expression mentions. Of a scope an expression sees what these names stand for and
nothing else: where they stand for the same, the expression comes to the same, be it a result or an
error.
-/

namespace Pressroom.Expr

namespace Term

mutual

/-- The names that an expression mentions. The names of properties, methods and keys are not among
them, but a key that stands for the variable of its name is. -/
def names : Term → List String
  | .literal _ => []
  | .name n => [n]
  | .member target _ _ => target.names
  | .index target key _ => target.names ++ key.names
  | .call target _ args _ => target.names ++ namesAll args
  | .unary _ operand => operand.names
  | .binary left _ right => left.names ++ right.names
  | .logical left _ right => left.names ++ right.names
  | .conditional test consequent alternate => test.names ++ consequent.names ++ alternate.names
  | .array items => namesAll items
  | .object entries => entryNames entries

def namesAll : List Term → List String
  | [] => []
  | term :: terms => term.names ++ namesAll terms

def entryNames : List (String × Term) → List String
  | [] => []
  | (_, term) :: entries => term.names ++ entryNames entries

end

end Term

/-- The names that an expression text mentions. A text that is malformed fails whatever its names
stand for. -/
def mentioned (source : List Char) : List String :=
  match Term.ofSource source with
  | .ok term => term.names
  | .error _ => []

/-- Two scopes in which some names stand for the same. -/
def AgreeOn (names : List String) (s s' : Scope) : Prop :=
  ∀ n ∈ names, lookup n s = lookup n s'

lemma agreeOn_append {ms ns : List String} {s s' : Scope} :
    AgreeOn (ms ++ ns) s s' ↔ AgreeOn ms s s' ∧ AgreeOn ns s s' := by
  simp only [AgreeOn, List.mem_append, or_imp, forall_and]

section Agree

variable {s s' : Scope}

mutual

/-- An expression comes to the same where its names stand for the same. -/
theorem eval_congr : (term : Term) → AgreeOn term.names s s' → term.eval s = term.eval s'
  | .literal v, _ => by rw [Term.eval, Term.eval]
  | .name n, h => by
    rw [Term.eval, Term.eval]
    exact h n (by simp [Term.names])
  | .member target property lenient, h => by
    rw [Term.names] at h
    rw [Term.eval, Term.eval, eval_congr target h]
  | .index target key lenient, h => by
    rw [Term.names, agreeOn_append] at h
    rw [Term.eval, Term.eval, eval_congr target h.1, eval_congr key h.2]
  | .call target method args lenient, h => by
    rw [Term.names, agreeOn_append] at h
    rw [Term.eval, Term.eval, eval_congr target h.1, evalAll_congr args h.2]
  | .unary op operand, h => by
    rw [Term.names] at h
    rw [Term.eval, Term.eval, eval_congr operand h]
  | .binary left op right, h => by
    rw [Term.names, agreeOn_append] at h
    rw [Term.eval, Term.eval, eval_congr left h.1, eval_congr right h.2]
  | .logical left op right, h => by
    rw [Term.names, agreeOn_append] at h
    rw [Term.eval, Term.eval, eval_congr left h.1, eval_congr right h.2]
  | .conditional test consequent alternate, h => by
    rw [Term.names, agreeOn_append, agreeOn_append] at h
    rw [Term.eval, Term.eval, eval_congr test h.1.1, eval_congr consequent h.1.2,
      eval_congr alternate h.2]
  | .array items, h => by
    rw [Term.names] at h
    rw [Term.eval, Term.eval, evalAll_congr items h]
  | .object entries, h => by
    rw [Term.names] at h
    rw [Term.eval, Term.eval, evalEntries_congr entries h]

theorem evalAll_congr : (terms : List Term) → AgreeOn (Term.namesAll terms) s s' →
    Term.evalAll s terms = Term.evalAll s' terms
  | [], _ => by rw [Term.evalAll, Term.evalAll]
  | term :: terms, h => by
    rw [Term.namesAll, agreeOn_append] at h
    rw [Term.evalAll, Term.evalAll, eval_congr term h.1, evalAll_congr terms h.2]

theorem evalEntries_congr : (entries : List (String × Term)) →
    AgreeOn (Term.entryNames entries) s s' →
    Term.evalEntries s entries = Term.evalEntries s' entries
  | [], _ => by rw [Term.evalEntries, Term.evalEntries]
  | (key, term) :: entries, h => by
    rw [Term.entryNames, agreeOn_append] at h
    rw [Term.evalEntries, Term.evalEntries, eval_congr term h.1, evalEntries_congr entries h.2]

end

/-- An expression text has the same value, truth or error where its names stand for the same. -/
lemma evaluate_congr {source : List Char} (h : AgreeOn (mentioned source) s s') :
    evaluate source s = evaluate source s' ∧ test source s = test source s' := by
  unfold evaluate test
  unfold mentioned at h
  cases hterm : Term.ofSource source with
  | error e => exact ⟨rfl, rfl⟩
  | ok term =>
    rw [hterm] at h
    have heval := eval_congr term h
    exact ⟨congrArg (Except.map Operand.toValue) heval, congrArg (Except.map Operand.truthy) heval⟩

end Agree

end Pressroom.Expr
