import Mathlib
import Pressroom.Proofs.Expr.Enclosed
import Pressroom.Proofs.Expr.Snapshot
import Pressroom.Render.Page

/-!
Truth. A condition is judged before its result leaves the evaluation, as the operators judge their
operands. Judged by its value instead, a result is the same truth value unless it is NaN, which as
a value is a text that is not empty.
-/

namespace Pressroom

/-! ### Numbers are written with at least one character -/

namespace Number

lemma pointed_ne_nil (places n : Nat) : pointed places n ≠ [] := by
  have hdigits : digits n ≠ [] := Nat.toDigits_ne_nil
  unfold pointed
  dsimp only
  split
  · next h =>
    rw [h]
    simp [hdigits]
  · simp

lemma positional_ne_nil (showsFraction : Bool) (d : Decimal) :
    positional showsFraction d ≠ [] := by
  have hdigits : digits d.coefficient ≠ [] := Nat.toDigits_ne_nil
  unfold positional
  split
  · simp [hdigits]
  · exact pointed_ne_nil _ _

lemma Layout.write_ne_nil (layout : Layout) (b : Binary) : layout.write b ≠ [] := by
  unfold Layout.write
  split
  · simp
  · apply List.append_ne_nil_of_right_ne_nil
    split
    · exact positional_ne_nil _ _
    · simp [scientific]

lemma text_ne_empty (x : Float) : text x ≠ "" := by
  unfold text
  split
  · next b h =>
    intro hempty
    have := congrArg String.toList hempty
    exact plain.write_ne_nil b (by simpa using this)
  · split
    · decide
    · split <;> decide

end Number

namespace Expr

open Render Markup

/-! ### The truth of an operand and that of its value -/

lemma Operand.truthy_toValue_nonFinite (x : Float) :
    (Operand.nonFinite x).toValue.truthy = true :=
  bne_iff_ne.2 (Number.text_ne_empty x)

lemma Operand.truthy_toValue_iff {a : Operand} (hs : ∀ s, a = .scope s → s.base.isObject = true) :
    a.toValue.truthy = a.truthy ↔ ¬ ∃ x, a = .nonFinite x ∧ x.isNaN = true := by
  cases a with
  | value v => simp [toValue, truthy]
  | scope s =>
    obtain ⟨fields, hfields⟩ := toValue_of_base (hs s rfl)
    simp [toValue, truthy, hfields, Value.truthy]
  | math => simp [toValue, truthy, Value.truthy, mathText]
  | nonFinite x => simp [truthy_toValue_nonFinite, truthy, eq_comm (a := true)]

lemma base_of_eval {scope s : Scope} {term : Term} (h : scope.base.isObject = true)
    (hs : term.eval scope = .ok (.scope s)) : s.base.isObject = true := by
  have hagree := eval_agree h term
  rw [hs] at hagree
  cases hsnapshot : (Snapshot.ofScope scope).eval term with
  | error e => simp [hsnapshot, Agree] at hagree
  | ok b =>
    rw [hsnapshot] at hagree
    cases (show Sim (.scope s) b from hagree) with
    | scope _ hbase => exact hbase

/-! ### The truth of an expression -/

section Truth

variable {source : List Char} {term : Term} {scope : Scope}

lemma evaluate_eq (hterm : Term.ofSource source = .ok term) :
    evaluate source scope = (term.eval scope).map Operand.toValue := by
  rw [evaluate, hterm]
  rfl

lemma test_eq (hterm : Term.ofSource source = .ok term) :
    test source scope = (term.eval scope).map Operand.truthy := by
  rw [test, hterm]
  rfl

lemma evaluate_negatedTwice (hterm : Term.ofSource source = .ok term) :
    evaluate (negatedTwice source) scope = (test source scope).map .bool := by
  rw [evaluate_eq (ofSource_negatedTwice hterm), test_eq hterm, Term.eval, Term.eval]
  cases term.eval scope with
  | error e => rfl
  | ok a =>
    show Except.ok (Value.bool (!!a.truthy)) = .ok (.bool a.truthy)
    rw [Bool.not_not]

lemma evaluate_chosen (hterm : Term.ofSource source = .ok term) :
    evaluate (chosen source) scope = (test source scope).map .bool := by
  rw [evaluate_eq (ofSource_chosen hterm), test_eq hterm, Term.eval]
  cases term.eval scope with
  | error e => rfl
  | ok a =>
    simp only [ok_bind, Term.eval]
    cases h : a.truthy <;> simp [Except.map, Operand.toValue, h]

/-- The default way to test judges values; NaN is what it gets wrong. -/
lemma test_eq_ofValues_iff (hterm : Term.ofSource source = .ok term)
    (hbase : scope.base.isObject = true) :
    test source scope = (Evaluator.ofValues evaluate).test source scope ↔
      ¬ ∃ x, term.eval scope = .ok (.nonFinite x) ∧ x.isNaN = true := by
  have hvalues : (Evaluator.ofValues evaluate).test source scope =
      ((term.eval scope).map Operand.toValue).map Value.truthy := by
    rw [← evaluate_eq hterm]
    rfl
  rw [hvalues, test_eq hterm]
  cases heval : term.eval scope with
  | error e => simp [Except.map]
  | ok a =>
    have hs (s : Scope) (ha : a = .scope s) : s.base.isObject = true :=
      base_of_eval hbase (ha ▸ heval)
    have := Operand.truthy_toValue_iff hs
    simpa [Except.map, eq_comm] using this

lemma text_conditional (hterm : Term.ofSource source = .ok term) (process? : Option (Value → Output))
    (body : List Char) (branches : List Branch) (otherwise : Option (List Char)) :
    (node .standard process?
        (Node.ofDirective (.conditional (⟨source, body⟩ :: branches) otherwise)) scope).text =
      match evaluate (chosen source) scope with
      | .ok (.bool true) => (nodes .standard process? (Node.ofMarkup body) scope).text
      | .ok (.bool false) =>
        (node .standard process? (Node.ofDirective (.conditional branches otherwise)) scope).text
      | _ => [] := by
  have hbranch (rest : Unit → Output) :
      (branch .standard process? rest ((source, Node.ofMarkup body) ::
          branches.map fun b => (b.condition, Node.ofMarkup b.body)) scope).text =
        match (test source scope).map Value.bool with
        | .ok (.bool true) => (nodes .standard process? (Node.ofMarkup body) scope).text
        | .ok (.bool false) =>
          (branch .standard process? rest
            (branches.map fun b => (b.condition, Node.ofMarkup b.body)) scope).text
        | _ => [] := by
    rw [branch]
    simp only [Evaluator.standard, Output.after]
    cases test source scope with
    | error e => rfl
    | ok b => cases b <;> rfl
  rw [evaluate_chosen hterm]
  cases otherwise with
  | none => simpa only [Node.ofDirective, List.map_cons, Option.map_none, node] using hbranch _
  | some rest => simpa only [Node.ofDirective, List.map_cons, Option.map_some, node] using hbranch _

end Truth

/-- **Truth is judged alike.** The test of an expression is what two negations of it and what the
conditional operator make of it, failures included. It is also the truth of the value of the
expression, in a scope that rests on an object, unless the result is NaN. And a condition picks the
branch that the conditional operator would pick. -/
theorem test_judged_alike {source : List Char} {term : Term}
    (hterm : Term.ofSource source = .ok term) (scope : Scope) :
    evaluate (negatedTwice source) scope = (test source scope).map .bool ∧
      evaluate (chosen source) scope = (test source scope).map .bool ∧
      (scope.base.isObject = true →
        (test source scope = (Evaluator.ofValues evaluate).test source scope ↔
          ¬ ∃ x, term.eval scope = .ok (.nonFinite x) ∧ x.isNaN = true)) ∧
      ∀ process? body branches otherwise,
        (node .standard process?
            (Node.ofDirective (.conditional (⟨source, body⟩ :: branches) otherwise)) scope).text =
          match evaluate (chosen source) scope with
          | .ok (.bool true) => (nodes .standard process? (Node.ofMarkup body) scope).text
          | .ok (.bool false) =>
            (node .standard process? (Node.ofDirective (.conditional branches otherwise))
              scope).text
          | _ => [] :=
  ⟨evaluate_negatedTwice hterm, evaluate_chosen hterm, test_eq_ofValues_iff hterm,
    text_conditional hterm⟩

def zeroByZero : Term :=
  .binary (.literal (.num (.int 0))) .div (.literal (.num (.int 0)))

lemma ofSource_zeroByZero : Term.ofSource "0 / 0".toList = .ok zeroByZero := by
  have hread :=
    ofSource_spaced (Draft.derives_lexemes .single (.binary (.num zero) .div (.num zero)))
  have hterm : (Draft.binary (.num zero) .div (.num zero)).term = zeroByZero := by
    simp [Draft.term, ofFloat_zero, zeroByZero]
  rw [hterm] at hread
  exact hread

lemma eval_zeroByZero (scope : Scope) : zeroByZero.eval scope = .ok (.nonFinite Number.nan) := rfl

/-- NaN is false for a condition and for the operators; its value is a text, which is true. -/
theorem test_judged_alike_zeroByZero :
    Term.ofSource "0 / 0".toList = .ok zeroByZero ∧
      (Scope.node (.obj [])).base.isObject = true ∧
      evaluate (chosen "0 / 0".toList) (.node (.obj [])) =
        (test "0 / 0".toList (.node (.obj []))).map .bool ∧
      test "0 / 0".toList (.node (.obj [])) ≠
        (Evaluator.ofValues evaluate).test "0 / 0".toList (.node (.obj [])) := by
  obtain ⟨-, hchosen, hvalues, -⟩ := test_judged_alike ofSource_zeroByZero (.node (.obj []))
  refine ⟨ofSource_zeroByZero, rfl, hchosen, fun h => ?_⟩
  exact (hvalues rfl).1 h ⟨Number.nan, eval_zeroByZero _, by decide⟩

end Expr

end Pressroom
