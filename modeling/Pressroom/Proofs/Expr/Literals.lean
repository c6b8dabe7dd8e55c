import Pressroom.Proofs.Expr.Truth

/-!
Expressions inside literals. Literals hold values, so a result that is put into one and taken out
again comes back as its value. Operators take that value for the result itself, unless the result is
a number that is not finite, whose value is a text, or a scope around a node that is false or counts
as a number, where the scope itself is true and counts as none.
-/

namespace Pressroom.Expr

/-! ### What comes out of a literal -/

section Taken

variable {scope : Scope} {term : Term} {a : Operand}

lemma eval_boxed (ha : term.eval scope = .ok a) :
    term.boxed.eval scope = .ok (.value a.toValue) := by
  have hposition : Operand.position? (.num (.int 0)) = some 0 := by decide +kernel
  have hitem : (Operand.value (.arr [a.toValue])).item (.num (.int 0)) =
      .ok (.value a.toValue) := by
    simp [Operand.item, hposition]
  simpa [Term.boxed, Term.eval, Term.evalAll, ha, ok_bind, Operand.toValue] using hitem

lemma eval_keyed (ha : term.eval scope = .ok a) (k : Word) :
    (term.keyed k).eval scope = .ok (.value a.toValue) := by
  have hproperty : (Operand.value (.obj [(k.name, a.toValue)])).property k.name =
      .ok (.value a.toValue) := by
    simp [Operand.property, Value.field?]
  simpa [Term.keyed, Term.eval, Term.evalEntries, ha, ok_bind, Value.ofEntries, Value.insert] using
    hproperty

end Taken

/-! ### Under operators -/

/-- An expression with a gap, under any number of operators. -/
inductive Gap where
  | here
  | unary (op : UnaryOp) (inner : Gap)
  | left (inner : Gap) (op : BinaryOp) (other : Term)
  | right (other : Term) (op : BinaryOp) (inner : Gap)
  | first (inner : Gap) (op : LogicalOp) (other : Term)
  | second (other : Term) (op : LogicalOp) (inner : Gap)

def Gap.fill (term : Term) : Gap → Term
  | here => term
  | unary op inner => .unary op (inner.fill term)
  | left inner op other => .binary (inner.fill term) op other
  | right other op inner => .binary other op (inner.fill term)
  | first inner op other => .logical (inner.fill term) op other
  | second other op inner => .logical other op (inner.fill term)

/-- Two expressions of which either may stand for the other, alone and under operators: the value is
the same, and so is the truth. -/
def Interchangeable (scope : Scope) (t u : Term) : Prop :=
  ∀ gap : Gap,
    ((gap.fill t).eval scope).map Operand.toValue = ((gap.fill u).eval scope).map Operand.toValue ∧
      ((gap.fill t).eval scope).map Operand.truthy = ((gap.fill u).eval scope).map Operand.truthy

lemma agree_same (x : Except EvalError Operand) : Agree SameViews x x := by
  cases x with
  | error e => exact rfl
  | ok a => exact .refl a

/-- What operators cannot tell apart stays so under one more operator, and so under any number. -/
lemma fill_agree {scope : Scope} {t u : Term} (h : Agree SameViews (t.eval scope) (u.eval scope))
    (gap : Gap) : Agree SameViews ((gap.fill t).eval scope) ((gap.fill u).eval scope) := by
  induction gap with
  | here => exact h
  | unary op inner ih =>
    refine ih.bind fun a b hab => ?_
    rw [hab.unary]
    exact .refl _
  | left inner op other ih =>
    refine ih.bind fun a b hab => (agree_same _).bind fun c d hcd => ?_
    rw [hab.binary hcd]
    exact .refl _
  | right other op inner ih =>
    refine (agree_same _).bind fun a b hab => ih.bind fun c d hcd => ?_
    rw [hab.binary hcd]
    exact .refl _
  | first inner op other ih =>
    refine ih.bind fun a b hab => ?_
    rw [hab.settles]
    split
    · exact hab
    · exact agree_same _
  | second other op inner ih =>
    refine (agree_same _).bind fun a b hab => ?_
    rw [hab.settles]
    split
    · exact hab
    · exact ih

lemma interchangeable_of_agree {scope : Scope} {t u : Term}
    (h : Agree SameViews (t.eval scope) (u.eval scope)) : Interchangeable scope t u :=
  fun gap => ⟨(fill_agree h gap).map_eq fun _ _ hab => hab.toValue,
    (fill_agree h gap).map_eq fun _ _ hab => hab.truthy⟩

/-! ### Operands and their values -/

/-- Whether an operand is the same to operators as its value. A scope is true, and as a number it is
NaN, whatever its value is. -/
def Operand.Survives : Operand → Prop
  | .value _ | .math => True
  | .scope s => s.toValue.truthy = true ∧ s.toValue.toFloat.isNaN = true
  | .nonFinite _ => False

lemma eq_nan_of_isNaN {x : Float} (h : x.isNaN = true) : x = Number.nan := by
  rw [Float.isNaN_eq_decide_eq_nan, decide_eq_true_eq] at h
  rw [h]
  decide

lemma isTextual_of_truthy {v : Value} (htruthy : v.truthy = true) (hnan : v.toFloat.isNaN = true) :
    (Operand.value v).isNull = false ∧ (Operand.value v).isNumber = false ∧
      (Operand.value v).isTextual = true := by
  cases v with
  | null => cases htruthy
  | bool b =>
    obtain rfl : b = true := htruthy
    exact absurd hnan (by decide)
  | num n =>
    have hself : (n.toFloat == n.toFloat) = true := (Bool.and_eq_true_iff.1 htruthy).2
    rw [Float.isNaN_eq_decide_eq_nan, decide_eq_true_eq] at hnan
    exact absurd hnan (Float.beq_self_iff.1 hself)
  | str _ | arr _ | obj _ => exact ⟨rfl, rfl, rfl⟩

lemma sameViews_of_survives {a : Operand} (h : a.Survives) : SameViews a (.value a.toValue) := by
  cases a with
  | value v => exact .refl _
  | math => exact ⟨rfl, by decide +kernel, by decide, rfl, rfl, rfl, rfl⟩
  | nonFinite x => exact h.elim
  | scope s =>
    obtain ⟨htruthy, hnan⟩ := h
    obtain ⟨hnull, hnumber, htextual⟩ := isTextual_of_truthy htruthy hnan
    exact ⟨rfl, (eq_nan_of_isNaN hnan).symm, htruthy.symm, hnull.symm, hnumber.symm, htextual.symm,
      rfl⟩

lemma ofFloat_ne_str (x : Float) (s : String) : Value.ofFloat x ≠ .str s := by
  unfold Value.ofFloat
  split
  · exact nofun
  · split <;> exact nofun

lemma isNaN_of_ofFloat {x : Float} (hfalse : (Operand.ofFloat x).truthy = false) {s : String}
    (hvalue : (Operand.ofFloat x).toValue = .str s) : x.isNaN = true := by
  unfold Operand.ofFloat at hfalse hvalue
  split at hvalue
  · exact absurd hvalue (ofFloat_ne_str x s)
  · next hfinite =>
    rw [if_neg hfinite] at hfalse
    rw [Float.isNaN_eq_decide_eq_nan, decide_eq_true_eq]
    exact Float.beq_self_eq_false_iff.1 hfalse

/-- An operand that is not the same as its value is told apart from it by its truth, as a number
or by comparing it with itself. -/
lemma survives_of_interchangeable {scope : Scope} {t u : Term} {a : Operand}
    (ht : t.eval scope = .ok a) (hu : u.eval scope = .ok (.value a.toValue))
    (h : Interchangeable scope t u) : a.Survives := by
  have htruthy : a.truthy = a.toValue.truthy := by
    have := (h .here).2
    simpa [Gap.fill, ht, hu, Except.map, Operand.truthy] using this
  cases a with
  | value v => trivial
  | math => trivial
  | scope s =>
    refine ⟨htruthy.symm, ?_⟩
    have hplus := h (.unary .plus .here)
    have hnan : (Operand.scope s).unary .plus = .nonFinite Number.nan :=
      if_neg (show ¬ Number.isFinite Number.nan = true by decide)
    simp only [Gap.fill, Term.eval, ht, hu, ok_bind, hnan] at hplus
    have hvalue : Value.str (Number.text Number.nan) =
        (Operand.ofFloat s.toValue.toFloat).toValue := Except.ok.inj hplus.1
    have hfalse : (Number.nan == Number.nan) = (Operand.ofFloat s.toValue.toFloat).truthy :=
      Except.ok.inj hplus.2
    exact isNaN_of_ofFloat (hfalse.symm.trans (by decide)) hvalue.symm
  | nonFinite x =>
    have hself := (h (.left .here .strictEq t)).1
    simp only [Gap.fill, Term.eval, ht, hu, ok_bind] at hself
    have hequal : Value.bool (x == x) = .bool false := Except.ok.inj hself
    rw [Operand.truthy_toValue_nonFinite] at htruthy
    exact absurd (Value.bool.inj hequal) (by rw [show (x == x) = true from htruthy]; decide)

lemma interchangeable_iff {scope : Scope} {t u : Term} {a : Operand}
    (ht : t.eval scope = .ok a) (hu : u.eval scope = .ok (.value a.toValue)) :
    Interchangeable scope t u ↔ a.Survives := by
  refine ⟨survives_of_interchangeable ht hu, fun h => interchangeable_of_agree ?_⟩
  rw [ht, hu]
  exact sameViews_of_survives h

lemma survives_iff {scope : Scope} {term : Term} {a : Operand} (h : scope.base.isObject = true)
    (ha : term.eval scope = .ok a) : a.Survives ↔ a.isNonFinite = false := by
  cases a with
  | value v => simp [Operand.Survives, Operand.isNonFinite]
  | math => simp [Operand.Survives, Operand.isNonFinite]
  | nonFinite x => simp [Operand.Survives, Operand.isNonFinite]
  | scope s =>
    obtain ⟨fields, hfields⟩ := toValue_of_base (base_of_eval h ha)
    have hsurvives : (Operand.scope s).Survives := by
      rw [Operand.Survives, hfields]
      exact ⟨rfl, show Number.nan.isNaN = true by decide⟩
    simp [hsurvives, Operand.isNonFinite]

/-- **What literals keep.** An expression in an array or in an object, taken out again, has the
value of the expression in parentheses. It may stand for that expression under all operators just
when the result survives as a value, which in a scope that rests on an object all results do but
NaN and the infinities. -/
theorem literals_keep_iff {source : List Char} {term : Term}
    (hterm : Term.ofSource source = .ok term) {scope : Scope} {a : Operand}
    (ha : term.eval scope = .ok a) (k : Word) :
    (evaluate (parenthesised source) scope = .ok a.toValue ∧
        evaluate (boxed source) scope = .ok a.toValue ∧
        evaluate (keyed k source) scope = .ok a.toValue) ∧
      (∃ t b c, Term.ofSource (parenthesised source) = .ok t ∧
        Term.ofSource (boxed source) = .ok b ∧ Term.ofSource (keyed k source) = .ok c ∧
        (Interchangeable scope t b ↔ a.Survives) ∧ (Interchangeable scope t c ↔ a.Survives)) ∧
      (scope.base.isObject = true → (a.Survives ↔ a.isNonFinite = false)) := by
  have hparenthesised := ofSource_parenthesised hterm
  have hboxed := ofSource_boxed hterm
  have hkeyed := ofSource_keyed hterm k
  refine ⟨⟨?_, ?_, ?_⟩, ⟨term, term.boxed, term.keyed k, hparenthesised, hboxed, hkeyed,
    interchangeable_iff ha (eval_boxed ha), interchangeable_iff ha (eval_keyed ha k)⟩,
    fun h => survives_iff h ha⟩
  · rw [evaluate_eq hparenthesised, ha]
    rfl
  · rw [evaluate_eq hboxed, eval_boxed ha]
    rfl
  · rw [evaluate_eq hkeyed, eval_keyed ha]
    rfl

/-- Zero divided by zero does not survive. -/
theorem literals_keep_iff_zeroByZero :
    Term.ofSource "0 / 0".toList = .ok zeroByZero ∧
      zeroByZero.eval (.node (.obj [])) = .ok (.nonFinite Number.nan) ∧
      evaluate (boxed "0 / 0".toList) (.node (.obj [])) = .ok (.str (Number.text Number.nan)) ∧
      ∃ t b, Term.ofSource (parenthesised "0 / 0".toList) = .ok t ∧
        Term.ofSource (boxed "0 / 0".toList) = .ok b ∧
        ¬ Interchangeable (.node (.obj [])) t b := by
  obtain ⟨⟨-, hboxed, -⟩, ⟨t, b, -, ht, hb, -, hiff, -⟩, -⟩ :=
    literals_keep_iff ofSource_zeroByZero (eval_zeroByZero (.node (.obj []))) .null
  exact ⟨ofSource_zeroByZero, eval_zeroByZero _, hboxed, t, b, ht, hb, hiff.1⟩

/-- The value of NaN is a text like any other, so it is true. -/
theorem literals_lose_nan :
    test (parenthesised "0 / 0".toList) (.node (.obj [])) = .ok false ∧
      test (boxed "0 / 0".toList) (.node (.obj [])) = .ok true := by
  refine ⟨?_, ?_⟩
  · rw [test_eq (ofSource_parenthesised ofSource_zeroByZero), eval_zeroByZero]
    exact congrArg Except.ok (by decide)
  · rw [test_eq (ofSource_boxed ofSource_zeroByZero), eval_boxed (eval_zeroByZero _)]
    exact congrArg Except.ok (Operand.truthy_toValue_nonFinite _)

end Pressroom.Expr
