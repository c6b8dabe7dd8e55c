import Mathlib.Data.List.Forall2
import Mathlib.Tactic.Lemma
import Pressroom.Expr.Eval

/-!
Scopes as values. Expressions look into a scope without copying it. They could as well be evaluated
against a snapshot of the scope, a value in which every enclosing scope is a field: the results are
the same ones, and so are the errors.

A result of the one evaluation and a result of the other agree if they are equal, or if the first
is a scope and the second its snapshot. Every operation keeps agreement, `Sim`, and so does
evaluation.
-/

namespace Pressroom

namespace Scope

/-- The content node that a scope rests on. -/
def base : Scope → Value
  | node v => v
  | frame _ _ _ _ outer => outer.base

def depth : Scope → Nat
  | node _ => 0
  | frame _ _ _ _ outer => outer.depth + 1

end Scope

namespace Expr

/-- A value that stands for a scope: an object, and how many enclosing scopes there are in it. -/
structure Snapshot where
  value : Value
  depth : Nat

/-- The snapshot of a scope. -/
def Snapshot.ofScope (scope : Scope) : Snapshot := ⟨scope.toValue, scope.depth⟩

namespace Snapshot

/-- A field of a value, or else of the value in its field `root`, up to some depth. -/
def resolveIn (name : String) : (depth : Nat) → Value → Option Value
  | 0, value => value.field? name
  | depth + 1, value =>
    (value.field? name).or ((value.field? Scope.rootField).bind (resolveIn name depth))

/-- What a name stands for. The name `$` is the value itself. -/
def lookup (name : String) (snapshot : Snapshot) : Except EvalError Operand :=
  if name = "$" then .ok (.value snapshot.value)
  else match resolveIn name snapshot.depth snapshot.value with
    | some value => .ok (.value value)
    | none => if name = "Math" then .ok .math else .error (.unbound name)

mutual

/-- The intermediate result of an expression. There are no scopes in it. -/
def eval (snapshot : Snapshot) : Term → Except EvalError Operand
  | .literal v => .ok (.value v)
  | .name n => snapshot.lookup n
  | .member target property lenient => do
    let target ← eval snapshot target
    if lenient && target.isNull then return .null else target.property property
  | .index target key lenient => do
    let target ← eval snapshot target
    if lenient && target.isNull then return .null
    else
      let key ← eval snapshot key
      target.item key.toValue
  | .call target method args lenient => do
    let target ← eval snapshot target
    if lenient && target.isNull then return .null
    else
      let args ← evalAll snapshot args
      target.call method args
  | .unary op operand => do return (← eval snapshot operand).unary op
  | .binary left op right => do
    let left ← eval snapshot left
    let right ← eval snapshot right
    return left.binary op right
  | .logical left op right => do
    let left ← eval snapshot left
    if left.settles op then return left else eval snapshot right
  | .conditional test consequent alternate => do
    let test ← eval snapshot test
    if test.truthy then eval snapshot consequent else eval snapshot alternate
  | .array items => do
    let items ← evalAll snapshot items
    return .value (.arr (items.map Operand.toValue))
  | .object entries => do
    let entries ← evalEntries snapshot entries
    return .value (.obj (Value.ofEntries entries))

def evalAll (snapshot : Snapshot) : List Term → Except EvalError (List Operand)
  | [] => .ok []
  | term :: terms => do
    let first ← eval snapshot term
    let others ← evalAll snapshot terms
    return first :: others

def evalEntries (snapshot : Snapshot) :
    List (String × Term) → Except EvalError (List (String × Value))
  | [] => .ok []
  | (key, term) :: entries => do
    let first ← eval snapshot term
    let others ← evalEntries snapshot entries
    return (key, first.toValue) :: others

end

def evaluate (source : List Char) (snapshot : Snapshot) : Except EvalError Value := do
  let term ← Term.ofSource source
  return (← snapshot.eval term).toValue

def test (source : List Char) (snapshot : Snapshot) : Except EvalError Bool := do
  let term ← Term.ofSource source
  return (← snapshot.eval term).truthy

end Snapshot

/-! ### Fields of a scope -/

lemma toValue_of_base {scope : Scope} (h : scope.base.isObject = true) :
    ∃ fields, scope.toValue = .obj fields := by
  cases scope with
  | node v =>
    cases v with
    | obj fields => exact ⟨fields, rfl⟩
    | _ => simp [Scope.base, Value.isObject] at h
  | frame element v index position outer => exact ⟨_, rfl⟩

lemma field?_toValue (key : String) (scope : Scope) :
    scope.toValue.field? key = (scope.get? key).map Binding.toValue := by
  cases scope with
  | node v =>
    simp only [Scope.toValue, Scope.get?, Option.map_map]
    cases v.field? key <;> rfl
  | frame element v index position outer =>
    have hlast (fields : List (String × Value)) :
        (Value.insert Scope.rootField outer.toValue (Value.insert element v fields)).lookup key =
          if key = Scope.rootField then some outer.toValue
          else if key = element then some v else fields.lookup key := by
      rw [Value.lookup_insert, Value.lookup_insert]
    cases index with
    | none =>
      have h : (Scope.frame element v none position outer).toValue.field? key =
          (Value.insert Scope.rootField outer.toValue (Value.insert element v [])).lookup key := rfl
      rw [h, hlast, Scope.get?]
      split
      · rfl
      · split
        · rfl
        · simp
    | some name =>
      have h : (Scope.frame element v (some name) position outer).toValue.field? key =
          (Value.insert Scope.rootField outer.toValue
            (Value.insert element v (Value.insert name (.num (.int position)) []))).lookup key :=
        rfl
      rw [h, hlast, Value.lookup_insert, Scope.get?]
      split
      · rfl
      · split
        · rfl
        · simp only [Option.some.injEq, eq_comm (a := name)]
          split
          · rfl
          · rfl

lemma base_of_get? {key : String} {scope outer : Scope} (h : scope.get? key = some (.scope outer)) :
    outer.base = scope.base := by
  cases scope with
  | node v => simp [Scope.get?] at h
  | frame element v index position around =>
    simp only [Scope.get?] at h
    split at h
    · rw [Option.some.injEq, Binding.scope.injEq] at h
      rw [← h]
      rfl
    · split at h
      · simp at h
      · split at h <;> simp at h

lemma base_of_resolve? {name : String} {scope outer : Scope}
    (h : scope.resolve? name = some (.scope outer)) : outer.base = scope.base := by
  induction scope with
  | node v => exact base_of_get? h
  | frame element v index position around ih =>
    rw [Scope.resolve?, Option.or_eq_some_iff] at h
    rcases h with h | ⟨-, h⟩
    · exact base_of_get? h
    · exact ih h

/-- A bare name means the same in a scope and in its snapshot. -/
lemma resolveIn_toValue (name : String) (scope : Scope) :
    Snapshot.resolveIn name scope.depth scope.toValue =
      (scope.resolve? name).map Binding.toValue := by
  induction scope with
  | node v => exact field?_toValue name (.node v)
  | frame element v index position outer ih =>
    have hroot : (Scope.frame element v index position outer).toValue.field? Scope.rootField =
        some outer.toValue := by
      rw [field?_toValue, Scope.get?, if_pos rfl]
      rfl
    rw [Scope.depth, Snapshot.resolveIn, field?_toValue, hroot, Option.bind_some, ih,
      Scope.resolve?]
    cases (Scope.frame element v index position outer).get? name <;> rfl

/-! ### Agreement -/

/-- The first operand is what the second one is, or a scope of which the second one is the
snapshot. -/
inductive Sim : Operand → Operand → Prop where
  | value (v : Value) : Sim (.value v) (.value v)
  | scope (s : Scope) (h : s.base.isObject = true) : Sim (.scope s) (.value s.toValue)
  | math : Sim .math .math
  | nonFinite (x : Float) : Sim (.nonFinite x) (.nonFinite x)

/-- Two outcomes are the same error, or results that are related. -/
def Agree {α β : Type} (r : α → β → Prop) : Except EvalError α → Except EvalError β → Prop
  | .ok a, .ok b => r a b
  | .error e, .error f => e = f
  | _, _ => False

lemma Agree.bind {α β γ δ : Type} {r : α → β → Prop} {q : γ → δ → Prop}
    {x : Except EvalError α} {y : Except EvalError β} {f : α → Except EvalError γ}
    {g : β → Except EvalError δ} (h : Agree r x y) (hfg : ∀ a b, r a b → Agree q (f a) (g b)) :
    Agree q (x >>= f) (y >>= g) := by
  cases x with
  | error e =>
    cases y with
    | error e' => exact h
    | ok b => exact h.elim
  | ok a =>
    cases y with
    | error e' => exact h.elim
    | ok b => exact hfg a b h

lemma Agree.map_eq {α β γ : Type} {r : α → β → Prop} {x : Except EvalError α}
    {y : Except EvalError β} {f : α → γ} {g : β → γ} (h : Agree r x y)
    (hfg : ∀ a b, r a b → f a = g b) : x.map f = y.map g := by
  cases x with
  | error e =>
    cases y with
    | error e' => rw [show e = e' from h]; rfl
    | ok b => exact h.elim
  | ok a =>
    cases y with
    | error e' => exact h.elim
    | ok b => exact congrArg Except.ok (hfg a b h)

/-- An operand that is no scope. -/
def Operand.IsPlain : Operand → Prop
  | .scope _ => False
  | _ => True

lemma isPlain_ofFloat (x : Float) : (Operand.ofFloat x).IsPlain := by
  unfold Operand.ofFloat
  split <;> trivial

lemma Sim.refl {a : Operand} (h : a.IsPlain) : Sim a a := by
  cases a with
  | value v => exact .value v
  | scope s => exact h.elim
  | math => exact .math
  | nonFinite x => exact .nonFinite x

lemma agree_refl {x : Except EvalError Operand} (h : ∀ a, x = .ok a → a.IsPlain) :
    Agree Sim x x := by
  cases x with
  | error e => exact rfl
  | ok a => exact .refl (h a rfl)

def Operand.isNonFinite : Operand → Bool
  | .nonFinite _ => true
  | _ => false

lemma eitherNonFinite_eq (a b : Operand) :
    a.eitherNonFinite b = (a.isNonFinite || b.isNonFinite) := by
  cases a <;> cases b <;> rfl

/-- Two operands that are the same to every operator. -/
structure SameViews (a b : Operand) : Prop where
  toValue : a.toValue = b.toValue
  toFloat : a.toFloat = b.toFloat
  truthy : a.truthy = b.truthy
  isNull : a.isNull = b.isNull
  isNumber : a.isNumber = b.isNumber
  isTextual : a.isTextual = b.isTextual
  isNonFinite : a.isNonFinite = b.isNonFinite

namespace SameViews

variable {a b c d : Operand}

lemma refl (a : Operand) : SameViews a a :=
  ⟨rfl, rfl, rfl, rfl, rfl, rfl, rfl⟩

lemma text (h : SameViews a b) : a.text = b.text := by
  rw [Operand.text, Operand.text, h.toValue]

lemma unary (h : SameViews a b) (op : UnaryOp) : a.unary op = b.unary op := by
  cases op <;> simp [Operand.unary, h.truthy, h.toFloat]

lemma binary (h : SameViews a b) (h' : SameViews c d) (op : BinaryOp) :
    a.binary op c = b.binary op d := by
  have hloose : a.looseEq c = b.looseEq d := by
    simp [Operand.looseEq, eitherNonFinite_eq, h.toValue, h'.toValue, h.toFloat, h'.toFloat,
      h.isNull, h'.isNull, h.isNonFinite, h'.isNonFinite]
  have hstrict : a.strictEq c = b.strictEq d := by
    simp [Operand.strictEq, eitherNonFinite_eq, h.toValue, h'.toValue, h.toFloat, h'.toFloat,
      h.isNumber, h'.isNumber, h.isNonFinite, h'.isNonFinite]
  have horder : a.order? c = b.order? d := by
    simp [Operand.order?, eitherNonFinite_eq, h.toValue, h'.toValue, h.toFloat, h'.toFloat,
      h.isNonFinite, h'.isNonFinite]
  cases op <;> simp [Operand.binary, Operand.add, hloose, hstrict, horder, h.toFloat, h'.toFloat,
    h.isTextual, h'.isTextual, h.text, h'.text]

lemma settles (h : SameViews a b) (op : LogicalOp) : a.settles op = b.settles op := by
  cases op <;> simp [Operand.settles, h.truthy, h.isNull]

end SameViews

namespace Sim

variable {a b c d : Operand}

lemma views (h : Sim a b) : SameViews a b := by
  cases h with
  | scope s hs =>
    obtain ⟨fields, hf⟩ := toValue_of_base hs
    constructor <;>
      simp [Operand.toValue, Operand.toFloat, Operand.truthy, Operand.isNull, Operand.isNumber,
        Operand.isTextual, Operand.isNonFinite, Value.toFloat, Value.truthy, hf]
  | _ => exact .refl _

lemma toValue (h : Sim a b) : a.toValue = b.toValue := h.views.toValue

lemma toFloat (h : Sim a b) : a.toFloat = b.toFloat := h.views.toFloat

lemma truthy (h : Sim a b) : a.truthy = b.truthy := h.views.truthy

lemma isNull (h : Sim a b) : a.isNull = b.isNull := h.views.isNull

lemma unary (h : Sim a b) (op : UnaryOp) : a.unary op = b.unary op := h.views.unary op

lemma binary (h : Sim a b) (h' : Sim c d) (op : BinaryOp) : a.binary op c = b.binary op d :=
  h.views.binary h'.views op

lemma settles (h : Sim a b) (op : LogicalOp) : a.settles op = b.settles op := h.views.settles op

lemma ofBinding {binding : Binding} (h : ∀ s, binding = .scope s → s.base.isObject = true) :
    Sim (.ofBinding binding) (.value binding.toValue) := by
  cases binding with
  | value v => exact .value v
  | scope s => exact .scope s (h s rfl)

lemma property (h : Sim a b) (name : String) : Agree Sim (a.property name) (b.property name) := by
  cases h with
  | value v =>
    refine agree_refl fun a ha => ?_
    cases v <;>
      simp only [Operand.property, reduceCtorEq, Except.ok.injEq] at ha <;>
      subst ha <;> trivial
  | scope s hs =>
    have hb : (Operand.value s.toValue).property name =
        .ok (.value (((s.get? name).map Binding.toValue).getD .null)) := by
      rw [← field?_toValue]
      obtain ⟨fields, hf⟩ := toValue_of_base hs
      rw [hf]
      rfl
    rw [hb]
    show Sim (((s.get? name).map Operand.ofBinding).getD .null) _
    cases hget : s.get? name with
    | none => exact .value .null
    | some binding =>
      refine .ofBinding fun s' hs' => ?_
      rw [hs'] at hget
      rwa [base_of_get? hget]
  | math =>
    refine agree_refl fun a ha => ?_
    simp only [Operand.property, Except.ok.injEq] at ha
    subst ha
    split
    · trivial
    · split <;> trivial
  | nonFinite x => exact .value .null

lemma item (h : Sim a b) (key : Value) : Agree Sim (a.item key) (b.item key) := by
  cases h with
  | value v =>
    unfold Operand.item
    split
    · exact .value _
    · exact (Sim.value v).property key.text
  | scope s hs =>
    have hb : (Operand.value s.toValue).item key = (Operand.value s.toValue).property key.text := by
      obtain ⟨fields, hf⟩ := toValue_of_base hs
      rw [hf]
      rfl
    rw [hb]
    exact (Sim.scope s hs).property key.text
  | math => exact Sim.math.property key.text
  | nonFinite x => exact (Sim.nonFinite x).property key.text

lemma map_eq {α : Type} {f : Operand → α} (hf : ∀ a b, Sim a b → f a = f b)
    {args args' : List Operand} (h : List.Forall₂ Sim args args') : args.map f = args'.map f := by
  induction h with
  | nil => rfl
  | cons h _ ih => rw [List.map_cons, List.map_cons, hf _ _ h, ih]

lemma call (h : Sim a b) (method : String) {args args' : List Operand}
    (hargs : List.Forall₂ Sim args args') :
    Agree Sim (a.call method args) (b.call method args') := by
  have hvalues := map_eq (fun _ _ h => Sim.toValue h) hargs
  have hfloats := map_eq (fun _ _ h => Sim.toFloat h) hargs
  have hplain (target : Value) :
      Agree Sim ((Method.call target method (args'.map Operand.toValue)).map .value)
        ((Method.call target method (args'.map Operand.toValue)).map .value) := by
    refine agree_refl fun a ha => ?_
    cases hm : Method.call target method (args'.map Operand.toValue) with
    | error e => simp [hm, Except.map] at ha
    | ok v =>
      simp only [hm, Except.map, Except.ok.injEq] at ha
      subst ha
      trivial
  cases h with
  | value v =>
    simp only [Operand.call, hvalues]
    exact hplain v
  | scope s hs =>
    simp only [Operand.call, hvalues]
    exact hplain s.toValue
  | math =>
    simp only [Operand.call, hfloats]
    cases Method.math? method (args'.map Operand.toFloat) with
    | none => exact rfl
    | some x =>
      exact Sim.refl (isPlain_ofFloat x)
  | nonFinite x =>
    simp only [Operand.call, hvalues]
    split
    · exact .value _
    · exact hplain _

end Sim

/-! ### Evaluation -/

lemma isPlain_unary (op : UnaryOp) (a : Operand) : (a.unary op).IsPlain := by
  cases op with
  | not => trivial
  | neg => exact isPlain_ofFloat _
  | plus => exact isPlain_ofFloat _

lemma isPlain_binary (a : Operand) (op : BinaryOp) (b : Operand) : (a.binary op b).IsPlain := by
  cases op with
  | add =>
    simp only [Operand.binary, Operand.add]
    split
    · trivial
    · exact isPlain_ofFloat _
  | sub | mul | div | rem => exact isPlain_ofFloat _
  | _ => trivial

lemma lookup_agree {scope : Scope} (h : scope.base.isObject = true) (name : String) :
    Agree Sim (lookup name scope) ((Snapshot.ofScope scope).lookup name) := by
  unfold lookup Snapshot.lookup
  by_cases hname : name = "$"
  · rw [if_pos hname, if_pos hname]
    exact .scope scope h
  · have hresolve : Snapshot.resolveIn name (Snapshot.ofScope scope).depth
        (Snapshot.ofScope scope).value = (scope.resolve? name).map Binding.toValue :=
      resolveIn_toValue name scope
    rw [if_neg hname, if_neg hname, hresolve]
    cases hs : scope.resolve? name with
    | none =>
      simp only [Option.map_none]
      split
      · exact .math
      · exact rfl
    | some binding =>
      refine .ofBinding fun s hb => ?_
      rw [hb] at hs
      rwa [base_of_resolve? hs]

mutual

/-- Evaluation against a scope agrees with evaluation against its snapshot. -/
theorem eval_agree {scope : Scope} (h : scope.base.isObject = true) : (term : Term) →
    Agree Sim (term.eval scope) ((Snapshot.ofScope scope).eval term)
  | .literal v => .value v
  | .name n => lookup_agree h n
  | .member target property lenient => by
    refine (eval_agree h target).bind fun a b hab => ?_
    rw [hab.isNull]
    split
    · exact .value .null
    · exact hab.property property
  | .index target key lenient => by
    refine (eval_agree h target).bind fun a b hab => ?_
    rw [hab.isNull]
    split
    · exact .value .null
    · refine (eval_agree h key).bind fun k k' hk => ?_
      rw [hk.toValue]
      exact hab.item k'.toValue
  | .call target method args lenient => by
    refine (eval_agree h target).bind fun a b hab => ?_
    rw [hab.isNull]
    split
    · exact .value .null
    · exact (evalAll_agree h args).bind fun xs ys hxs => hab.call method hxs
  | .unary op operand => by
    refine (eval_agree h operand).bind fun a b hab => ?_
    rw [hab.unary]
    exact .refl (isPlain_unary op b)
  | .binary left op right => by
    refine (eval_agree h left).bind fun a b hab => (eval_agree h right).bind fun c d hcd => ?_
    rw [hab.binary hcd]
    exact .refl (isPlain_binary b op d)
  | .logical left op right => by
    refine (eval_agree h left).bind fun a b hab => ?_
    rw [hab.settles]
    split
    · exact hab
    · exact eval_agree h right
  | .conditional test consequent alternate => by
    refine (eval_agree h test).bind fun a b hab => ?_
    rw [hab.truthy]
    split
    · exact eval_agree h consequent
    · exact eval_agree h alternate
  | .array items => by
    refine (evalAll_agree h items).bind fun xs ys hxs => ?_
    rw [Sim.map_eq (fun _ _ h => Sim.toValue h) hxs]
    exact .value _
  | .object entries => by
    refine (evalEntries_agree h entries).bind fun xs ys hxs => ?_
    rw [hxs]
    exact .value _

theorem evalAll_agree {scope : Scope} (h : scope.base.isObject = true) : (terms : List Term) →
    Agree (List.Forall₂ Sim) (Term.evalAll scope terms)
      (Snapshot.evalAll (Snapshot.ofScope scope) terms)
  | [] => .nil
  | term :: terms =>
    (eval_agree h term).bind fun _ _ hab =>
      (evalAll_agree h terms).bind fun _ _ hxs => .cons hab hxs

theorem evalEntries_agree {scope : Scope} (h : scope.base.isObject = true) :
    (entries : List (String × Term)) →
    Agree Eq (Term.evalEntries scope entries)
      (Snapshot.evalEntries (Snapshot.ofScope scope) entries)
  | [] => rfl
  | (key, term) :: entries => by
    refine (eval_agree h term).bind fun a b hab =>
      (evalEntries_agree h entries).bind fun xs ys hxs => ?_
    rw [hab.toValue, hxs]
    exact rfl

end

/-- **A scope is as good as its value.** Evaluated against a scope that rests on an object, every
expression has the value, the truth or the error that it has against the snapshot of the scope, in
which scopes are values and enclosing scopes are fields of them. -/
theorem eval_snapshot (scope : Scope) (h : scope.base.isObject = true) :
    (∀ term : Term,
      (term.eval scope).map Operand.toValue =
          ((Snapshot.ofScope scope).eval term).map Operand.toValue ∧
        (term.eval scope).map Operand.truthy =
          ((Snapshot.ofScope scope).eval term).map Operand.truthy) ∧
      ∀ source : List Char,
        evaluate source scope = Snapshot.evaluate source (Snapshot.ofScope scope) ∧
          test source scope = Snapshot.test source (Snapshot.ofScope scope) := by
  have hvalue (term : Term) := (eval_agree h term).map_eq fun _ _ hab => hab.toValue
  have htruth (term : Term) := (eval_agree h term).map_eq fun _ _ hab => hab.truthy
  refine ⟨fun term => ⟨hvalue term, htruth term⟩, fun source => ?_⟩
  unfold evaluate test Snapshot.evaluate Snapshot.test
  cases Term.ofSource source with
  | error e => exact ⟨rfl, rfl⟩
  | ok term => exact ⟨hvalue term, htruth term⟩

/-- Two loops that name everything `root`, around a node with a field of that name. -/
def rootScope : Scope :=
  .frame "root" (.str "x") (some "root") 0
    (.frame "root" .null (some "root") 1 (.node (.obj [("root", .bool true)])))

theorem eval_snapshot_rootScope :
    rootScope.base.isObject = true ∧
      evaluate "root.root.root".toList rootScope =
        Snapshot.evaluate "root.root.root".toList (Snapshot.ofScope rootScope) ∧
      test "root.root.root".toList rootScope =
        Snapshot.test "root.root.root".toList (Snapshot.ofScope rootScope) :=
  ⟨rfl, (eval_snapshot rootScope rfl).2 "root.root.root".toList⟩

end Expr

end Pressroom
