import Mathlib.Data.Prod.Lex
import Pressroom.Render.Page

/-!
Pages made with a counter. Markup and content call for each other, and how many inclusions stand
inside each other is kept in one counter, which an inclusion moves on before its content and back
behind it. What a call does is given with the calls that it makes left open (`perform`), so nothing
in it says that this comes to an end.

What a call has in front of it is the inclusions that are left, then the content, then the markup
(`Call.measure`). The calls are run as long as that gets less (`run`).
-/

namespace Pressroom.Render

open Markup

/-- What expressions are put to, if the answers may depend on what was asked before. There is always
an answer. -/
structure Oracle (σ : Type) where
  evaluate : List Char → Scope → σ → Except Expr.EvalError Value × σ
  test : List Char → Scope → σ → Except Expr.EvalError Bool × σ

/-- An evaluator that remembers nothing. -/
def Oracle.ofEvaluator (evaluator : Evaluator) : Oracle Unit where
  evaluate := fun source scope _ => (evaluator.evaluate source scope, ())
  test := fun source scope _ => (evaluator.test source scope, ())

/-- Steps that go on from what the oracle remembers and from the counter. None, if they do not come
to an end. -/
abbrev Walk (σ α : Type) := StateT (σ × Nat) Option α

/-- What is called for: markup against a scope, or content. -/
inductive Call where
  | render (markup : List Char) (scope : Scope)
  | process (content : Value)

mutual

/-- How many entries content is made of, those of arrays in it included. -/
def contentSize : Value → Nat
  | .arr entries => entriesSize entries + 1
  | _ => 1

/-- How many entries the entries of an array are made of. -/
def entriesSize : List Value → Nat
  | [] => 0
  | entry :: entries => contentSize entry + entriesSize entries

end

lemma contentSize_pos (content : Value) : 0 < contentSize content := by
  cases content <;> simp [contentSize]

lemma contentSize_lt {entry : Value} {entries : List Value} (h : entry ∈ entries) :
    contentSize entry < contentSize (.arr entries) := by
  have hle : contentSize entry ≤ entriesSize entries := by
    induction entries with
    | nil => cases h
    | cons x entries ih =>
      rw [entriesSize]
      rcases List.mem_cons.1 h with rfl | h
      · exact Nat.le_add_right ..
      · exact Nat.le_trans (ih h) (Nat.le_add_left ..)
  exact Nat.lt_succ_of_le hle

/-- What a call has in front of it: the inclusions that are left, the content, and the markup. -/
def Call.measure (depth : Nat) : Call → Nat ×ₗ Nat ×ₗ Nat
  | render markup _ => toLex (inclusionLimit - depth, toLex (0, markup.length))
  | process content => toLex (inclusionLimit - depth, toLex (contentSize content, 0))

namespace Call

lemma measure_render_lt (depth : Nat) {body markup : List Char} (h : body.length < markup.length)
    (scope scope' : Scope) :
    (render body scope).measure depth < (render markup scope').measure depth :=
  Prod.Lex.toLex_lt_toLex.2 (.inr ⟨rfl, Prod.Lex.toLex_lt_toLex.2 (.inr ⟨rfl, h⟩)⟩)

lemma measure_process_lt {depth : Nat} (h : depth < inclusionLimit) (content : Value)
    (markup : List Char) (scope : Scope) :
    (process content).measure (depth + 1) < (render markup scope).measure depth :=
  Prod.Lex.toLex_lt_toLex.2 (.inl (Nat.sub_lt_sub_left h (Nat.lt_succ_self depth)))

lemma measure_entry_lt (depth : Nat) {entry : Value} {entries : List Value} (h : entry ∈ entries) :
    (process entry).measure depth < (process (.arr entries)).measure depth :=
  Prod.Lex.toLex_lt_toLex.2 (.inr ⟨rfl, Prod.Lex.toLex_lt_toLex.2 (.inl (contentSize_lt h))⟩)

lemma measure_section_lt (depth : Nat) (markup : List Char) (scope : Scope) (content : Value) :
    (render markup scope).measure depth < (process content).measure depth :=
  Prod.Lex.toLex_lt_toLex.2 (.inr ⟨rfl, Prod.Lex.toLex_lt_toLex.2 (.inl (contentSize_pos _))⟩)

end Call

namespace Walk

variable {σ : Type}

def ask {α : Type} (answer : σ → α × σ) : Walk σ α :=
  fun (s, depth) => some ((answer s).1, (answer s).2, depth)

def counter : Walk σ Nat :=
  fun (s, depth) => some (depth, s, depth)

def setCounter (depth : Nat) : Walk σ Unit :=
  fun (s, _) => some ((), s, depth)

variable (sections : Sections) (oracle : Oracle σ) (self : Call → Walk σ Output)

/-- An answer of the oracle, and what comes of it. -/
def consulted {α : Type} (answer : σ → α × σ) (event : α → Event) (next : α → Walk σ Output) :
    Walk σ Output := do
  let outcome ← ask answer
  return .after (event outcome) (← next outcome)

/-- The value of an expression, and what comes of it. -/
def evaluated (source : List Char) (scope : Scope) :
    (Except Expr.EvalError Value → Walk σ Output) → Walk σ Output :=
  consulted (oracle.evaluate source scope) (.evaluated source)

/-- Whether a condition holds, and what comes of it. -/
def tested (source : List Char) (scope : Scope) :
    (Except Expr.EvalError Bool → Walk σ Output) → Walk σ Output :=
  consulted (oracle.test source scope) (.tested source)

/-- Content in the place of an inclusion, if there is room for it. -/
def inclusion (source : List Char) (scope : Scope) : Walk σ Output := do
  let depth ← counter
  if inclusionLimit ≤ depth then return .ofProblem (.inclusionTooDeep source)
  else evaluated oracle source scope fun
    | .ok value => do
      setCounter (depth + 1)
      let content ← self (.process (asTree value))
      setCounter depth
      return content
    | .error e => return .ofProblem (.inclusionFailed source e)

def loop (element : String) (index : Option String) (source body : List Char) (scope : Scope) :
    Walk σ Output :=
  evaluated oracle source scope fun
    | .ok (.arr items) => do
      let rounds ← items.zipIdx.mapM fun (item, position) =>
        self (.render body (.frame element item index position scope))
      return .concat rounds
    | .ok other => return .ofProblem (.loopNotAnArray source other)
    | .error e => return .ofProblem (.loopFailed source e)

/-- The first branch whose condition holds; later conditions are not looked at. -/
def choice (otherwise : Option (List Char)) (scope : Scope) : List Branch → Walk σ Output
  | [] => match otherwise with
    | some body => self (.render body scope)
    | none => return .empty
  | b :: branches => tested oracle b.condition scope fun
    | .ok true => self (.render b.body scope)
    | .ok false => choice otherwise scope branches
    | .error e => return .ofProblem (.conditionFailed e)

def directive (scope : Scope) : Directive → Walk σ Output
  | .text t => return .ofText t
  | .expression source => evaluated oracle source scope fun outcome => return shown source outcome
  | .style none spread => return declarations none spread (.ok (scope.style?.getD .null))
  | .style (some source) spread =>
    evaluated oracle source scope fun outcome => return declarations (some source) spread outcome
  | .inclusion source => inclusion oracle self source scope
  | .loop element index source body => loop oracle self element index source body scope
  | .conditional branches otherwise => choice oracle self otherwise scope branches

def entry : Value → Walk σ Entry
  | .arr items => do return .ofOutput (← self (.process (.arr items)))
  | .obj fields =>
    let type := ((Value.obj fields).field? "type").bind Value.str?
    match type.bind sections.get? with
    | some markup => do return .ofOutput (← self (.render markup (.node (.obj fields))))
    | none => return .skipped (.unknownSection type)
  | other => return .skipped (.notANode other)

/-- What a call does; `self` is what the calls do that it makes. -/
def perform : Call → Walk σ Output
  | .render markup scope => do
    return .concat (← (directives markup).mapM (directive oracle self scope))
  | .process (.arr entries) => do
    return joinEntries (← entries.mapM (entry sections self))
  | .process content => return .ofProblem (.contentNotAnArray content)

end Walk

open Walk

/-- A call and all that comes of it. A call with no less in front of it than the one that makes it
is refused: it does not come to an end. -/
def run {σ : Type} (sections : Sections) (oracle : Oracle σ) (call : Call) (state : σ × Nat) :
    Option (Output × (σ × Nat)) :=
  perform sections oracle
    (fun call' state' =>
      if _ : call'.measure state'.2 < call.measure state.2 then run sections oracle call' state'
      else none)
    call state
termination_by call.measure state.2
decreasing_by assumption

end Pressroom.Render
