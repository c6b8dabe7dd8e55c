import Pressroom.Proofs.Render.Content
import Pressroom.Proofs.Render.Nesting

/-!
Failures and reports. What can fail is said here by what a machine is at and what the oracle says to
it, and without the texts and events that come of it (`Machine.fails`). A step in which something
fails adds one record, and every other step adds none (`records_step`). Main statement: a call has
as many records as there are failures on its way.
-/

namespace Pressroom.Render

open Markup

def isArray : Value → Bool
  | .arr _ => true
  | _ => false

/-- Whether there are declarations in a value: it is an object or a text, or not true. -/
def isStyle : Value → Bool
  | .obj _ => true
  | .str _ => true
  | other => !other.truthy

/-- Whether there is no value, or none of this kind. -/
def rejects {α : Type} (kind : α → Bool) : Except Expr.EvalError α → Bool
  | .ok value => !kind value
  | .error _ => true

namespace Machine

variable {σ : Type} (sections : Sections) (oracle : Oracle σ)

/-- Whether the expression of a directive fails. -/
def rejected (m : Machine σ) (source : List Char) (scope : Scope) (kind : Value → Bool) : Bool :=
  rejects kind (oracle.evaluate source scope m.memory).1

/-- Whether a directive fails that a machine is at. -/
def directiveFails (m : Machine σ) (scope : Scope) : Directive → Bool
  | .text _ => false
  | .expression source => m.rejected oracle source scope fun _ => true
  | .style none _ => !isStyle (scope.style?.getD .null)
  | .style (some source) _ => m.rejected oracle source scope isStyle
  | .inclusion source =>
    decide (inclusionLimit ≤ m.enclosing) || m.rejected oracle source scope fun _ => true
  | .loop _ _ source _ => m.rejected oracle source scope isArray
  | .conditional [] _ => false
  | .conditional (b :: _) _ =>
    rejects (fun _ => true) (oracle.test b.condition scope m.memory).1

/-- Whether what a machine is at fails: a directive, content to process that is not an array, or an
entry that is neither an array nor a node whose type is the name of a section. -/
def fails (m : Machine σ) : Bool :=
  match m.focus with
  | .task (.directive scope d) => m.directiveFails oracle scope d
  | .task (.call (.process content)) => !isArray content
  | .task (.call (.render _ _)) => false
  | .task (.entry content) => !isArray content && !(nodeCall? sections content).isSome
  | .given _ => false

def records (m : Machine σ) : List Record :=
  m.events.filterMap Event.record?

end Machine

/-! ### Moves -/

/-- How many records there are among events. -/
def reports (events : List Event) : Nat :=
  (events.filterMap Event.record?).length

lemma reports_shown (source : List Char) (outcome : Except Expr.EvalError Value) :
    reports (Move.show (shown source outcome)).events =
      (rejects (fun _ => true) outcome).toNat := by
  cases outcome <;> rfl

lemma declarations_isOk (value : Value) : (Style.declarations value).isOk = isStyle value := by
  cases value with
  | obj fields => rfl
  | str s => rfl
  | _ =>
    simp only [Style.declarations, isStyle]
    split <;> simp_all [Except.isOk, Except.toBool]

lemma reports_declarations (selector : Option (List Char)) (spread : Bool)
    (outcome : Except Expr.EvalError Value) :
    reports (Move.show (declarations selector spread outcome)).events =
      (rejects isStyle outcome).toNat := by
  cases outcome with
  | error e => rfl
  | ok value =>
    have hbind : (Except.ok value).bind Style.declarations = Style.declarations value := rfl
    rw [declarations, hbind, rejects, ← declarations_isOk]
    cases Style.declarations value <;> rfl

lemma reports_inclusionMove (source : List Char) (outcome : Except Expr.EvalError Value) :
    reports (inclusionMove source outcome).events = (rejects (fun _ => true) outcome).toNat := by
  cases outcome <;> rfl

lemma reports_loopMove (element : String) (index : Option String) (source body : List Char)
    (scope : Scope) (outcome : Except Expr.EvalError Value) :
    reports (loopMove element index source body scope outcome).events =
      (rejects isArray outcome).toNat := by
  cases outcome with
  | error e => rfl
  | ok value => cases value <;> rfl

lemma reports_branchMove (scope : Scope) (body : List Char) (branches : List Branch)
    (otherwise : Option (List Char)) (outcome : Except Expr.EvalError Bool) :
    reports (branchMove scope body branches otherwise outcome).events =
      (rejects (fun _ => true) outcome).toNat := by
  cases outcome with
  | error e => rfl
  | ok holds => cases holds <;> rfl

lemma reports_entryMove (sections : Sections) (content : Value) :
    reports (entryMove sections content).events =
      (!isArray content && !(nodeCall? sections content).isSome).toNat := by
  cases content with
  | obj fields =>
    simp only [entryMove, nodeCall?]
    cases (((Value.obj fields).field? "type").bind Value.str?).bind sections.get? <;> rfl
  | _ => rfl

namespace Machine

variable {σ : Type} {sections : Sections} {oracle : Oracle σ} {m m' : Machine σ}

/-! ### Steps -/

lemma reports_inclusion (h : Counted (some inclusionLimit) m) (source : List Char) (scope : Scope) :
    let inclusion := directiveAct (m.full (some inclusionLimit)) scope (.inclusion source)
    reports (m.answered oracle inclusion ++ (m.chosen oracle inclusion).events) =
      (m.directiveFails oracle scope (.inclusion source)).toNat := by
  intro inclusion
  have hfull : m.full (some inclusionLimit) = decide (inclusionLimit ≤ m.enclosing) := by
    rw [full, Option.any_some, h.counter_eq]
  rw [directiveFails, show inclusion = directiveAct _ scope (.inclusion source) from rfl, hfull]
  cases decide (inclusionLimit ≤ m.enclosing) with
  | true => rfl
  | false => exact reports_inclusionMove source _

lemma reports_news (h : Counted (some inclusionLimit) m) :
    reports (m.news sections oracle (some inclusionLimit)) = (m.fails sections oracle).toNat := by
  rw [news, fails]
  cases m.focus with
  | given text? => rfl
  | task task =>
    cases task with
    | call call =>
      cases call with
      | render markup scope => rfl
      | process content => cases content <;> rfl
    | entry content => exact reports_entryMove sections content
    | directive scope d =>
      cases d with
      | text t => rfl
      | expression source => exact reports_shown source _
      | style selector spread =>
        cases selector with
        | none => exact reports_declarations none spread (.ok _)
        | some source => exact reports_declarations (some source) spread _
      | inclusion source => exact reports_inclusion h source scope
      | loop element index source body => exact reports_loopMove element index source body scope _
      | conditional branches otherwise =>
        cases branches with
        | nil => cases otherwise <;> rfl
        | cons b branches => exact reports_branchMove scope b.body branches otherwise _

lemma records_step (h : Counted (some inclusionLimit) m)
    (hstep : step sections oracle (some inclusionLimit) m = some m') :
    ∃ new, m'.records = m.records ++ new ∧ new.length = (m.fails sections oracle).toNat := by
  refine ⟨(m.news sections oracle (some inclusionLimit)).filterMap Event.record?, ?_,
    reports_news h⟩
  rw [records, events_step hstep, List.filterMap_append]
  rfl

lemma records_of_steps {visited : List (Machine σ)}
    (hsteps : Steps (step sections oracle (some inclusionLimit)) m visited m')
    (h : ∀ m ∈ visited, Counted (some inclusionLimit) m) :
    m'.records.length = m.records.length + visited.countP (fails sections oracle) := by
  -- on the whole way, by induction on the steps
  induction hsteps with
  | nil => rfl
  | @cons a b c visited hstep _ ih =>
    obtain ⟨new, hrecords, hlength⟩ := records_step (h a List.mem_cons_self) hstep
    rw [ih fun m hm => h m (List.mem_cons_of_mem _ hm), hrecords, List.length_append, hlength,
      List.countP_cons, Nat.add_assoc, Nat.add_comm (List.countP _ _)]
    cases fails sections oracle a <;> rfl

end Machine

open Machine

/-- **No failure is silent, and none is reported twice.** A call has as many records as there are
failures on its way: in a step in which something fails one record is added, in every other step
none. So if there are no records, nothing has failed. -/
theorem records_count_failures {σ : Type} (sections : Sections) (oracle : Oracle σ) (call : Call)
    (s : σ) :
    ∃ output s' visited,
      run sections oracle call (s, 0) = some (output, s', 0) ∧
      Means oracle (answer sections inclusionLimit call) output ∧
      Steps (step sections oracle (some inclusionLimit)) (start call s 0) visited
        (finish output s' 0) ∧
      output.records.length = visited.countP (fails sections oracle) ∧
      (∀ m ∈ visited, ∀ m', step sections oracle (some inclusionLimit) m = some m' →
        ∃ new, m'.records = m.records ++ new ∧ new.length = (m.fails sections oracle).toNat) ∧
      (output.records = [] ↔ ∀ m ∈ visited, m.fails sections oracle = false) := by
  obtain ⟨output, s', visited, hrun, hmeans, hsteps⟩ := exists_steps sections oracle call s 0
  have hcounted : ∀ m ∈ visited, Counted (some inclusionLimit) m := (counted_of_steps hsteps).1
  have hlength : output.records.length = visited.countP (fails sections oracle) := by
    have h := records_of_steps hsteps hcounted
    rwa [show (start call s 0).records = [] from rfl, List.length_nil, Nat.zero_add] at h
  refine ⟨output, s', visited, hrun, hmeans, hsteps, hlength,
    fun m hm m' hstep => records_step (hcounted m hm) hstep, ?_⟩
  rw [← List.length_eq_zero_iff, hlength, List.countP_eq_zero]
  simp only [Bool.not_eq_true]

end Pressroom.Render
