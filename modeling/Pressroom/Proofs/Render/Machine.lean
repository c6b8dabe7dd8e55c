import Pressroom.Proofs.Render.Counter

/-!
Pages made step by step. A machine is at one task, or at what the last one gave; on a stack in front
of it lies what waits for that: rows of tasks, whose texts are joined, and inclusions, behind which
the counter is put back. What is done for a task is said without an oracle (`act`): a move, or a
question and a move for each answer. There are four moves, so what a step keeps is shown move by
move and not directive by directive.

The bound for inclusions is a part of the machine and can be left out. Without it a machine may go
on for ever.
-/

namespace Pressroom.Render

open Markup

/-! ### Steps -/

/-- From one state to another, with the states in which a step was made. -/
inductive Steps {α : Type} (step : α → Option α) : α → List α → α → Prop where
  | nil (a : α) : Steps step a [] a
  | cons {a b c : α} {visited : List α} (hstep : step a = some b)
      (hsteps : Steps step b visited c) : Steps step a (a :: visited) c

namespace Steps

variable {α : Type} {step step' : α → Option α} {a b c : α} {visited visited' : List α}

lemma single (h : step a = some b) : Steps step a [a] b :=
  .cons h (.nil b)

lemma append (h : Steps step a visited b) (h' : Steps step b visited' c) :
    Steps step a (visited ++ visited') c := by
  induction h with
  | nil => exact h'
  | cons hstep _ ih => exact .cons hstep (ih h')

lemma invariant {P : α → Prop} (hkeeps : ∀ a b, P a → step a = some b → P b)
    (h : Steps step a visited b) (ha : P a) : (∀ c ∈ visited, P c) ∧ P b := by
  induction h with
  | nil => exact ⟨fun c hc => by simp at hc, ha⟩
  | cons hstep _ ih =>
    obtain ⟨hvisited, hb⟩ := ih (hkeeps _ _ ha hstep)
    refine ⟨fun c hc => ?_, hb⟩
    rcases List.mem_cons.1 hc with rfl | hc
    · exact ha
    · exact hvisited c hc

lemma congr (h : Steps step a visited b) (hsame : ∀ c ∈ visited, step c = step' c) :
    Steps step' a visited b := by
  induction h with
  | nil => exact .nil _
  | cons hstep _ ih =>
    refine .cons ?_ (ih fun c hc => hsame c (List.mem_cons_of_mem _ hc))
    rw [← hsame _ List.mem_cons_self]
    exact hstep

lemma of_mem (h : Steps step a visited b) (hc : c ∈ visited) :
    ∃ before after, visited = before ++ after ∧ Steps step a before c ∧ Steps step c after b := by
  induction h with
  | nil => simp at hc
  | @cons a b' b visited hstep hsteps ih =>
    rcases List.mem_cons.1 hc with rfl | hc
    · exact ⟨[], _, rfl, .nil _, .cons hstep hsteps⟩
    · obtain ⟨before, after, rfl, hbefore, hafter⟩ := ih hc
      exact ⟨a :: before, after, rfl, .cons hstep hbefore, hafter⟩

lemma split (h : Steps step a visited b) (hb : step b = none) (h' : Steps step a visited' c) :
    ∃ after, visited = visited' ++ after ∧ Steps step c after b := by
  induction h' generalizing visited with
  | nil => exact ⟨visited, rfl, h⟩
  | cons hstep' _ ih =>
    cases h with
    | nil => rw [hb] at hstep'; cases hstep'
    | cons hstep hsteps =>
      rw [hstep] at hstep'
      cases hstep'
      obtain ⟨after, rfl, hafter⟩ := ih hsteps
      exact ⟨after, rfl, hafter⟩

end Steps

/-! ### Tasks -/

/-- What there is to do: a call, a directive of a markup, or an entry of a content array. -/
inductive Task where
  | call (call : Call)
  | directive (scope : Scope) (directive : Directive)
  | entry (content : Value)

/-- What a task leads to when there is nothing left to ask. -/
inductive Move where
  /-- It comes to a text of its own or to none, with events. -/
  | give (entry : Entry)
  /-- Another task stands for it. -/
  | turn (task : Task)
  /-- Tasks stand for it, one after the other. -/
  | row (separator : List Char) (tasks : List Task)
  /-- Content stands for it, inside an inclusion. -/
  | enter (content : Value)

/-- What is done for a task: a move, or a question and a move for each answer. -/
inductive Act where
  | move (move : Move)
  | evaluate (source : List Char) (scope : Scope) (next : Except Expr.EvalError Value → Move)
  | test (source : List Char) (scope : Scope) (next : Except Expr.EvalError Bool → Move)

def Move.show (output : Output) : Move := .give (.ofOutput output)

def Move.events : Move → List Event
  | .give entry => entry.events
  | _ => []

/-- An included expression that has been evaluated. -/
def inclusionMove (source : List Char) : Except Expr.EvalError Value → Move
  | .ok value => .enter (asTree value)
  | .error e => .show (.ofProblem (.inclusionFailed source e))

/-- A loop whose expression has been evaluated: a row of rounds. -/
def loopMove (element : String) (index : Option String) (source body : List Char) (scope : Scope) :
    Except Expr.EvalError Value → Move
  | .ok (.arr items) => .row [] (items.zipIdx.map fun (item, position) =>
      .call (.render body (.frame element item index position scope)))
  | .ok other => .show (.ofProblem (.loopNotAnArray source other))
  | .error e => .show (.ofProblem (.loopFailed source e))

/-- A conditional whose first condition has been tested. If it does not hold, the conditional with
the other branches stands for it. -/
def branchMove (scope : Scope) (body : List Char) (branches : List Branch)
    (otherwise : Option (List Char)) : Except Expr.EvalError Bool → Move
  | .ok true => .turn (.call (.render body scope))
  | .ok false => .turn (.directive scope (.conditional branches otherwise))
  | .error e => .show (.ofProblem (.conditionFailed e))

/-- What is done for a directive. An inclusion finds the counter at the bound, or not. -/
def directiveAct (full : Bool) (scope : Scope) : Directive → Act
  | .text t => .move (.show (.ofText t))
  | .expression source => .evaluate source scope fun outcome => .show (shown source outcome)
  | .style none spread =>
    .move (.show (declarations none spread (.ok (scope.style?.getD .null))))
  | .style (some source) spread =>
    .evaluate source scope fun outcome => .show (declarations (some source) spread outcome)
  | .inclusion source =>
    if full then .move (.show (.ofProblem (.inclusionTooDeep source)))
    else .evaluate source scope (inclusionMove source)
  | .loop element index source body =>
    .evaluate source scope (loopMove element index source body scope)
  | .conditional [] none => .move (.show .empty)
  | .conditional [] (some body) => .move (.turn (.call (.render body scope)))
  | .conditional (b :: branches) otherwise =>
    .test b.condition scope (branchMove scope b.body branches otherwise)

/-- What an entry of a content array leads to. -/
def entryMove (sections : Sections) : Value → Move
  | .arr items => .turn (.call (.process (.arr items)))
  | .obj fields =>
    let type := ((Value.obj fields).field? "type").bind Value.str?
    match type.bind sections.get? with
    | some markup => .turn (.call (.render markup (.node (.obj fields))))
    | none => .give (.skipped (.unknownSection type))
  | other => .give (.skipped (.notANode other))

def act (sections : Sections) (full : Bool) : Task → Act
  | .call (.render markup scope) => .move (.row [] ((directives markup).map (.directive scope)))
  | .call (.process (.arr entries)) => .move (.row ['\n'] (entries.map .entry))
  | .call (.process content) => .move (.show (.ofProblem (.contentNotAnArray content)))
  | .directive scope d => directiveAct full scope d
  | .entry content => .move (entryMove sections content)

/-! ### Machines -/

/-- What a machine is at: a task, or what the last one gave. -/
inductive Focus where
  | task (task : Task)
  | given (text? : Option (List Char))

/-- What waits for what a machine is at. -/
inductive Frame where
  /-- A row of tasks: the texts that there are, and the tasks that are left. -/
  | row (separator : List Char) (texts : List (List Char)) (tasks : List Task)
  /-- An inclusion, and where the counter was in front of it. -/
  | inclusion (depth : Nat)

/-- A machine, with the counter, with what the oracle remembers, and with what has happened. -/
structure Machine (σ : Type) where
  focus : Focus
  frames : List Frame
  counter : Nat
  memory : σ
  events : List Event

namespace Machine

variable {σ : Type}

def start (call : Call) (s : σ) (depth : Nat) : Machine σ :=
  ⟨.task (.call call), [], depth, s, []⟩

def finish (output : Output) (s : σ) (depth : Nat) : Machine σ :=
  ⟨.given (some output.text), [], depth, s, output.events⟩

/-- A move. A row begins with no text and goes on like behind a task. -/
def make (m : Machine σ) : Move → Machine σ
  | .give entry => { m with focus := .given entry.text?, events := m.events ++ entry.events }
  | .turn task => { m with focus := .task task }
  | .row separator tasks =>
    { m with focus := .given none, frames := .row separator [] tasks :: m.frames }
  | .enter content =>
    { m with
      focus := .task (.call (.process content))
      frames := .inclusion m.counter :: m.frames
      counter := m.counter + 1 }

def asked {α : Type} (m : Machine σ) (answer : σ → α × σ) (event : α → Event) : Machine σ :=
  { m with
    memory := (answer m.memory).2
    events := m.events ++ [event (answer m.memory).1] }

/-- The question of a task, if it has one. -/
def consult (oracle : Oracle σ) (m : Machine σ) : Act → Machine σ
  | .move _ => m
  | .evaluate source scope _ => m.asked (oracle.evaluate source scope) (.evaluated source)
  | .test source scope _ => m.asked (oracle.test source scope) (.tested source)

/-- The move that is made for a task, by the answer to its question. -/
def chosen (oracle : Oracle σ) (m : Machine σ) : Act → Move
  | .move move => move
  | .evaluate source scope next => next (oracle.evaluate source scope m.memory).1
  | .test source scope next => next (oracle.test source scope m.memory).1

def execute (oracle : Oracle σ) (m : Machine σ) (act : Act) : Machine σ :=
  (m.consult oracle act).make (m.chosen oracle act)

/-- What is done behind a task, if anything waits for what it gave. -/
def resume (m : Machine σ) (text? : Option (List Char)) : List Frame → Option (Machine σ)
  | [] => none
  | .row separator texts [] :: frames =>
    some { m with
      focus := .given (some (Text.join separator (texts ++ text?.toList)))
      frames }
  | .row separator texts (task :: tasks) :: frames =>
    some { m with
      focus := .task task
      frames := .row separator (texts ++ text?.toList) tasks :: frames }
  | .inclusion depth :: frames => some { m with frames, counter := depth }

variable (sections : Sections) (oracle : Oracle σ) (limit? : Option Nat)

/-- Whether the counter is at the bound, if there is one. -/
def full (m : Machine σ) : Bool :=
  limit?.any (· ≤ m.counter)

/-- One step. None, if there is nothing left to do. -/
def step (m : Machine σ) : Option (Machine σ) :=
  match m.focus with
  | .task task => some (m.execute oracle (act sections (m.full limit?) task))
  | .given text? => m.resume text? m.frames

variable {sections oracle limit?} {m m' : Machine σ}

lemma step_task {task : Task} (h : m.focus = .task task) :
    step sections oracle limit? m =
      some (m.execute oracle (act sections (m.full limit?) task)) := by
  rw [step, h]

/-- All that a step can do. -/
lemma step_cases (h : step sections oracle limit? m = some m') :
    (∃ task, m.focus = .task task ∧
      m' = m.execute oracle (act sections (m.full limit?) task)) ∨
    ∃ text?, m.focus = .given text? ∧ m.resume text? m.frames = some m' := by
  cases hfocus : m.focus with
  | task task =>
    rw [step_task hfocus] at h
    exact .inl ⟨task, rfl, (Option.some.inj h).symm⟩
  | given text? =>
    rw [step, hfocus] at h
    exact .inr ⟨text?, rfl, h⟩

/-! ### What happens -/

variable (sections oracle limit?)

lemma step_finish (output : Output) (s : σ) (depth : Nat) :
    step sections oracle limit? (finish output s depth) = none := rfl

/-- The answer to the question of a task, if it has one. -/
def answered (m : Machine σ) : Act → List Event
  | .move _ => []
  | .evaluate source scope _ => [.evaluated source (oracle.evaluate source scope m.memory).1]
  | .test source scope _ => [.tested source (oracle.test source scope m.memory).1]

/-- What happens in a step. Behind a task nothing does. -/
def news (m : Machine σ) : List Event :=
  match m.focus with
  | .task task =>
    m.answered oracle (act sections (m.full limit?) task) ++
      (m.chosen oracle (act sections (m.full limit?) task)).events
  | .given _ => []

variable {sections oracle limit?}

lemma events_make (m : Machine σ) (move : Move) :
    (m.make move).events = m.events ++ move.events := by
  cases move with
  | give entry => rfl
  | _ => exact (List.append_nil _).symm

lemma events_consult (m : Machine σ) (act : Act) :
    (m.consult oracle act).events = m.events ++ m.answered oracle act := by
  cases act with
  | move move => exact (List.append_nil _).symm
  | _ => rfl

lemma events_resume {text? : Option (List Char)} {frames : List Frame}
    (h : m.resume text? frames = some m') : m'.events = m.events := by
  cases frames with
  | nil => cases h
  | cons frame frames =>
    cases frame with
    | row separator texts tasks => cases tasks <;> cases h <;> rfl
    | inclusion depth => cases h; rfl

lemma events_step (h : step sections oracle limit? m = some m') :
    m'.events = m.events ++ m.news sections oracle limit? := by
  rcases step_cases h with ⟨task, hfocus, rfl⟩ | ⟨text?, hfocus, hresume⟩
  · rw [execute, events_make, events_consult, news, hfocus, List.append_assoc]
  · rw [events_resume hresume, news, hfocus, List.append_nil]

lemma events_of_steps {visited : List (Machine σ)}
    (h : Steps (step sections oracle limit?) m visited m') :
    m'.events = m.events ++ visited.flatMap (news sections oracle limit?) := by
  induction h with
  | nil => exact (List.append_nil _).symm
  | cons hstep _ ih => rw [ih, events_step hstep, List.flatMap_cons, List.append_assoc]

end Machine

end Pressroom.Render
